/-
The boundary of a TLS engine.

An engine is an already configured TLS state machine. It never touches the network: it talks through four byte windows
and reports through `EngineState` which of them are ready.

  window    holds                          flag
  sendRec   ciphertext for the network     `EngineState.sendRec`
  recvRec   ciphertext from the network    `EngineState.recvRec`
  sendApp   plaintext from the caller      `EngineState.sendApp`
  recvApp   plaintext for the caller       `EngineState.recvApp`

A `…Buf` operation hands out the current window; the `…Ack` operation of the same name consumes bytes of it. To
acknowledge more than the window just handed out is a violation of the protocol. The two windows that the client fills
are written through `fillRecvRec` and `storeSendApp`.
-/
import TlsClient.Engine.State
import TlsClient.Session.Parameters

namespace TlsClient

/-- error number of an engine; zero means no error -/
structure EngineCode where
  number : Int
  deriving DecidableEq, Repr, Inhabited

namespace EngineCode

/-- no error -/
def ok : EngineCode := ⟨0⟩

/-- is the number zero? -/
def isOk (code : EngineCode) : Bool := decide (code.number = 0)

/-- the error number in words -/
def message (code : EngineCode) : String := s!"engine error {code.number}"

end EngineCode

/-- a board whose state `β` holds a TLS engine -/
class Engine (β : Type) where
  /-- the flags right now -/
  state : β → EngineState
  /-- ciphertext for the network; empty if none is queued -/
  sendRecBuf : β → Bytes
  /-- that many bytes of it were sent -/
  sendRecAck : Nat → β → β
  /-- hand out a window for ciphertext; its length is what the engine wants -/
  recvRecBuf : β → Bytes × β
  /-- write to the front of the window handed out -/
  fillRecvRec : Bytes → β → β
  /-- that many bytes of the window are ciphertext -/
  recvRecAck : Nat → β → β
  /-- hand out the window for plaintext; its length is the capacity right now -/
  sendAppBuf : β → Bytes × β
  /-- write to the plaintext window from an offset on -/
  storeSendApp : Nat → Bytes → β → β
  /-- encrypt that many bytes of the plaintext window -/
  sendAppAck : Nat → β → β
  /-- decrypted plaintext for the caller -/
  recvAppBuf : β → Bytes
  /-- that many bytes of it were taken -/
  recvAppAck : Nat → β → β
  /-- make records of buffered plaintext; if forced, even of none -/
  flushApp : Bool → β → β
  /-- start a fresh handshake that resumes the parameters offered last -/
  reset : Option String → β → Except EngineCode Unit × β
  /-- the parameters of the last completed handshake -/
  sessionParameters : β → SessionParameters
  /-- offer parameters for the next `reset` -/
  offer : SessionParameters → β → β
  /-- mix seed material into the generator of the engine -/
  injectEntropy : Bytes → β → β
  /-- the last error -/
  lastError : β → EngineCode

end TlsClient

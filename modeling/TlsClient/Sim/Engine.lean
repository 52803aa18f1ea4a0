/-
A simulated TLS engine.

It has the shape of a handshake and no cryptography.
1. `reset` queues `hello` for the network.
2. The engine then wants `serverFlight` bytes from the peer, or `resumedFlight` if parameters were offered.
3. Once they are there the handshake is complete and the session has the parameters `issued`.
In the application phase encryption is the identity: plaintext handed over is queued for the network as it is, and
ciphertext received becomes readable plaintext. With `sharedBuffer` unread plaintext keeps the engine from taking more.

Every acknowledgement is compared with the window it refers to. One that exceeds its window is cut to it and counted in
`violations` (`grant`).
- `EngineEdit`, `edit`: changes from outside;
- `EngineCall`, `apply`, `run`: the operations as data, and histories of them.
-/
import TlsClient.Engine.Basic

namespace TlsClient

/-- where a simulated engine stands -/
inductive SimPhase where
  /-- not started -/
  | idle
  /-- that many bytes of the peer's flight are still wanted -/
  | awaiting (remaining : Nat)
  /-- plaintext may flow -/
  | app
  | closed
  deriving DecidableEq, Repr, Inhabited

/-- the parameters a simulated engine yields if it is not told otherwise -/
def sampleParameters : SessionParameters :=
  ⟨List.replicate 32 0xab, [0x03, 0x03, 0xc0, 0x2f], by decide, by decide⟩

/-- the state of a simulated engine -/
structure SimEngine where
  phase : SimPhase := .idle
  /-- ciphertext queued by a reset -/
  hello : Bytes := "client-hello".toUTF8.toList
  /-- bytes wanted from the peer in a full handshake -/
  serverFlight : Nat := 48
  /-- bytes wanted from the peer when a session is resumed, if different -/
  resumedFlight : Option Nat := none
  /-- length of the plaintext window -/
  capacity : Nat := 64
  /-- unread plaintext keeps the engine from taking more -/
  sharedBuffer : Bool := false
  /-- the parameters a completed handshake yields -/
  issued : SessionParameters := sampleParameters
  /-- a reset fails with this number -/
  resetError : Option EngineCode := none
  lastError : EngineCode := .ok
  /-- the flags to report, whatever the phase -/
  forced : Option EngineState := none
  /-- ciphertext for the network -/
  outgoing : Bytes := []
  /-- the window for ciphertext, as handed out last -/
  recvWindow : Bytes := []
  /-- the window for plaintext; old bytes stay in it -/
  plainWindow : Bytes := []
  /-- plaintext for the caller -/
  unread : Bytes := []
  session : SessionParameters := .empty
  /-- parameters to resume at the next reset -/
  offered : Option SessionParameters := none
  /-- parameters the last successful reset resumed -/
  resumedWith : Option SessionParameters := none
  /-- server names of all resets -/
  resets : List (Option String) := []
  entropy : Bytes := []
  /-- length of every hand-over of plaintext -/
  handovers : List Nat := []
  /-- all plaintext handed over -/
  plaintext : Bytes := []
  flushes : Nat := 0
  handshakes : Nat := 0
  /-- acknowledgements that exceeded their window -/
  violations : Nat := 0
  deriving DecidableEq, Repr

instance : Inhabited SimEngine := ⟨{}⟩

/-- a change to a simulated engine from outside -/
inductive EngineEdit where
  | hello (bytes : Bytes)
  | serverFlight (length : Nat)
  | resumedFlight (length : Option Nat)
  | capacity (length : Nat)
  | sharedBuffer (yes : Bool)
  | issued (parameters : SessionParameters)
  | resetError (code : Option EngineCode)
  | lastError (code : EngineCode)
  | forced (state : Option EngineState)
  /-- plaintext appears for the caller -/
  | deliver (bytes : Bytes)
  /-- ciphertext appears for the network -/
  | queue (bytes : Bytes)
  /-- a fatal alert or a closure by the peer -/
  | close
  deriving DecidableEq, Repr

namespace SimEngine

/-- make a change from outside -/
def edit (e : SimEngine) : EngineEdit → SimEngine
  | .hello bytes => { e with hello := bytes }
  | .serverFlight length => { e with serverFlight := length }
  | .resumedFlight length => { e with resumedFlight := length }
  | .capacity length => { e with capacity := length }
  | .sharedBuffer yes => { e with sharedBuffer := yes }
  | .issued parameters => { e with issued := parameters }
  | .resetError code => { e with resetError := code }
  | .lastError code => { e with lastError := code }
  | .forced state => { e with forced := state }
  | .deliver bytes => { e with unread := e.unread ++ bytes }
  | .queue bytes => { e with outgoing := e.outgoing ++ bytes }
  | .close => { e with phase := .closed }

/-- enter the application phase with the issued parameters -/
def establish (e : SimEngine) : SimEngine := { e with phase := .app, session := e.issued }

/-- an engine with a handshake behind it -/
def established : SimEngine := establish {}

/-! ## Flags and windows -/

/-- the flags in the application phase, with nothing queued -/
def appState (e : SimEngine) : EngineState where
  recvRec := e.unread.isEmpty
  recvApp := !e.unread.isEmpty
  sendApp := !(e.sharedBuffer && !e.unread.isEmpty)

/-- the flags the phase and the buffers call for; queued ciphertext goes before all else -/
def naturalState (e : SimEngine) : EngineState :=
  match e.phase with
  | .idle => .invalid
  | .closed => { closed := true }
  | .awaiting _ => if e.outgoing.isEmpty then { recvRec := true } else { sendRec := true }
  | .app => if e.outgoing.isEmpty then e.appState else { sendRec := true }

/-- the flags right now -/
def state (e : SimEngine) : EngineState := e.forced.getD e.naturalState

/-- how much ciphertext the engine wants -/
def recvWant (e : SimEngine) : Nat :=
  match e.phase with
  | .awaiting remaining => if e.outgoing.isEmpty then remaining else 0
  | .app => if e.unread.isEmpty then e.capacity else 0
  | .idle | .closed => 0

/-- cut an acknowledgement to its window -/
def granted (length window : Nat) : Nat := min length window

/-- compare an acknowledgement with its window; one that is too long is counted -/
def grant (e : SimEngine) (length window : Nat) : SimEngine :=
  if window < length then { e with violations := e.violations + 1 } else e

/-- the first bytes of what is queued were sent -/
def sendRecAck (length : Nat) (e : SimEngine) : SimEngine :=
  { e.grant length e.outgoing.length with outgoing := e.outgoing.drop (granted length e.outgoing.length) }

/-- hand out a fresh window for ciphertext -/
def recvRecBuf (e : SimEngine) : Bytes × SimEngine :=
  let window := Bytes.zeros e.recvWant
  (window, { e with recvWindow := window })

/-- write to the front of the window for ciphertext -/
def fillRecvRec (bytes : Bytes) (e : SimEngine) : SimEngine :=
  { e with recvWindow := Bytes.overwrite e.recvWindow 0 bytes }

/-- that many bytes of the peer's flight have arrived -/
def flightArrived (e : SimEngine) (remaining length : Nat) : SimEngine :=
  if remaining ≤ length then { e.establish with handshakes := e.handshakes + 1 }
  else { e with phase := .awaiting (remaining - length) }

/-- take ciphertext from the window: part of the handshake, or plaintext for the caller -/
def takeRecord (e : SimEngine) (length : Nat) : SimEngine :=
  match e.phase with
  | .awaiting remaining => e.flightArrived remaining length
  | .app => { e with unread := e.unread ++ e.recvWindow.take length }
  | .idle | .closed => e

/-- the first bytes of the window are ciphertext; the window is taken back -/
def recvRecAck (length : Nat) (e : SimEngine) : SimEngine :=
  { (e.grant length e.recvWindow.length).takeRecord (granted length e.recvWindow.length) with recvWindow := [] }

/-- hand out the window for plaintext, with the bytes it still holds; no window if the engine takes no plaintext -/
def sendAppBuf (e : SimEngine) : Bytes × SimEngine :=
  if e.state.sendApp then
    let window := Bytes.resize e.plainWindow e.capacity
    (window, { e with plainWindow := window })
  else ([], e)

/-- write to the window for plaintext -/
def storeSendApp (start : Nat) (bytes : Bytes) (e : SimEngine) : SimEngine :=
  { e with plainWindow := Bytes.overwrite e.plainWindow start bytes }

/-- encrypt the first bytes of the window for plaintext -/
def sendAppAck (length : Nat) (e : SimEngine) : SimEngine :=
  let window := Bytes.resize e.plainWindow e.capacity
  let taken := window.take (granted length e.capacity)
  { e.grant length e.capacity with
    plainWindow := window
    plaintext := e.plaintext ++ taken
    outgoing := e.outgoing ++ taken
    handovers := e.handovers ++ [granted length e.capacity] }

/-- the caller took the first bytes of the unread plaintext -/
def recvAppAck (length : Nat) (e : SimEngine) : SimEngine :=
  { e.grant length e.unread.length with unread := e.unread.drop (granted length e.unread.length) }

/-- nothing is held back, so to flush only counts -/
def flushApp (_force : Bool) (e : SimEngine) : SimEngine := { e with flushes := e.flushes + 1 }

/-! ## Sessions -/

/-- how much the peer has to send in the handshake that starts -/
def flight (e : SimEngine) : Nat :=
  if e.resumedWith.isSome then e.resumedFlight.getD e.serverFlight else e.serverFlight

/-- the buffers and sessions with which a handshake starts; the offered parameters are used up -/
def restart (e : SimEngine) : SimEngine :=
  { e with resumedWith := e.offered, offered := none, session := .empty, unread := [], outgoing := e.hello }

/-- start a handshake; an empty flight completes it at once -/
def reset (server : Option String) (e : SimEngine) : Except EngineCode Unit × SimEngine :=
  let e := { e with resets := e.resets ++ [server] }
  match e.resetError with
  | some code => (.error code, { e with lastError := code })
  | none =>
    let e := e.restart
    (.ok (),
      if e.flight = 0 then { e.establish with handshakes := e.handshakes + 1 }
      else { e with phase := .awaiting e.flight })

/-- offer parameters for the next reset -/
def offer (p : SessionParameters) (e : SimEngine) : SimEngine := { e with offered := some p }

/-- entropy is only recorded -/
def injectEntropy (bytes : Bytes) (e : SimEngine) : SimEngine := { e with entropy := e.entropy ++ bytes }

end SimEngine

/-! ## Operations as data -/

/-- a call of a simulated engine; a window handed out may be filled from its front -/
inductive EngineCall where
  | sendRecBuf
  | recvAppBuf
  | recvRecBuf (fill : Bytes)
  | sendAppBuf (fill : Bytes)
  | sendRecAck (length : Nat)
  | recvRecAck (length : Nat)
  | sendAppAck (length : Nat)
  | recvAppAck (length : Nat)
  | flushApp (force : Bool)
  | reset (server : Option String)
  | parameters
  | offer (parameters : SessionParameters)
  | entropy (bytes : Bytes)
  | edit (edits : List EngineEdit)
  deriving DecidableEq, Repr

/-- what a call of a simulated engine answers -/
inductive EngineAnswer where
  | none
  | window (bytes : Bytes)
  | reset (outcome : Except EngineCode Unit)
  | parameters (parameters : SessionParameters)

namespace SimEngine

/-- one call -/
def apply (e : SimEngine) : EngineCall → EngineAnswer × SimEngine
  | .sendRecBuf => (.window e.outgoing, e)
  | .recvAppBuf => (.window e.unread, e)
  | .recvRecBuf fill => (.window e.recvRecBuf.1, e.recvRecBuf.2.fillRecvRec fill)
  | .sendAppBuf fill =>
    (.window e.sendAppBuf.1, if e.state.sendApp then e.sendAppBuf.2.storeSendApp 0 fill else e.sendAppBuf.2)
  | .sendRecAck length => (.none, e.sendRecAck length)
  | .recvRecAck length => (.none, e.recvRecAck length)
  | .sendAppAck length => (.none, e.sendAppAck length)
  | .recvAppAck length => (.none, e.recvAppAck length)
  | .flushApp force => (.none, e.flushApp force)
  | .reset server => (.reset (e.reset server).1, (e.reset server).2)
  | .parameters => (.parameters e.session, e)
  | .offer p => (.none, e.offer p)
  | .entropy bytes => (.none, e.injectEntropy bytes)
  | .edit edits => (.none, edits.foldl edit e)

/-- a history of calls -/
def run (e : SimEngine) (calls : List EngineCall) : SimEngine := calls.foldl (fun e call => (e.apply call).2) e

end SimEngine

end TlsClient

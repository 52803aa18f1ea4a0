/-
Flags of a TLS engine.

An engine reports what it can do next by five flags. `EngineState` is one such report.
- `ofBits`, `bits`: the report as a number, `closed` in the lowest place; places above the fifth are ignored;
- `union`, `intersects`: the report as a set of flags;
- `isInvalid`: no flag at all, the engine was not started or cannot say;
- `text`: `INVALID`, `CLOSED`, or the names of the four buffer flags that are set.
-/
namespace TlsClient

/-- the flags an engine reports -/
structure EngineState where
  /-- the engine is closed for good -/
  closed : Bool := false
  /-- ciphertext is queued for the network -/
  sendRec : Bool := false
  /-- the engine waits for ciphertext -/
  recvRec : Bool := false
  /-- the engine accepts plaintext from the caller -/
  sendApp : Bool := false
  /-- decrypted plaintext waits for the caller -/
  recvApp : Bool := false
  deriving DecidableEq, Repr, Inhabited

namespace EngineState

/-- no flag: not started, or no usable state -/
def invalid : EngineState := {}

/-- the five lowest places of a number; higher places are ignored -/
def ofBits (bits : Nat) : EngineState where
  closed := bits.testBit 0
  sendRec := bits.testBit 1
  recvRec := bits.testBit 2
  sendApp := bits.testBit 3
  recvApp := bits.testBit 4

/-- the flags as a number -/
def bits (s : EngineState) : Nat :=
  s.closed.toNat + 2 * s.sendRec.toNat + 4 * s.recvRec.toNat + 8 * s.sendApp.toNat + 16 * s.recvApp.toNat

/-- the flags of either state -/
def union (a b : EngineState) : EngineState where
  closed := a.closed || b.closed
  sendRec := a.sendRec || b.sendRec
  recvRec := a.recvRec || b.recvRec
  sendApp := a.sendApp || b.sendApp
  recvApp := a.recvApp || b.recvApp

/-- do the two states share a flag? -/
def intersects (a b : EngineState) : Bool :=
  (a.closed && b.closed) || (a.sendRec && b.sendRec) || (a.recvRec && b.recvRec) ||
    (a.sendApp && b.sendApp) || (a.recvApp && b.recvApp)

/-- is no flag set? -/
def isInvalid (s : EngineState) : Bool := decide (s = invalid)

/-- the names of the buffer flags that are set -/
def bufferFlags (s : EngineState) : List String :=
  (if s.sendRec then ["SENDREC"] else []) ++ (if s.recvRec then ["RECVREC"] else []) ++
    (if s.sendApp then ["SENDAPP"] else []) ++ (if s.recvApp then ["RECVAPP"] else [])

/-- the state in words; a closed engine says nothing about its buffers -/
def text (s : EngineState) : String :=
  if s.isInvalid then "INVALID" else if s.closed then "CLOSED" else "|".intercalate s.bufferFlags

theorem ofBits_bits (s : EngineState) : ofBits s.bits = s := by
  rcases s with ⟨_ | _, _ | _, _ | _, _ | _, _ | _⟩ <;> decide

theorem isInvalid_iff (s : EngineState) : s.isInvalid = true ↔ s = invalid := by simp [isInvalid]

end EngineState

end TlsClient

/-
A counting source of bytes: each byte is one more than the byte before, so that the bytes drawn can be foretold.
-/
import TlsClient.Bytes

namespace TlsClient

/-- a source whose next byte is known -/
structure StepSource where
  next : UInt8
  deriving DecidableEq, Repr, Inhabited

namespace StepSource

/-- `count` bytes that count up from `first` and wrap around -/
def countUp : Nat → UInt8 → Bytes
  | 0, _ => []
  | count + 1, first => first :: countUp count (first + 1)

/-- draw bytes -/
def draw (count : Nat) (s : StepSource) : Bytes × StepSource := (countUp count s.next, ⟨s.next + UInt8.ofNat count⟩)

/-- draw a number of that many bytes, least significant byte first -/
def drawNumber (count : Nat) (s : StepSource) : Nat × StepSource :=
  (Bytes.littleEndian (s.draw count).1, (s.draw count).2)

end StepSource

end TlsClient

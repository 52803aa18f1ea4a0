/-
Scratch memory.

To decrypt a record takes a deep stack. On small devices the stack can run into the heap without any fault, so the
board is asked before a record goes to the engine. A reading of free memory above the plausible ceiling means that the
stack has already passed the heap: it is garbage, and so is everything else.
-/
namespace TlsClient

/-- the answer to a question for free memory -/
inductive Headroom where
  /-- at least that many bytes are free -/
  | sufficient
  /-- fewer bytes are free -/
  | insufficient
  /-- the reading is impossible, memory is corrupted -/
  | corrupted
  deriving DecidableEq, Repr, Inhabited

namespace Headroom

/-- the identifier of an answer -/
def name : Headroom → String
  | .sufficient => "Sufficient"
  | .insufficient => "Insufficient"
  | .corrupted => "Corrupted"

/-- judge a reading of free bytes: too high to be true, too low, or enough -/
def ofFree (free ceiling required : Nat) : Headroom :=
  if ceiling < free then .corrupted else if free < required then .insufficient else .sufficient

end Headroom

/-- a board whose state `β` can measure its scratch memory -/
class Probe (β : Type) where
  /-- are that many bytes free? -/
  headroom : Nat → β → Headroom × β

end TlsClient

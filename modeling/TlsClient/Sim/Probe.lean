/-
Simulated memory probes.

A probe answers by how often it was asked before and by how much memory is wanted; it counts the questions.
- `always`: one answer for everything;
- `unbounded`: memory is no concern;
- `freeBytes`: judge a series of readings.
-/
import TlsClient.Headroom

namespace TlsClient

/-- a simulated memory probe -/
structure SimProbe where
  /-- the answer, by the number of earlier questions and the bytes wanted -/
  answer : Nat → Nat → Headroom
  /-- questions so far -/
  checks : Nat := 0

namespace SimProbe

/-- one answer for everything -/
def always (h : Headroom) : SimProbe := { answer := fun _ _ => h }

/-- memory is no concern -/
def unbounded : SimProbe := always .sufficient

/-- readings of free memory, judged against a ceiling -/
def freeBytes (free : Nat → Nat) (ceiling : Nat) : SimProbe :=
  { answer := fun asked required => .ofFree (free asked) ceiling required }

instance : Inhabited SimProbe := ⟨unbounded⟩

/-- ask for memory -/
def check (required : Nat) (p : SimProbe) : Headroom × SimProbe :=
  (p.answer p.checks required, { p with checks := p.checks + 1 })

end SimProbe

end TlsClient

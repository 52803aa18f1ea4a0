/-
Time on a board: a monotonic clock in milliseconds, and a delay. Only differences of readings are used, so the zero of
the clock is arbitrary; to read the clock may itself take time.
-/
namespace TlsClient

/-- a board whose state `β` keeps time -/
class Timer (β : Type) where
  /-- read the clock, in milliseconds -/
  now : β → Nat × β
  /-- wait that many milliseconds -/
  delay : Nat → β → β

end TlsClient

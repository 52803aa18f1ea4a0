/-
Simulated time.

One time serves clock and delay. To read the clock takes a tick, so that a loop which never waits still ends; a delay
moves the time instead of waiting. Delays shorter than a millisecond are rounded up. The time is a number without a
limit: the overflow of a count of 64 bits is not modelled.
-/
namespace TlsClient

/-- a simulated clock and delay on one time -/
structure SimTime where
  /-- the time in milliseconds -/
  now : Nat := 0
  /-- how long a reading of the clock takes -/
  tick : Nat := 1
  /-- how many delays were asked for -/
  delays : Nat := 0
  deriving DecidableEq, Repr, Inhabited

namespace SimTime

/-- let time pass -/
def advance (ms : Nat) (t : SimTime) : SimTime := { t with now := t.now + ms }

/-- read the clock; the reading itself takes a tick -/
def read (t : SimTime) : Nat × SimTime := (t.now, t.advance t.tick)

/-- one delay in milliseconds -/
def delayMs (ms : Nat) (t : SimTime) : SimTime := { t.advance ms with delays := t.delays + 1 }

/-- one delay in nanoseconds -/
def delayNs (ns : Nat) (t : SimTime) : SimTime := t.delayMs ((ns + 999999) / 1000000)

/-- the longest delay in whole microseconds whose nanoseconds fit into 32 bits -/
def longestUs : Nat := 4294967

/-- a delay in microseconds, cut into delays of at most `longestUs` -/
def delayUs (us : Nat) (t : SimTime) : SimTime :=
  if longestUs < us then delayUs (us - longestUs) (t.delayNs (longestUs * 1000)) else t.delayNs (us * 1000)
termination_by us
decreasing_by simp only [longestUs] at *; omega

end SimTime

end TlsClient

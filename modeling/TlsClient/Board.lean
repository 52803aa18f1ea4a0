/-
A board: one socket, one TLS engine, one timer and one memory probe over a common state.

The client is written against this class alone. The parts share one state so that a board may couple them: clock and
delay run on one time, and a board that keeps a journal sees the calls to all parts in one order.
-/
import TlsClient.Engine.Basic
import TlsClient.Headroom
import TlsClient.Net.Transport
import TlsClient.Timer

namespace TlsClient

/-- everything a client needs from the device it runs on -/
class Board (β : Type) extends Transport β, Engine β, Timer β, Probe β

end TlsClient

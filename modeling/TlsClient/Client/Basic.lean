/-
The client and what it remembers.

A client owns one board and moves bytes between its socket and its TLS engine. Beside the board it holds settings, the
session cache, the lifecycle, the backlog (plaintext stored in the engine's window and not yet handed over), counters,
and whether memory was found corrupted. Log lines are left out, and with them the last flags seen, which a client
remembers only to log a change of them.
- `fail`: put a failure on record, then tear the connection down;
- `teardown`: discard unread plaintext, forget the backlog, stop the socket;
- `Result`: the outcome of an operation that may wait; `none` if its turn budget was used up.
-/
import TlsClient.Board
import TlsClient.Lifecycle
import TlsClient.Session.Cache

namespace TlsClient

/-- how many bytes of entropy the engine gets before a handshake -/
def entropyLength : Nat := 16

/-- settings of a client -/
structure Config where
  /-- deadline of one wait for the engine, in milliseconds -/
  timeoutMs : Nat := 30000
  /-- pause after a poll that found no bytes, in milliseconds -/
  pollDelayMs : Nat := 10
  /-- free scratch memory needed before a record goes to the engine, in bytes -/
  minHeadroom : Nat := 7000
  deriving DecidableEq, Repr, Inhabited

/-- plaintext stored in the engine's window and not yet handed over -/
structure Backlog where
  /-- how many bytes of the window are in use -/
  pending : Nat := 0
  deriving DecidableEq, Repr, Inhabited

namespace Backlog

/-- that many more bytes were stored -/
def advance (b : Backlog) (count : Nat) : Backlog := ⟨b.pending + count⟩

/-- nothing is stored -/
def empty : Backlog := {}

end Backlog

/-- add to a counter that stops at `limit` -/
def addUpTo (limit count more : Nat) : Nat := min (count + more) limit

/-- the largest count of events, the last number of 32 bits -/
def maxEvents : Nat := 4294967295

/-- the largest count of bytes, the last number of 64 bits -/
def maxBytes : Nat := 18446744073709551615

/-- counters of a connection; each stops at its limit -/
structure Stats where
  /-- how often unread plaintext was dropped for the sake of a write -/
  discards : Nat := 0
  /-- how many bytes were dropped that way -/
  discardedBytes : Nat := 0
  /-- how often the engine was flushed for the sake of a read -/
  forcedFlushes : Nat := 0
  /-- how often plaintext was handed to the engine -/
  handoffs : Nat := 0
  /-- ciphertext written to the socket -/
  bytesSent : Nat := 0
  /-- ciphertext read from the socket -/
  bytesReceived : Nat := 0
  deriving DecidableEq, Repr, Inhabited

namespace Stats

/-- unread plaintext of that many bytes was dropped -/
def discarded (s : Stats) (count : Nat) : Stats :=
  { s with discards := addUpTo maxEvents s.discards 1, discardedBytes := addUpTo maxBytes s.discardedBytes count }

/-- the engine was flushed for the sake of a read -/
def flushed (s : Stats) : Stats := { s with forcedFlushes := addUpTo maxEvents s.forcedFlushes 1 }

/-- plaintext was handed to the engine -/
def handedOver (s : Stats) : Stats := { s with handoffs := addUpTo maxEvents s.handoffs 1 }

/-- that many bytes were written to the socket -/
def sent (s : Stats) (count : Nat) : Stats := { s with bytesSent := addUpTo maxBytes s.bytesSent count }

/-- that many bytes were read from the socket -/
def received (s : Stats) (count : Nat) : Stats := { s with bytesReceived := addUpTo maxBytes s.bytesReceived count }

end Stats

/-- a TLS client on a board, with room for `slots` sessions -/
structure Client (β : Type) (slots : Nat) where
  board : β
  config : Config := {}
  sessions : SessionCache slots := .empty
  lifecycle : Lifecycle := {}
  backlog : Backlog := {}
  stats : Stats := {}
  /-- memory was found corrupted; the device should be reset -/
  abort : Bool := false

namespace Client

variable {β : Type} [Board β] {slots : Nat}

/-- a client that was never connected -/
def new (board : β) (config : Config) : Client β slots := { board, config }

/-- the sticky status -/
def status (c : Client β slots) : Status := c.lifecycle.status

/-- the phase of the connection -/
def phase (c : Client β slots) : Phase := c.lifecycle.phase

/-- how many bytes are stored and not yet handed to the engine -/
def pending (c : Client β slots) : Nat := c.backlog.pending

/-- the last error of the engine -/
def engineError (c : Client β slots) : EngineCode := Engine.lastError c.board

/-- the valid session of a named host -/
def session? (c : Client β slots) (name : String) : Option Session := c.sessions.find? (some name)

/-- forget the session of a named host -/
def forgetSession (c : Client β slots) (name : String) : Client β slots :=
  { c with sessions := c.sessions.remove (some name) }

/-- change the deadline of a wait -/
def setTimeout (c : Client β slots) (ms : Nat) : Client β slots :=
  { c with config := { c.config with timeoutMs := ms } }

/-- take unread plaintext off the engine, as far as the given flags report any -/
def dropUnread (c : Client β slots) (state : EngineState) : Client β slots :=
  let unread := (Engine.recvAppBuf c.board).length
  if state.recvApp && decide (0 < unread) then { c with board := Engine.recvAppAck unread c.board } else c

/-- discard unread plaintext, forget the backlog and stop the socket -/
def teardown (c : Client β slots) : Client β slots :=
  let c := c.dropUnread (Engine.state c.board)
  { c with
    board := Transport.stop (Transport.flush c.board).2
    backlog := .empty
    lifecycle := c.lifecycle.closed }

/-- put a failure on record, then tear the connection down -/
def fail (c : Client β slots) (s : Status) : Client β slots :=
  teardown { c with lifecycle := c.lifecycle.fail s }

/-- the outcome of an operation that may wait: its answer and the client after it, or `none` if the turn budget was
used up before -/
abbrev Result (β : Type) (slots : Nat) (α : Type) : Type := Option (Except Error α × Client β slots)

/-- go on with the answer of an operation, unless it failed -/
def Result.andThen {α γ : Type} (r : Result β slots α) (next : α → Client β slots → Result β slots γ) :
    Result β slots γ :=
  match r with
  | none => none
  | some (.error e, c) => some (.error e, c)
  | some (.ok a, c) => next a c

end Client

end TlsClient

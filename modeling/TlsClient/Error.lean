/-
What can go wrong.

Two layers. A `Status` belongs to a connection: it is set once by the first failure and stays until the next connect.
An `Error` is what a single call returns; `Error.status` carries the sticky status out of the call. `IoKind` is the
coarse class of an error for code that only knows byte streams.
- `Status.code`: the number reported by telemetry; 1 is not in use;
- `name`: the identifier of the case, `message`: the sentence for people, `kind`: the coarse class.
-/
namespace TlsClient

/-- coarse class of an input or output failure -/
inductive IoKind where
  | notConnected
  | connectionRefused
  | alreadyExists
  | brokenPipe
  | timedOut
  | outOfMemory
  | other
  deriving DecidableEq, Repr

/-- the identifier of a class -/
def IoKind.name : IoKind → String
  | .notConnected => "NotConnected"
  | .connectionRefused => "ConnectionRefused"
  | .alreadyExists => "AlreadyExists"
  | .brokenPipe => "BrokenPipe"
  | .timedOut => "TimedOut"
  | .outOfMemory => "OutOfMemory"
  | .other => "Other"

/-- sticky status of a connection -/
inductive Status where
  /-- no failure so far -/
  | ok
  /-- the transport failed to open a socket -/
  | transportConnect
  /-- the engine failed to start or to complete the handshake -/
  | engineConnect
  /-- the transport failed to move bytes, or the peer dropped the socket -/
  | transportWrite
  /-- the engine misbehaved, or the deadline passed -/
  | engineWrite
  /-- buffered plaintext and engine window disagree, or the transport claims more bytes than it was given -/
  | internal
  /-- not enough scratch memory to process a record -/
  | outOfMemory
  deriving DecidableEq, Repr, Inhabited

namespace Status

/-- does the status report no failure? -/
def isOk (s : Status) : Bool := decide (s = .ok)

/-- the number of a status in telemetry -/
def code : Status → Nat
  | .ok => 0
  | .transportConnect => 2
  | .engineConnect => 3
  | .transportWrite => 4
  | .engineWrite => 5
  | .internal => 6
  | .outOfMemory => 7

/-- the identifier of a status -/
def name : Status → String
  | .ok => "Ok"
  | .transportConnect => "TransportConnectFail"
  | .engineConnect => "EngineConnectFail"
  | .transportWrite => "TransportWriteError"
  | .engineWrite => "EngineWriteError"
  | .internal => "InternalError"
  | .outOfMemory => "OutOfMemory"

/-- the status in words -/
def message : Status → String
  | .ok => "OK"
  | .transportConnect => "Transport connect failed"
  | .engineConnect => "TLS handshake failed"
  | .transportWrite => "Transport write error"
  | .engineWrite => "TLS engine error"
  | .internal => "Internal error"
  | .outOfMemory => "Out of memory"

/-- every status, in the order of the codes -/
def all : List Status :=
  [.ok, .transportConnect, .engineConnect, .transportWrite, .engineWrite, .internal, .outOfMemory]

/-- the status with a given identifier -/
def ofName? (name : String) : Option Status := all.find? fun s => s.name == name

theorem code_injective {a b : Status} (h : a.code = b.code) : a = b := by
  cases a <;> cases b <;> simp_all [code]

end Status

/-- why a call failed -/
inductive Error where
  /-- the call failed, or was refused, because of this sticky status -/
  | status (s : Status)
  /-- no session is open -/
  | notConnected
  /-- the engine closed the session -/
  | engineClosed
  /-- the transport already holds a connection -/
  | alreadyConnected
  /-- the engine did not reach the wanted state in time -/
  | timeout
  /-- memory is corrupted, the device has to be reset -/
  | abort
  deriving DecidableEq, Repr

namespace Error

/-- the identifier of an error -/
def name : Error → String
  | .status s => s!"Write({s.name})"
  | .notConnected => "NotConnected"
  | .engineClosed => "EngineClosed"
  | .alreadyConnected => "AlreadyConnected"
  | .timeout => "Timeout"
  | .abort => "Abort"

/-- the error in words -/
def message : Error → String
  | .status s => s.message
  | .notConnected => "Not connected"
  | .engineClosed => "TLS connection closed"
  | .alreadyConnected => "Already connected"
  | .timeout => "Operation timed out"
  | .abort => "Memory corrupted, abort"

/-- the coarse class of an error -/
def kind : Error → IoKind
  | .timeout => .timedOut
  | .notConnected | .engineClosed => .notConnected
  | .alreadyConnected => .alreadyExists
  | .abort | .status .outOfMemory => .outOfMemory
  | .status .transportConnect => .connectionRefused
  | .status .transportWrite => .brokenPipe
  | .status _ => .other

/-- the errors that carry no status -/
def bare : List Error := [.notConnected, .engineClosed, .alreadyConnected, .timeout, .abort]

/-- the error without status that has a given identifier -/
def ofName? (name : String) : Option Error := bare.find? fun e => e.name == name

end Error

end TlsClient

/-
The lifecycle of a connection.

Whether a client is connected is never stored. It is worked out from the transport, the engine and the sticky status
each time somebody asks (`verdict`). What is stored is what only the client knows: the phase, whether a handshake was
completed, and the first failure since the last connect.
- `fail`: the first failure wins;
- `softConnected`: the guard of every operation that moves plaintext; it does not poll the transport;
- `mayPump`: the guard of the operations that only drive the engine; a handshake in progress passes.
-/
import TlsClient.Engine.State
import TlsClient.Error

namespace TlsClient

/-- coarse phase of a connection -/
inductive Phase where
  /-- never connected -/
  | idle
  /-- transport open, handshake in progress -/
  | handshaking
  /-- handshake complete -/
  | connected
  /-- shutdown in progress -/
  | closing
  /-- shut down without failure -/
  | closed
  /-- a failure is on record -/
  | errored
  deriving DecidableEq, Repr, Inhabited

/-- the identifier of a phase -/
def Phase.name : Phase → String
  | .idle => "Idle"
  | .handshaking => "Handshaking"
  | .connected => "Connected"
  | .closing => "Closing"
  | .closed => "Closed"
  | .errored => "Errored"

/-- what a client remembers about its connection -/
structure Lifecycle where
  /-- the phase, failures aside -/
  stage : Phase := .idle
  /-- a handshake was completed and nothing was torn down since -/
  engineConnected : Bool := false
  /-- the first failure since the last connect -/
  status : Status := .ok
  deriving DecidableEq, Repr, Inhabited

namespace Lifecycle

/-- the phase; a failure on record overrides the rest -/
def phase (l : Lifecycle) : Phase := if l.status.isOk then l.stage else .errored

/-- the transport is open and the handshake starts -/
def beginHandshake (_ : Lifecycle) : Lifecycle :=
  { stage := .handshaking, engineConnected := false, status := .ok }

/-- the handshake is done, plaintext can flow -/
def established (l : Lifecycle) : Lifecycle := { l with stage := .connected, engineConnected := true }

/-- the shutdown starts -/
def closing (l : Lifecycle) : Lifecycle := { l with stage := .closing }

/-- transport and engine are down -/
def closed (l : Lifecycle) : Lifecycle := { l with stage := .closed, engineConnected := false }

/-- put a failure on record, unless there is one already -/
def fail (l : Lifecycle) (s : Status) : Lifecycle := if l.status.isOk then { l with status := s } else l

/-- strike the failure off the record -/
def clearStatus (l : Lifecycle) : Lifecycle := { l with status := .ok }

/-- may plaintext move? -/
def softConnected (l : Lifecycle) (engine : EngineState) : Except Error Unit :=
  if !l.status.isOk then .error (.status l.status)
  else if !l.engineConnected then .error .notConnected
  else if engine.closed then .error .engineClosed
  else .ok ()

/-- may the engine be driven? -/
def mayPump (l : Lifecycle) : Except Error Unit :=
  if !l.status.isOk then .error (.status l.status)
  else match l.stage with
    | .handshaking | .connected | .closing => .ok ()
    | .idle | .closed | .errored => .error .notConnected

/-- is the connection usable? -/
def verdict (l : Lifecycle) (transportUp : Bool) (engine : EngineState) : Bool :=
  transportUp && l.engineConnected && !engine.closed && l.status.isOk

end Lifecycle

end TlsClient

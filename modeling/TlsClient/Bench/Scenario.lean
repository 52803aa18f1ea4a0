/-
Scenarios: a client on a bench, played step by step.

A step is a request to the client, a question, or a change from outside. After each step an `Observation` says what the
step answered and how client and board stand; to observe changes nothing. At the end `Leftovers` holds what client and
board are left with.
-/
import TlsClient.Bench.Board
import TlsClient.Client.Request

namespace TlsClient

/-- a step of a scenario -/
inductive BenchStep where
  | request (r : Request)
  /-- ask for the session of a host -/
  | session (name : String)
  /-- forget the session of a host -/
  | forget (name : String)
  | setTimeout (ms : Nat)
  /-- let time pass -/
  | advance (ms : Nat)
  /-- put another memory probe in -/
  | probe (probe : SimProbe)
  | wire (edits : List WireEdit)
  | device (edits : List DeviceEdit)

/-- what a step answers -/
inductive BenchReply where
  | none
  | reply (r : Reply)
  | session (s : Option Session)
  /-- sessions held, and room for sessions -/
  | slots (size capacity : Nat)
  | timeout (ms : Nat)

/-- how client and board stand after a step -/
structure Observation where
  phase : Phase
  status : Status
  engineError : EngineCode
  abort : Bool
  pending : Nat
  stats : Stats
  sessions : List Session
  now : Nat
  delays : Nat
  socketUp : Bool
  /-- bytes from the peer that wait on the socket -/
  waiting : Nat
  /-- accepted by the socket during the step -/
  sent : Bytes
  socket : SimSocket
  flags : EngineState
  unread : Bytes
  /-- lengths of the hand-overs during the step -/
  handovers : List Nat
  engineFlushes : Nat
  handshakes : Nat
  violations : Nat
  resets : Nat
  journal : Journal

/-- what client and board are left with at the end -/
structure Leftovers where
  config : Config
  socket : SimSocket
  engine : SimEngine

namespace Client

variable {slots : Nat}

/-- play one step -/
def playStep (budget : Nat) (c : Client Bench slots) : BenchStep → Option (BenchReply × Client Bench slots)
  | .request r => (c.perform budget r).map fun answer => (.reply answer.1, answer.2)
  | .session name => some (.session (c.session? name), c)
  | .forget name =>
    let c := c.forgetSession name
    some (.slots c.sessions.size c.sessions.capacity, c)
  | .setTimeout ms =>
    let c := c.setTimeout ms
    some (.timeout c.config.timeoutMs, c)
  | .advance ms => some (.none, { c with board := { c.board with time := c.board.time.advance ms } })
  | .probe probe => some (.none, { c with board := { c.board with probe } })
  | .wire edits => some (.none, { c with board := { c.board with wire := c.board.wire.editAll edits } })
  | .device edits => some (.none, { c with board := { c.board with device := c.board.device.editAll edits } })

/-- how things stand, with a journal that began with the step -/
def observe (before after : Client Bench slots) : Observation where
  phase := after.phase
  status := after.status
  engineError := after.engineError
  abort := after.abort
  pending := after.pending
  stats := after.stats
  sessions := after.sessions.entries
  now := after.board.time.now
  delays := after.board.time.delays
  socketUp := after.board.wire.socket.isConnected
  waiting := after.board.wire.socket.incoming.length
  sent := after.board.wire.socket.written.drop before.board.wire.socket.written.length
  socket := after.board.wire.socket
  flags := after.board.device.engine.state
  unread := after.board.device.engine.unread
  handovers := after.board.device.engine.handovers.drop before.board.device.engine.handovers.length
  engineFlushes := after.board.device.engine.flushes
  handshakes := after.board.device.engine.handshakes
  violations := after.board.device.engine.violations
  resets := after.board.device.engine.resets.length
  journal := after.board.journal

/-- play steps one after the other, each with a journal of its own -/
def play (budget : Nat) (c : Client Bench slots) :
    List BenchStep → Option (List (BenchReply × Observation) × Client Bench slots)
  | [] => some ([], c)
  | step :: rest =>
    let c := { c with board := { c.board with journal := {} } }
    match c.playStep budget step with
    | none => none
    | some (reply, after) => (after.play budget rest).map fun r => ((reply, observe c after) :: r.1, r.2)

/-- what is left at the end -/
def leftovers (c : Client Bench slots) : Leftovers where
  config := c.config
  socket := c.board.wire.socket
  engine := c.board.device.engine

end Client

/-- a client on a bench and what happens to it -/
structure Scenario where
  /-- room for sessions -/
  slots : Nat := 1
  time : SimTime := {}
  config : Config := {}
  probe : SimProbe := .unbounded
  wire : List WireEdit := []
  device : List DeviceEdit := []
  steps : List BenchStep := []

namespace Scenario

/-- more turns than any loop of a scenario that ends takes -/
def budget : Nat := 1000000000000

/-- the client at the start -/
def client (s : Scenario) : Client Bench s.slots :=
  .new
    { wire := Wire.editAll {} s.wire, device := Device.editAll {} s.device, time := s.time, probe := s.probe }
    s.config

/-- play a scenario; `none` if the client never comes back from a step -/
def play (s : Scenario) : Option (List (BenchReply × Observation) × Leftovers) :=
  (s.client.play budget s.steps).map fun r => (r.1, r.2.leftovers)

end Scenario

end TlsClient

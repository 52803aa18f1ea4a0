/-
Scripted parts of a bench.

A `Wire` is a simulated socket with two more faults and with plans; a `Device` is a simulated engine with a plan. A plan
is a list of numbered actions: an action runs when the count it belongs to reaches its number. Several actions of one
number run in the order of the list; the list is read before the first of them runs.
- the plan `atPoll` counts polls of the socket and acts just before the poll; it may also make the poll fail;
- the plan `atWrite` counts writes to the socket and acts just before the write;
- the plan `atEvent` counts acknowledgements, flushes and resets of the engine and acts just after them.
-/
import TlsClient.Sim.Engine
import TlsClient.Sim.Socket

namespace TlsClient

/-- the actions of a plan that belong to a count -/
def due {α : Type} (plan : List (Nat × α)) (count : Nat) : List α :=
  (plan.filter fun entry => entry.1 == count).map Prod.snd

/-! ## The socket side -/

mutual

/-- a change to a wire -/
inductive WireEdit where
  | socket (edit : SocketEdit)
  | failFlush (yes : Bool)
  | readZero (yes : Bool)
  | atPoll (plan : List (Nat × PollAction))
  | atWrite (plan : List (Nat × List WireEdit))

/-- what a plan does at a poll -/
inductive PollAction where
  /-- let the poll fail -/
  | fail
  | edit (edits : List WireEdit)

end

/-- a simulated socket with faults and plans -/
structure Wire where
  socket : SimSocket := {}
  /-- a flush is counted and then fails -/
  failFlush : Bool := false
  /-- a read brings no bytes -/
  readZero : Bool := false
  atPoll : List (Nat × PollAction) := []
  atWrite : List (Nat × List WireEdit) := []

namespace Wire

/-- make a change -/
def edit (w : Wire) : WireEdit → Wire
  | .socket e => { w with socket := w.socket.edit e }
  | .failFlush yes => { w with failFlush := yes }
  | .readZero yes => { w with readZero := yes }
  | .atPoll plan => { w with atPoll := plan }
  | .atWrite plan => { w with atWrite := plan }

/-- make several changes -/
def editAll (w : Wire) (edits : List WireEdit) : Wire := edits.foldl edit w

/-- what an action at a poll changes -/
def pollEdits : PollAction → List WireEdit
  | .fail => []
  | .edit edits => edits

/-- does an action let the poll fail? -/
def pollFails : PollAction → Bool
  | .fail => true
  | .edit _ => false

/-- let the simulated socket act -/
def onSocket {α : Type} (f : SimSocket → α × SimSocket) (w : Wire) : α × Wire :=
  ((f w.socket).1, { w with socket := (f w.socket).2 })

/-- run the plan of the write, then write -/
def write (bytes : Bytes) (w : Wire) : Except SocketError Nat × Wire :=
  let actions := due w.atWrite (w.socket.writeCalls + 1)
  (w.editAll actions.flatten).onSocket (SimSocket.write bytes)

/-- read, unless reads bring no bytes -/
def read (room : Nat) (w : Wire) : Except SocketError (Reading room) × Wire :=
  if w.readZero then (.ok ⟨[], 0, Nat.zero_le _⟩, w) else w.onSocket (SimSocket.read room)

/-- run the plan of the poll, then poll -/
def available (w : Wire) : Except SocketError Nat × Wire :=
  let actions := due w.atPoll (w.socket.polls + 1)
  let poll := (w.editAll (actions.flatMap pollEdits)).onSocket SimSocket.available
  if actions.any pollFails then (.error .broken, poll.2) else poll

/-- flush, and fail if flushes fail -/
def flush (w : Wire) : Except SocketError Unit × Wire :=
  let flushed := w.onSocket SimSocket.flush
  if w.failFlush then (.error .broken, flushed.2) else flushed

end Wire

/-! ## The engine side -/

/-- a change to a device -/
inductive DeviceEdit where
  | engine (edit : EngineEdit)
  | atEvent (plan : List (Nat × List DeviceEdit))

/-- a simulated engine with a plan -/
structure Device where
  engine : SimEngine := {}
  /-- acknowledgements, flushes and resets so far -/
  events : Nat := 0
  atEvent : List (Nat × List DeviceEdit) := []

namespace Device

/-- make a change -/
def edit (d : Device) : DeviceEdit → Device
  | .engine e => { d with engine := d.engine.edit e }
  | .atEvent plan => { d with atEvent := plan }

/-- make several changes -/
def editAll (d : Device) (edits : List DeviceEdit) : Device := edits.foldl edit d

/-- let the simulated engine act without an event -/
def onEngine (f : SimEngine → SimEngine) (d : Device) : Device := { d with engine := f d.engine }

/-- count an event, then run its plan -/
def event (d : Device) : Device :=
  let d := { d with events := d.events + 1 }
  d.editAll (due d.atEvent d.events).flatten

end Device

end TlsClient

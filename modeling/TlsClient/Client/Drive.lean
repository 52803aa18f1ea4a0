/-
Waiting for the engine.

`drive` runs the pump again and again until the engine shows a flag of the target, or, for an empty target, no flag at
all. After each run it looks, in this order, at: corrupted memory, a closed engine, a failure on record, the deadline,
the target. Two things would block a half-duplex engine for ever, and are resolved on the way.
- Unread plaintext keeps the engine from taking more: it is dropped for the sake of a write (`discardUnread`).
- The engine sits on a partial record while the caller waits for the response to it: the engine is flushed.
-/
import TlsClient.Client.Pump

namespace TlsClient.Client

variable {β : Type} [Board β] {slots : Nat}

/-- drop unread plaintext for the sake of a write; an engine that reports some and has none is at fault -/
def discardUnread (c : Client β slots) : Turn (Client β slots) (Except Error Unit × Client β slots) :=
  let unread := (Engine.recvAppBuf c.board).length
  if unread = 0 then .done (.error (.status .engineWrite), c.fail .engineWrite)
  else
    .again
      { c with
        board := Engine.recvAppAck unread c.board
        backlog := .empty
        stats := c.stats.discarded unread }

/-- the target is not reached: resolve what would block, and go on -/
def resolve (target state : EngineState) (c : Client β slots) :
    Turn (Client β slots) (Except Error Unit × Client β slots) :=
  if state.recvApp && target.sendApp then c.discardUnread
  else if state.sendApp && target.recvApp then
    .again { c with board := Engine.flushApp false c.board, stats := c.stats.flushed }
  else .again c

/-- is the wait over? an empty target waits for an engine without flags -/
def reached (target state : EngineState) : Bool :=
  state.intersects target || (target.isInvalid && state.isInvalid)

/-- judge a run of the pump that ended with `state`, in a wait that began at `start` -/
def judge (target : EngineState) (start : Nat) (state : EngineState) (c : Client β slots) :
    Turn (Client β slots) (Except Error Unit × Client β slots) :=
  if c.abort then .done (.error .abort, c)
  else if state.closed then .done (.error .engineClosed, c)
  else if !c.lifecycle.status.isOk then .done (.error (.status c.lifecycle.status), c)
  else
    let reading := Timer.now c.board
    let c := { c with board := reading.2 }
    if c.config.timeoutMs < reading.1 - start then .done (.error .timeout, c.fail .engineWrite)
    else if reached target state then .done (.ok (), c)
    else c.resolve target state

/-- one turn of a wait: run the pump, then judge it -/
def driveTurn (budget : Nat) (target : EngineState) (start : Nat) (c : Client β slots) :
    Option (Turn (Client β slots) (Except Error Unit × Client β slots)) :=
  (c.pump budget).map fun (state, c) => c.judge target start state

/-- wait until the engine shows a flag of `target`, the session ends, or the deadline passes -/
def drive (budget : Nat) (target : EngineState) (c : Client β slots) : Result β slots Unit :=
  let reading := Timer.now c.board
  repeatTurn (driveTurn budget target reading.1) budget { c with board := reading.2 }

/-- wait for the engine, if there is a session to drive -/
def runUntil (budget : Nat) (target : EngineState) (c : Client β slots) : Result β slots Unit :=
  match c.lifecycle.mayPump with
  | .error e => some (.error e, c)
  | .ok () => c.drive budget target

end TlsClient.Client

/-
Reading without waiting.

`available` services the engine and counts the decrypted bytes; `read` and `peek` are built on it.
-/
import TlsClient.Client.Pump

namespace TlsClient.Client

variable {β : Type} [Board β] {slots : Nat}

/-- what a run of the pump that ended with `state` has made available; an idle engine is flushed -/
def countUnread (state : EngineState) (c : Client β slots) : Except Error Nat × Client β slots :=
  if c.abort then (.error .abort, c)
  else if state.isInvalid then
    if c.lifecycle.status.isOk then (.ok 0, c) else (.error (.status c.lifecycle.status), c)
  else if state.recvApp then (.ok (Engine.recvAppBuf c.board).length, c)
  else if state.closed then (.error .engineClosed, c)
  else if state.sendApp then (.ok 0, { c with board := Engine.flushApp false c.board })
  else (.ok 0, c)

/-- service the engine and count the decrypted bytes ready to read -/
def available (budget : Nat) (c : Client β slots) : Result β slots Nat :=
  match c.lifecycle.softConnected (Engine.state c.board) with
  | .error e => some (.error e, c)
  | .ok () => (c.pump budget).map fun (state, c) => c.countUnread state

/-- take up to `room` decrypted bytes -/
def takeUnread (room : Nat) (c : Client β slots) : Bytes × Client β slots :=
  let taken := (Engine.recvAppBuf c.board).take room
  (taken, if taken.isEmpty then c else { c with board := Engine.recvAppAck taken.length c.board })

/-- take up to `room` decrypted bytes; none if nothing has arrived yet -/
def read (budget room : Nat) (c : Client β slots) : Result β slots Bytes :=
  if room = 0 then some (.ok [], c)
  else
    (c.available budget).andThen fun count c =>
      if count = 0 then some (.ok [], c)
      else
        let taken := c.takeUnread room
        some (.ok taken.1, taken.2)

/-- the next decrypted byte, which stays where it is -/
def peek (budget : Nat) (c : Client β slots) : Result β slots (Option UInt8) :=
  (c.available budget).andThen fun count c =>
    some (.ok (if count = 0 then none else (Engine.recvAppBuf c.board).head?), c)

end TlsClient.Client

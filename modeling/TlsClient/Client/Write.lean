/-
Writing.

Plaintext is stored straight in the engine's window and handed over only when the window is full or the caller
flushes, so that small writes share a record. `write` takes all of its data or fails; `flush` sends what is stored and
waits for the response.
-/
import TlsClient.Client.Drive

namespace TlsClient.Client

variable {β : Type} [Board β] {slots : Nat}

/-- store as much of `data` as the plaintext window of that length still holds -/
def storePlaintext (c : Client β slots) (capacity : Nat) (data : Bytes) : Client β slots :=
  let part := data.take (capacity - c.backlog.pending)
  { c with
    board := Engine.storeSendApp c.backlog.pending part c.board
    backlog := c.backlog.advance part.length }

/-- hand over what is stored, if anything is -/
def handStored (c : Client β slots) : Client β slots :=
  if 0 < c.backlog.pending then c.handPending else c

/-- the window is full, or the engine takes no plaintext yet: hand over and wait; then go on with `rest` -/
def awaitWindow (budget : Nat) (rest : Bytes) (c : Client β slots) :
    Option (Turn (Bytes × Client β slots) (Except Error Unit × Client β slots)) :=
  (c.handStored.drive budget { sendApp := true }).map fun r =>
    match r.1 with
    | .ok () => .again (rest, r.2)
    | .error e => .done (.error e, r.2)

/-- one turn of a write: look at the window, fill it, wait if it is full -/
def writeTurn (budget : Nat) (job : Bytes × Client β slots) :
    Option (Turn (Bytes × Client β slots) (Except Error Unit × Client β slots)) :=
  let rest := job.1
  let c := job.2
  if rest.isEmpty then some (.done (.ok (), c))
  else
    let state := Engine.state c.board
    let window := Engine.sendAppBuf c.board
    let capacity := window.1.length
    let c := { c with board := window.2 }
    if c.backlog.pending < capacity then
      let left := rest.drop (capacity - c.backlog.pending)
      let c := c.storePlaintext capacity rest
      if c.backlog.pending < capacity then some (.again (left, c)) else c.awaitWindow budget left
    else if capacity < c.backlog.pending then some (.done (.error (.status .internal), c.fail .internal))
    else if capacity = 0 && state.sendApp then some (.done (.error (.status .engineWrite), c.fail .engineWrite))
    else c.awaitWindow budget rest

/-- store `data` for sending; answers its length -/
def write (budget : Nat) (data : Bytes) (c : Client β slots) : Result β slots Nat :=
  match c.lifecycle.softConnected (Engine.state c.board) with
  | .error e => some (.error e, c)
  | .ok () =>
    (repeatTurn (writeTurn budget) budget (data, c)).map fun r => (r.1.map fun () => data.length, r.2)

/-- send what is stored and wait for plaintext from the peer; returns at once if nothing is stored -/
def flush (budget : Nat) (c : Client β slots) : Result β slots Unit :=
  match c.lifecycle.mayPump with
  | .error e => some (.error e, c)
  | .ok () => if c.backlog.pending = 0 then some (.ok (), c) else c.drive budget { recvApp := true }

end TlsClient.Client

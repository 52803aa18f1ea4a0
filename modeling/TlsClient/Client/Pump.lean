/-
The pump: service the engine until nothing is left to do without waiting for the peer.

One turn takes the first of these that applies.
1. The engine is closed: stop.
2. Ciphertext is queued: write it to the socket (`sendRecord`).
3. Plaintext is stored in the engine's window: hand it over (`handOver`).
4. The engine waits for ciphertext: read it from the socket (`receiveRecord`); stop if none is there.
5. Otherwise stop.
A step that fails puts its reason on record, tears the connection down and ends the pump with no flag at all.
-/
import TlsClient.Client.Basic
import TlsClient.Loop

namespace TlsClient

/-- what an attempt to receive found -/
inductive Received where
  /-- ciphertext went to the engine -/
  | record
  /-- the peer has sent nothing -/
  | nothing
  deriving DecidableEq, Repr

namespace Client

variable {β : Type} [Board β] {slots : Nat}

/-- write queued ciphertext to the socket; the engine is told how much of it was taken -/
def sendRecord (c : Client β slots) : Except Status Unit × Client β slots :=
  let record := Engine.sendRecBuf c.board
  if record.length = 0 then (.error .engineWrite, c)
  else
    let attempt := Transport.write record c.board
    let c := { c with board := attempt.2 }
    match attempt.1 with
    | .error _ => (.error .transportWrite, c)
    | .ok written =>
      if written = 0 then (.error .transportWrite, c)
      else if record.length < written then (.error .internal, c)
      else
        let flushed := Transport.flush c.board
        let c := { c with board := flushed.2 }
        match flushed.1 with
        | .error _ => (.error .transportWrite, c)
        | .ok () => (.ok (), { c with board := Engine.sendRecAck written c.board, stats := c.stats.sent written })

/-- hand the stored plaintext to the engine, whatever its flags -/
def handPending (c : Client β slots) : Client β slots :=
  { c with
    board := Engine.sendAppAck c.backlog.pending c.board
    backlog := .empty
    stats := c.stats.handedOver }

/-- hand the stored plaintext to the engine, if it takes plaintext and its window still holds all of it -/
def handOver (c : Client β slots) (state : EngineState) : Except Status Unit × Client β slots :=
  if !state.sendApp then (.error .internal, c)
  else
    let window := Engine.sendAppBuf c.board
    let c := { c with board := window.2 }
    if window.1.length = 0 then (.error .engineWrite, c)
    else if window.1.length < c.backlog.pending then (.error .internal, c)
    else (.ok (), c.handPending)

/-- read ciphertext from the socket into the window of the engine -/
def fillWindow (c : Client β slots) (available : Nat) : Except Status Received × Client β slots :=
  let window := Engine.recvRecBuf c.board
  let c := { c with board := window.2 }
  let want := min window.1.length available
  if want = 0 then (.error .engineWrite, c)
  else
    let attempt := Transport.read want c.board
    let c := { c with board := attempt.2 }
    match attempt.1 with
    | .error _ => (.error .transportWrite, c)
    | .ok reading =>
      let c := { c with board := Engine.fillRecvRec reading.moved c.board }
      if reading.claimed = 0 then (.error .transportWrite, c)
      else if want < reading.claimed then (.error .internal, c)
      else
        (.ok .record,
          { c with
            board := Engine.recvRecAck reading.claimed c.board
            stats := c.stats.received reading.claimed })

/-- the peer has sent nothing: fail if the socket is gone, else pause -/
def awaitPeer (c : Client β slots) : Except Status Received × Client β slots :=
  let up := Transport.connected c.board
  let c := { c with board := up.2 }
  if up.1 then (.ok .nothing, { c with board := Timer.delay c.config.pollDelayMs c.board })
  else (.error .transportWrite, c)

/-- poll the socket; bytes go to the engine if there is memory to process them -/
def receiveRecord (c : Client β slots) : Except Status Received × Client β slots :=
  let poll := Transport.available c.board
  let c := { c with board := poll.2 }
  match poll.1 with
  | .error _ => (.error .transportWrite, c)
  | .ok available =>
    if available = 0 then c.awaitPeer
    else
      let free := Probe.headroom c.config.minHeadroom c.board
      let c := { c with board := free.2 }
      match free.1 with
      | .insufficient => (.error .outOfMemory, c)
      | .corrupted => (.error .outOfMemory, { c with abort := true })
      | .sufficient => c.fillWindow available

/-- what a step of the pump means for the turn -/
def afterStep (step : Except Status Unit × Client β slots) :
    Turn (Client β slots) (EngineState × Client β slots) :=
  match step.1 with
  | .ok () => .again step.2
  | .error s => .done (.invalid, step.2.fail s)

/-- one turn of the pump -/
def pumpTurn (c : Client β slots) : Turn (Client β slots) (EngineState × Client β slots) :=
  let state := Engine.state c.board
  if state.closed then .done (state, c)
  else if state.sendRec then afterStep c.sendRecord
  else if 0 < c.backlog.pending then afterStep (c.handOver state)
  else if state.recvRec then
    let step := c.receiveRecord
    match step.1 with
    | .ok .record => .again step.2
    | .ok .nothing => .done (state, step.2)
    | .error s => .done (.invalid, step.2.fail s)
  else .done (state, c)

/-- service the engine until nothing is left to do without the peer; answers the flags it ended with -/
def pump (budget : Nat) (c : Client β slots) : Option (EngineState × Client β slots) :=
  repeatTurn (fun c => some c.pumpTurn) budget c

/-- service the engine once, if there is a session to drive -/
def update (budget : Nat) (c : Client β slots) : Result β slots EngineState :=
  match c.lifecycle.mayPump with
  | .error e => some (.error e, c)
  | .ok () =>
    (c.pump budget).map fun (state, c) =>
      if c.abort then (.error .abort, c)
      else if !c.lifecycle.status.isOk then (.error (.status c.lifecycle.status), c)
      else (.ok state, c)

end Client

end TlsClient

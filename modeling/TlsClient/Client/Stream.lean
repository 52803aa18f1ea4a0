/-
The client as a plain byte stream.

A read on a stream waits until data arrives, and a closed engine is the end of the stream: it reads as no bytes.
- `blockingRead`, `readReady`: wait for data, ask whether a read would return at once;
- `readExact`: fill a buffer; the stream must not end before;
- `writeAll`: write everything; one `write` is enough, since it takes all or fails.
-/
import TlsClient.Client.Read
import TlsClient.Client.Write

namespace TlsClient

/-- why a buffer could not be filled -/
inductive FillError where
  /-- the stream ended too early -/
  | unexpectedEof
  | error (e : Error)
  deriving DecidableEq, Repr

namespace Client

variable {β : Type} [Board β] {slots : Nat}

/-- wait for data and take up to `room` bytes of it; no bytes at the end of the stream -/
def blockingRead (budget room : Nat) (c : Client β slots) : Result β slots Bytes :=
  if room = 0 then some (.ok [], c)
  else
    match c.lifecycle.softConnected (Engine.state c.board) with
    | .error .engineClosed => some (.ok [], c)
    | .error e => some (.error e, c)
    | .ok () =>
      (c.drive budget { recvApp := true }).map fun r =>
        match r.1 with
        | .ok () =>
          let taken := r.2.takeUnread room
          (.ok taken.1, taken.2)
        | .error .engineClosed => (.ok [], r.2)
        | .error e => (.error e, r.2)

/-- would a read return at once? the end of the stream counts -/
def readReady (budget : Nat) (c : Client β slots) : Result β slots Bool :=
  (c.available budget).map fun r =>
    match r.1 with
    | .ok count => (.ok (decide (0 < count)), r.2)
    | .error .engineClosed => (.ok true, r.2)
    | .error e => (.error e, r.2)

/-- read until `length` bytes are there -/
def readExact (budget length : Nat) (c : Client β slots) : Option (Except FillError Bytes × Client β slots) :=
  if length = 0 then some (.ok [], c)
  else
    match c.blockingRead budget length with
    | none => none
    | some (.error e, c) => some (.error (.error e), c)
    | some (.ok [], c) => some (.error .unexpectedEof, c)
    | some (.ok (byte :: more), c) =>
      (c.readExact budget (length - (more.length + 1))).map fun r => (r.1.map ((byte :: more) ++ ·), r.2)
termination_by length

/-- write all of `data`; no data makes no call -/
def writeAll (budget : Nat) (data : Bytes) (c : Client β slots) : Result β slots Unit :=
  if data.isEmpty then some (.ok (), c)
  else (c.write budget data).map fun r => (r.1.map fun _ => (), r.2)

end Client

end TlsClient

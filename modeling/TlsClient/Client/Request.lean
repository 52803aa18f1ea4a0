/-
The operations of a client as data.

A `Request` is one call, a `Reply` what it answers. `perform` runs one request; a history of a client is a list of
requests, so what holds of every history is a statement about lists.
-/
import TlsClient.Client.Connect
import TlsClient.Client.Stream

namespace TlsClient

/-- a call of the client -/
inductive Request where
  /-- `draw` yields that many bytes of entropy -/
  | connect (host : Host) (portNumber : Nat) (draw : Nat → Bytes)
  | write (data : Bytes)
  | flush
  | read (room : Nat)
  | peek
  | available
  | update
  | runUntil (target : EngineState)
  | stop
  | connected
  | blockingRead (room : Nat)
  | readExact (length : Nat)
  | readReady
  | writeAll (data : Bytes)

/-- what a call answers -/
inductive Reply where
  | none
  | done (r : Except Error Unit)
  | count (r : Except Error Nat)
  | bytes (r : Except Error Bytes)
  | filled (r : Except FillError Bytes)
  | byte (r : Except Error (Option UInt8))
  | state (r : Except Error EngineState)
  | ready (r : Except Error Bool)
  | verdict (up : Bool)

namespace Reply

/-- the error of an answer -/
def error? : Reply → Option Error
  | .done (.error e) | .count (.error e) | .bytes (.error e) | .byte (.error e) | .state (.error e)
  | .ready (.error e) | .filled (.error (.error e)) => some e
  | _ => Option.none

end Reply

namespace Client

variable {β : Type} [Board β] {slots : Nat}

/-- run one request -/
def perform (budget : Nat) (c : Client β slots) : Request → Option (Reply × Client β slots)
  | .connect host portNumber draw => (c.connect budget draw host portNumber).map fun r => (.done r.1, r.2)
  | .write data => (c.write budget data).map fun r => (.count r.1, r.2)
  | .flush => (c.flush budget).map fun r => (.done r.1, r.2)
  | .read room => (c.read budget room).map fun r => (.bytes r.1, r.2)
  | .peek => (c.peek budget).map fun r => (.byte r.1, r.2)
  | .available => (c.available budget).map fun r => (.count r.1, r.2)
  | .update => (c.update budget).map fun r => (.state r.1, r.2)
  | .runUntil target => (c.runUntil budget target).map fun r => (.done r.1, r.2)
  | .stop => (c.stop budget).map fun c => (.none, c)
  | .connected => some (.verdict c.connected.1, c.connected.2)
  | .blockingRead room => (c.blockingRead budget room).map fun r => (.bytes r.1, r.2)
  | .readExact length => (c.readExact budget length).map fun r => (.filled r.1, r.2)
  | .readReady => (c.readReady budget).map fun r => (.ready r.1, r.2)
  | .writeAll data => (c.writeAll budget data).map fun r => (.done r.1, r.2)

end Client

end TlsClient

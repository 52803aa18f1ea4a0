/-
The journal of a bench: the calls a client makes, in the order it makes them.

A journal counts all calls and keeps the first `Journal.limit` of them. Looking at flags and windows, reading the clock
and waiting are not calls in this sense. `Call.text` is one line a call.
-/
import TlsClient.Headroom
import TlsClient.Net.Transport
import TlsClient.Session.Parameters

namespace TlsClient

/-- a call of a client to its board -/
inductive Call where
  | connect (host : Host) (portNumber : Nat) (ok : Bool)
  | write (length : Nat) (outcome : Except SocketError Nat)
  | read (room : Nat) (outcome : Except SocketError Nat)
  | available (outcome : Except SocketError Nat)
  | flush (ok : Bool)
  | stop
  | connected (up : Bool)
  | sendRecAck (length : Nat)
  | recvRecAck (length : Nat)
  | sendAppAck (length : Nat)
  | recvAppAck (length : Nat)
  | flushApp (force : Bool)
  | reset (server : Option String)
  | offer (parameters : SessionParameters)
  | entropy (bytes : Bytes)
  | headroom (required : Nat) (answer : Headroom)

namespace Call

/-- a count, or the name of the failure -/
def outcomeText : Except SocketError Nat → String
  | .ok count => toString count
  | .error e => e.name

/-- success or failure -/
def okText (ok : Bool) : String := if ok then "ok" else "err"

/-- the call in one line -/
def text : Call → String
  | .connect host portNumber ok => s!"t.connect {host.text} {portNumber} {okText ok}"
  | .write length outcome => s!"t.write {length} {outcomeText outcome}"
  | .read room outcome => s!"t.read {room} {outcomeText outcome}"
  | .available outcome => s!"t.available {outcomeText outcome}"
  | .flush ok => s!"t.flush {okText ok}"
  | .stop => "t.stop"
  | .connected up => s!"t.connected {up}"
  | .sendRecAck length => s!"e.sendrec_ack {length}"
  | .recvRecAck length => s!"e.recvrec_ack {length}"
  | .sendAppAck length => s!"e.sendapp_ack {length}"
  | .recvAppAck length => s!"e.recvapp_ack {length}"
  | .flushApp force => s!"e.flush {force}"
  | .reset server => "e.reset " ++ server.getD "-"
  | .offer p => s!"e.offer {Bytes.hex p.id} {Bytes.hex p.data}"
  | .entropy bytes => s!"e.entropy {Bytes.hex bytes}"
  | .headroom required answer => s!"h.check {required} {answer.name}"

end Call

/-- the first calls of a step and the number of all -/
structure Journal where
  /-- the calls kept, newest first -/
  kept : List Call := []
  count : Nat := 0

namespace Journal

/-- how many calls are kept -/
def limit : Nat := 32

/-- note a call -/
def note (call : Call) (j : Journal) : Journal :=
  { kept := if j.count < limit then call :: j.kept else j.kept, count := j.count + 1 }

/-- the calls kept, oldest first, in words -/
def lines (j : Journal) : List String := (j.kept.map Call.text).reverse

theorem length_kept_note (call : Call) (j : Journal) (h : j.kept.length = min j.count limit) :
    (j.note call).kept.length = min (j.note call).count limit := by
  unfold note
  split <;> simp <;> omega

end Journal

end TlsClient

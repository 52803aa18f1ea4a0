/-
The bench: a board with scripted parts that keeps a journal of the calls made to it.

Each operation lets its part act, notes the call with its outcome, and, on the engine side, runs the plan of the event.
-/
import TlsClient.Bench.Journal
import TlsClient.Bench.Script
import TlsClient.Board
import TlsClient.Sim.Probe
import TlsClient.Sim.Time

namespace TlsClient

/-- a scripted board with a journal -/
structure Bench where
  wire : Wire := {}
  device : Device := {}
  time : SimTime := {}
  probe : SimProbe := .unbounded
  journal : Journal := {}

namespace Bench

/-- note a call -/
def note (call : Call) (b : Bench) : Bench := { b with journal := b.journal.note call }

/-- let the wire act and note the call by its outcome -/
def onWire {α : Type} (f : Wire → α × Wire) (call : α → Call) (b : Bench) : α × Bench :=
  let act := f b.wire
  (act.1, ({ b with wire := act.2 }).note (call act.1))

/-- let the engine act and note the call -/
def onEngine (f : SimEngine → SimEngine) (call : Call) (b : Bench) : Bench :=
  ({ b with device := b.device.onEngine f }).note call

/-- let the engine act, note the call and run the plan of the event -/
def onEvent (f : SimEngine → SimEngine) (call : Call) (b : Bench) : Bench :=
  ({ b with device := (b.device.onEngine f).event }).note call

end Bench

instance : Board Bench where
  connect host portNumber :=
    Bench.onWire (Wire.onSocket (SimSocket.connect host portNumber)) fun r => .connect host portNumber r.isOk
  write bytes := Bench.onWire (Wire.write bytes) (.write bytes.length)
  read room := Bench.onWire (Wire.read room) fun r => .read room (r.map Reading.claimed)
  available := Bench.onWire Wire.available .available
  flush := Bench.onWire Wire.flush fun r => .flush r.isOk
  stop b := (Bench.onWire (fun w => ((), { w with socket := w.socket.stop })) (fun _ => .stop) b).2
  connected := Bench.onWire (Wire.onSocket SimSocket.connected) .connected
  state b := b.device.engine.state
  sendRecBuf b := b.device.engine.outgoing
  sendRecAck length := Bench.onEvent (SimEngine.sendRecAck length) (.sendRecAck length)
  recvRecBuf b :=
    (b.device.engine.recvRecBuf.1, { b with device := b.device.onEngine fun e => e.recvRecBuf.2 })
  fillRecvRec bytes b := { b with device := b.device.onEngine (SimEngine.fillRecvRec bytes) }
  recvRecAck length := Bench.onEvent (SimEngine.recvRecAck length) (.recvRecAck length)
  sendAppBuf b :=
    (b.device.engine.sendAppBuf.1, { b with device := b.device.onEngine fun e => e.sendAppBuf.2 })
  storeSendApp start bytes b := { b with device := b.device.onEngine (SimEngine.storeSendApp start bytes) }
  sendAppAck length := Bench.onEvent (SimEngine.sendAppAck length) (.sendAppAck length)
  recvAppBuf b := b.device.engine.unread
  recvAppAck length := Bench.onEvent (SimEngine.recvAppAck length) (.recvAppAck length)
  flushApp force := Bench.onEvent (SimEngine.flushApp force) (.flushApp force)
  reset server b :=
    ((b.device.engine.reset server).1, b.onEvent (fun e => (e.reset server).2) (.reset server))
  sessionParameters b := b.device.engine.session
  offer p := Bench.onEngine (SimEngine.offer p) (.offer p)
  injectEntropy bytes := Bench.onEngine (SimEngine.injectEntropy bytes) (.entropy bytes)
  lastError b := b.device.engine.lastError
  now b := (b.time.read.1, { b with time := b.time.read.2 })
  delay ms b := { b with time := b.time.delayMs ms }
  headroom required b :=
    let answer := b.probe.check required
    (answer.1, ({ b with probe := answer.2 }).note (.headroom required answer.1))

end TlsClient

/-
The simulated board: a simulated socket, engine, time and memory probe side by side.

The parts do not know of each other; a client on this board is all that moves bytes between them.
-/
import TlsClient.Board
import TlsClient.Sim.Engine
import TlsClient.Sim.Probe
import TlsClient.Sim.Socket
import TlsClient.Sim.Time

namespace TlsClient

/-- a board without hardware -/
structure SimBoard where
  socket : SimSocket := {}
  engine : SimEngine := {}
  time : SimTime := {}
  probe : SimProbe := .unbounded

instance : Inhabited SimBoard := ⟨{}⟩

namespace SimBoard

/-- let the socket act -/
def onSocket {α : Type} (f : SimSocket → α × SimSocket) (b : SimBoard) : α × SimBoard :=
  ((f b.socket).1, { b with socket := (f b.socket).2 })

/-- let the engine act -/
def onEngine (f : SimEngine → SimEngine) (b : SimBoard) : SimBoard := { b with engine := f b.engine }

end SimBoard

instance : Board SimBoard where
  connect host portNumber := SimBoard.onSocket (SimSocket.connect host portNumber)
  write bytes := SimBoard.onSocket (SimSocket.write bytes)
  read room := SimBoard.onSocket (SimSocket.read room)
  available := SimBoard.onSocket SimSocket.available
  flush := SimBoard.onSocket SimSocket.flush
  stop b := { b with socket := b.socket.stop }
  connected := SimBoard.onSocket SimSocket.connected
  state b := b.engine.state
  sendRecBuf b := b.engine.outgoing
  sendRecAck length := SimBoard.onEngine (SimEngine.sendRecAck length)
  recvRecBuf b := (b.engine.recvRecBuf.1, { b with engine := b.engine.recvRecBuf.2 })
  fillRecvRec bytes := SimBoard.onEngine (SimEngine.fillRecvRec bytes)
  recvRecAck length := SimBoard.onEngine (SimEngine.recvRecAck length)
  sendAppBuf b := (b.engine.sendAppBuf.1, { b with engine := b.engine.sendAppBuf.2 })
  storeSendApp start bytes := SimBoard.onEngine (SimEngine.storeSendApp start bytes)
  sendAppAck length := SimBoard.onEngine (SimEngine.sendAppAck length)
  recvAppBuf b := b.engine.unread
  recvAppAck length := SimBoard.onEngine (SimEngine.recvAppAck length)
  flushApp force := SimBoard.onEngine (SimEngine.flushApp force)
  reset server b := ((b.engine.reset server).1, { b with engine := (b.engine.reset server).2 })
  sessionParameters b := b.engine.session
  offer p := SimBoard.onEngine (SimEngine.offer p)
  injectEntropy bytes := SimBoard.onEngine (SimEngine.injectEntropy bytes)
  lastError b := b.engine.lastError
  now b := (b.time.read.1, { b with time := b.time.read.2 })
  delay ms b := { b with time := b.time.delayMs ms }
  headroom required b := ((b.probe.check required).1, { b with probe := (b.probe.check required).2 })

end TlsClient

/-
What a client says to its board.

`Overheard` is a simulated board with a transcript: every call that does more than hand out a window or tell the flags,
together with every reading of the clock and every delay, in the order they are made. To forget the transcript is a
board map (`Overheard.forget`), so a client on an overheard board does what it does on the plain one, and the transcript
is its own.
- `Utterance`: a line of the transcript;
- `Client.overhear`: the client on an overheard board, nothing said yet;
- `Client.perform_overhear`: every request is answered alike on both boards.
-/
import TlsClient.Bench.Journal
import TlsClient.Proofs.BoardMaps
import TlsClient.Sim.Board

namespace TlsClient

/-- what a client says to its board -/
inductive Utterance where
  /-- socket, engine or memory probe were called -/
  | call (call : Call)
  /-- the clock was read -/
  | clock
  /-- a delay was asked for -/
  | delay (ms : Nat)

/-- a simulated board and all that was said to it, oldest first -/
structure Overheard where
  board : SimBoard
  said : List Utterance := []

namespace Overheard

/-- the board answers, and the call is written down -/
def ask {α : Type} (f : SimBoard → α × SimBoard) (line : α → Utterance) (o : Overheard) : α × Overheard :=
  ((f o.board).1, { board := (f o.board).2, said := o.said ++ [line (f o.board).1] })

/-- the board acts, and the call is written down -/
def act (f : SimBoard → SimBoard) (line : Utterance) (o : Overheard) : Overheard :=
  { board := f o.board, said := o.said ++ [line] }

/-- a window is handed out or written to; that is not a call in this sense -/
def aside (f : SimBoard → SimBoard) (o : Overheard) : Overheard := { o with board := f o.board }

end Overheard

open Overheard in
instance : Board Overheard where
  connect host portNumber := ask (Transport.connect host portNumber) fun r => .call (.connect host portNumber r.isOk)
  write bytes := ask (Transport.write bytes) fun r => .call (.write bytes.length r)
  read room := ask (Transport.read room) fun r => .call (.read room (r.map Reading.claimed))
  available := ask Transport.available fun r => .call (.available r)
  flush := ask Transport.flush fun r => .call (.flush r.isOk)
  stop := act Transport.stop (.call .stop)
  connected := ask Transport.connected fun up => .call (.connected up)
  state o := Engine.state o.board
  sendRecBuf o := Engine.sendRecBuf o.board
  sendRecAck length := act (Engine.sendRecAck length) (.call (.sendRecAck length))
  recvRecBuf o := ((Engine.recvRecBuf o.board).1, o.aside fun b => (Engine.recvRecBuf b).2)
  fillRecvRec bytes := aside (Engine.fillRecvRec bytes)
  recvRecAck length := act (Engine.recvRecAck length) (.call (.recvRecAck length))
  sendAppBuf o := ((Engine.sendAppBuf o.board).1, o.aside fun b => (Engine.sendAppBuf b).2)
  storeSendApp start bytes := aside (Engine.storeSendApp start bytes)
  sendAppAck length := act (Engine.sendAppAck length) (.call (.sendAppAck length))
  recvAppBuf o := Engine.recvAppBuf o.board
  recvAppAck length := act (Engine.recvAppAck length) (.call (.recvAppAck length))
  flushApp force := act (Engine.flushApp force) (.call (.flushApp force))
  reset server := ask (Engine.reset server) fun _ => .call (.reset server)
  sessionParameters o := Engine.sessionParameters o.board
  offer p := act (Engine.offer p) (.call (.offer p))
  injectEntropy bytes := act (Engine.injectEntropy bytes) (.call (.entropy bytes))
  lastError o := Engine.lastError o.board
  now := ask Timer.now fun _ => .clock
  delay ms := act (Timer.delay ms) (.delay ms)
  headroom required := ask (Probe.headroom required) fun answer => .call (.headroom required answer)

/-- to forget the transcript -/
def Overheard.forget : BoardMap Overheard SimBoard where
  map := Overheard.board
  connect _ _ _ := rfl
  write _ _ := rfl
  read _ _ := rfl
  available _ := rfl
  flush _ := rfl
  stop _ := rfl
  connected _ := rfl
  state _ := rfl
  sendRecBuf _ := rfl
  sendRecAck _ _ := rfl
  recvRecBuf _ := rfl
  fillRecvRec _ _ := rfl
  recvRecAck _ _ := rfl
  sendAppBuf _ := rfl
  storeSendApp _ _ _ := rfl
  sendAppAck _ _ := rfl
  recvAppBuf _ := rfl
  recvAppAck _ _ := rfl
  flushApp _ _ := rfl
  reset _ _ := rfl
  sessionParameters _ := rfl
  offer _ _ := rfl
  injectEntropy _ _ := rfl
  now _ := rfl
  delay _ _ := rfl
  headroom _ _ := rfl

namespace Client

variable {slots : Nat}

/-- the client on an overheard board, nothing said yet -/
def overhear (c : Client SimBoard slots) : Client Overheard slots where
  board := { board := c.board }
  config := c.config
  sessions := c.sessions
  lifecycle := c.lifecycle
  backlog := c.backlog
  stats := c.stats
  abort := c.abort

theorem carry_overhear (c : Client SimBoard slots) : c.overhear.carry Overheard.forget = c := rfl

/-- a request is answered alike, overheard or not -/
theorem perform_overhear {c c' : Client SimBoard slots} {budget : Nat} {request : Request} {reply : Reply}
    (h : c.perform budget request = some (reply, c')) :
    ∃ o, c.overhear.perform budget request = some (reply, o) ∧ o.carry Overheard.forget = c' := by
  rw [← carry_overhear c, perform_carry] at h
  obtain ⟨⟨reply', o⟩, hperform, heq⟩ := Option.map_eq_some_iff.1 h
  obtain ⟨rfl, rfl⟩ := Prod.mk.inj heq
  exact ⟨o, hperform, rfl⟩

end Client

end TlsClient

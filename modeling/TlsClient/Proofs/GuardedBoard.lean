/-
A board behind a guard.

`Guarded` is a simulated board with a guard that writes down every access to a buffer, in range or not: what the
simulated socket and engine cut off their buffers, and what a client makes of a window that it was handed. An access out
of range stops all further work: the guard reports a closed engine from then on, and a closed engine ends every loop.
- `Access`, `Access.InRange`: a slice, an index, a copy or a difference of lengths;
- `SimSocket.readAccesses`, `SimEngine.sendRecAccesses`, …: what a call does to the buffers of the simulated parts;
- `Guarded.likeness`: as long as every access is in range, nobody can tell the guarded board from the plain one. The
  simulated parts cut every count to their buffers; that a read stays within the window handed out is for the client to
  see to.
-/
import TlsClient.Proofs.Likeness

namespace TlsClient

/-! ## Accesses -/

/-- an access to a buffer that fails out of range -/
inductive Access where
  /-- the bytes between two positions of a buffer -/
  | slice (start stop length : Nat)
  /-- one element of a list, to be looked at or taken out -/
  | element (index length : Nat)
  /-- a slice copied onto another one, which has to be as long -/
  | copy (target source : Nat)
  /-- a length less another one -/
  | difference (minuend subtrahend : Nat)
  deriving DecidableEq, Repr

namespace Access

/-- the access does not fail -/
def InRange : Access → Prop
  | .slice start stop length => start ≤ stop ∧ stop ≤ length
  | .element index length => index < length
  | .copy target source => source = target
  | .difference minuend subtrahend => subtrahend ≤ minuend

instance : DecidablePred InRange
  | .slice start stop length => inferInstanceAs (Decidable (start ≤ stop ∧ stop ≤ length))
  | .element index length => inferInstanceAs (Decidable (index < length))
  | .copy target source => inferInstanceAs (Decidable (source = target))
  | .difference minuend subtrahend => inferInstanceAs (Decidable (subtrahend ≤ minuend))

/-- the first bytes of a buffer -/
def front (count length : Nat) : Access := .slice 0 count length

theorem front_inRange {count length : Nat} (h : count ≤ length) : (front count length).InRange := ⟨Nat.zero_le _, h⟩

end Access

/-! ## What the simulated parts do to their buffers -/

namespace SimSocket

/-- a write copies the front of what it is given -/
def writeAccesses (bytes : Bytes) (s : SimSocket) : List Access :=
  if s.failWrites || !s.isConnected then [] else [.front (capAt s.writeChunk bytes.length) bytes.length]

/-- a read drains the front of what the peer has sent -/
def readAccesses (room : Nat) (s : SimSocket) : List Access :=
  if s.failReads then [] else [.front (min room s.incoming.length) s.incoming.length]

theorem writeAccesses_inRange (bytes : Bytes) (s : SimSocket) : ∀ a ∈ s.writeAccesses bytes, a.InRange := by
  unfold writeAccesses
  split_ifs
  · simp
  · simpa using Access.front_inRange (capAt_le s.writeChunk bytes.length)

theorem readAccesses_inRange (room : Nat) (s : SimSocket) : ∀ a ∈ s.readAccesses room, a.InRange := by
  unfold readAccesses
  split_ifs
  · simp
  · simpa using Access.front_inRange (Nat.min_le_right room s.incoming.length)

end SimSocket

namespace SimEngine

theorem granted_le (length window : Nat) : granted length window ≤ window := Nat.min_le_right _ _

/-- an acknowledgement takes the front of a buffer, as far as it is granted -/
def ackAccesses (length : Nat) (buffer : Bytes) : List Access := [.front (granted length buffer.length) buffer.length]

/-- ciphertext received is copied out of its window in the application phase only -/
def recvRecAccesses (length : Nat) (e : SimEngine) : List Access :=
  match e.phase with
  | .app => ackAccesses length e.recvWindow
  | .idle | .awaiting _ | .closed => []

/-- plaintext handed over is copied out of its window, once that has the length it should have -/
def sendAppAccesses (length : Nat) (e : SimEngine) : List Access :=
  [.front (granted length e.capacity) (Bytes.resize e.plainWindow e.capacity).length]

theorem ackAccesses_inRange (length : Nat) (buffer : Bytes) : ∀ a ∈ ackAccesses length buffer, a.InRange := by
  simpa [ackAccesses] using Access.front_inRange (granted_le length buffer.length)

theorem recvRecAccesses_inRange (length : Nat) (e : SimEngine) : ∀ a ∈ e.recvRecAccesses length, a.InRange := by
  unfold recvRecAccesses
  cases e.phase with
  | app => exact ackAccesses_inRange length e.recvWindow
  | _ => simp

theorem sendAppAccesses_inRange (length : Nat) (e : SimEngine) : ∀ a ∈ e.sendAppAccesses length, a.InRange := by
  simpa [sendAppAccesses, Bytes.length_resize] using Access.front_inRange (granted_le length e.capacity)

end SimEngine

/-! ## The guard -/

/-- a simulated board and all accesses to its buffers so far, oldest first -/
structure Guarded where
  board : SimBoard
  accesses : List Access := []

namespace Guarded

/-- no access so far was out of range -/
def Intact (g : Guarded) : Prop := ∀ a ∈ g.accesses, a.InRange

instance (g : Guarded) : Decidable g.Intact := inferInstanceAs (Decidable (∀ a ∈ g.accesses, a.InRange))

/-- write accesses down -/
def note (accesses : List Access) (g : Guarded) : Guarded := { g with accesses := g.accesses ++ accesses }

/-- let the board act -/
def act (f : SimBoard → SimBoard) (g : Guarded) : Guarded := { g with board := f g.board }

/-- let the board act and answer -/
def ask {α : Type} (f : SimBoard → α × SimBoard) (g : Guarded) : α × Guarded :=
  ((f g.board).1, { g with board := (f g.board).2 })

/-- a closed engine, if the guard has seen an access out of range -/
def state (g : Guarded) : EngineState := if g.Intact then Engine.state g.board else { closed := true }

theorem Intact.note {g : Guarded} (hg : g.Intact) {accesses : List Access} (h : ∀ a ∈ accesses, a.InRange) :
    (g.note accesses).Intact := by
  intro a ha
  rcases List.mem_append.1 ha with hold | hnew
  · exact hg a hold
  · exact h a hnew

end Guarded

open Guarded in
/-- To read into a window is an access of the client, which cuts the window to what it wants, and then of the socket. -/
instance : Board Guarded where
  connect host portNumber := ask (Transport.connect host portNumber)
  write bytes g := (g.note (g.board.socket.writeAccesses bytes)).ask (Transport.write bytes)
  read room g :=
    (g.note (.front room g.board.engine.recvWindow.length :: g.board.socket.readAccesses room)).ask
      (Transport.read room)
  available := ask Transport.available
  flush := ask Transport.flush
  stop := act Transport.stop
  connected := ask Transport.connected
  state := state
  sendRecBuf g := Engine.sendRecBuf g.board
  sendRecAck length g :=
    (g.note (SimEngine.ackAccesses length g.board.engine.outgoing)).act (Engine.sendRecAck length)
  recvRecBuf := ask Engine.recvRecBuf
  fillRecvRec bytes := act (Engine.fillRecvRec bytes)
  recvRecAck length g := (g.note (g.board.engine.recvRecAccesses length)).act (Engine.recvRecAck length)
  sendAppBuf := ask Engine.sendAppBuf
  storeSendApp start bytes := act (Engine.storeSendApp start bytes)
  sendAppAck length g := (g.note (g.board.engine.sendAppAccesses length)).act (Engine.sendAppAck length)
  recvAppBuf g := Engine.recvAppBuf g.board
  recvAppAck length g :=
    (g.note (SimEngine.ackAccesses length g.board.engine.unread)).act (Engine.recvAppAck length)
  flushApp force := act (Engine.flushApp force)
  reset server := ask (Engine.reset server)
  sessionParameters g := Engine.sessionParameters g.board
  offer p := act (Engine.offer p)
  injectEntropy bytes := act (Engine.injectEntropy bytes)
  lastError g := Engine.lastError g.board
  now := ask Timer.now
  delay ms := act (Timer.delay ms)
  headroom required := ask (Probe.headroom required)

/-- an intact guard around a board -/
structure Guarded.Around (g : Guarded) (b : SimBoard) : Prop where
  board : b = g.board
  intact : g.Intact

namespace Guarded.Around

variable {g : Guarded} {b : SimBoard}

theorem note (h : g.Around b) {accesses : List Access} (haccesses : ∀ a ∈ accesses, a.InRange) :
    (g.note accesses).Around b :=
  ⟨h.board, h.intact.note haccesses⟩

theorem act (h : g.Around b) (f : SimBoard → SimBoard) : (g.act f).Around (f b) := ⟨congrArg f h.board, h.intact⟩

theorem ask {α : Type} (h : g.Around b) (f : SimBoard → α × SimBoard) : Agree Guarded.Around (g.ask f) (f b) :=
  ⟨congrArg (fun b => (f b).1) h.board, congrArg (fun b => (f b).2) h.board, h.intact⟩

theorem state (h : g.Around b) : Engine.state b = Engine.state g := by
  rw [h.board]
  exact (if_pos h.intact).symm

/-- the one call that the client might make out of range -/
theorem read (h : g.Around b) {room : Nat} (hroom : room ≤ g.board.engine.recvWindow.length) :
    Agree Guarded.Around (Transport.read room g) (Transport.read room b) := by
  have haccesses : ∀ a ∈ Access.front room g.board.engine.recvWindow.length :: g.board.socket.readAccesses room,
      a.InRange := by
    rw [List.forall_mem_cons]
    exact ⟨Access.front_inRange hroom, g.board.socket.readAccesses_inRange room⟩
  exact (h.note haccesses).ask (Transport.read room)

end Guarded.Around

/-- **An intact guard cannot be told from the board it guards.** -/
def Guarded.likeness : Likeness Guarded SimBoard where
  like _ := Around
  filling _ := Around
  relax h := h
  release h := h
  connect host portNumber h := h.ask (Transport.connect host portNumber)
  write bytes h := (h.note (SimSocket.writeAccesses_inRange bytes _)).ask (Transport.write bytes)
  read h hroom := Around.read (h.ask Engine.recvRecBuf).after hroom
  available h := h.ask Transport.available
  flush h := h.ask Transport.flush
  stop h := h.act Transport.stop
  connected h := h.ask Transport.connected
  state h := h.state
  sendRecBuf h := congrArg Engine.sendRecBuf h.board
  sendRecAck length h := (h.note (SimEngine.ackAccesses_inRange length _)).act (Engine.sendRecAck length)
  recvRecBuf h := ⟨congrArg List.length (h.ask Engine.recvRecBuf).answer, (h.ask Engine.recvRecBuf).after⟩
  fillRecvRec bytes h := h.act (Engine.fillRecvRec bytes)
  recvRecAck length h := (h.note (SimEngine.recvRecAccesses_inRange length _)).act (Engine.recvRecAck length)
  sendAppBuf h := ⟨congrArg List.length (h.ask Engine.sendAppBuf).answer, (h.ask Engine.sendAppBuf).after⟩
  storeSendApp h _ := (h.ask Engine.sendAppBuf).after.act (Engine.storeSendApp _ _)
  sendAppAck h := (h.note (SimEngine.sendAppAccesses_inRange _ _)).act (Engine.sendAppAck _)
  recvAppBuf h := congrArg Engine.recvAppBuf h.board
  recvAppAck length h := (h.note (SimEngine.ackAccesses_inRange length _)).act (Engine.recvAppAck length)
  flushApp force h := h.act (Engine.flushApp force)
  reset server h := h.ask (Engine.reset server)
  sessionParameters h := congrArg Engine.sessionParameters h.board
  offer p h := h.act (Engine.offer p)
  injectEntropy bytes h := h.act (Engine.injectEntropy bytes)
  now h := h.ask Timer.now
  delay ms h := h.act (Timer.delay ms)
  headroom required h := h.ask (Probe.headroom required)

end TlsClient

/-
What the steps of a client do on a simulated board.

The generic `Step` speaks of calls of the board. Here each step is read as a change of the parts of the board, all of them
at once (`Move`), and the calls are opened here for the last time.
- `SimEngine.hand`, `SimEngine.receive`: what an acknowledgement within its window does;
- `Cause`: what a failure is to blame on;
- `sendRecord_cases`, `handOver_cases`, `fillWindow_cases`: what the pieces of work of the pump do, or why they fail;
- `Fault.outcome`: why a step fails, and what it may have changed before `fail`;
- `Step.move`: a step is a move;
- `Steps.setup`, `Steps.phase`: no step changes the settings of the engine, or its phase once the handshake is over.
-/
import TlsClient.Proofs.Requests
import TlsClient.Sim.Board

namespace TlsClient

/-! ## Windows -/

namespace Bytes

theorem resize_of_length {bytes : Bytes} {length : Nat} (h : bytes.length = length) : resize bytes length = bytes := by
  subst h
  simp [resize, zeros]

/-- data that fits into a window replaces as many bytes of it -/
theorem overwrite_eq {window data : Bytes} {start : Nat} (h : start + data.length ≤ window.length) :
    overwrite window start data = window.take start ++ data ++ window.drop (start + data.length) := by
  rw [overwrite, List.take_of_length_le]
  simp only [List.length_append, List.length_take, List.length_drop]
  omega

theorem take_overwrite {window data : Bytes} {start : Nat} (h : start + data.length ≤ window.length) :
    (overwrite window start data).take (start + data.length) = window.take start ++ data := by
  rw [overwrite_eq h, List.take_left']
  simp only [List.length_append, List.length_take]
  omega

end Bytes

/-! ## The engine -/

namespace SimEngine

@[simp] theorem granted_of_le {length window : Nat} (h : length ≤ window) : granted length window = length :=
  Nat.min_eq_left h

@[simp] theorem grant_of_le {e : SimEngine} {length window : Nat} (h : length ≤ window) : e.grant length window = e :=
  if_neg (Nat.not_lt.2 h)

/-- the window for plaintext as it is handed out -/
def fitted (e : SimEngine) : Bytes := Bytes.resize e.plainWindow e.capacity

/-- the window for plaintext was handed out -/
def fit (e : SimEngine) : SimEngine := { e with plainWindow := e.fitted }

/-- the first bytes of the window for plaintext were handed over -/
def hand (e : SimEngine) (count : Nat) : SimEngine :=
  { e with
    plainWindow := e.fitted
    plaintext := e.plaintext ++ e.fitted.take count
    outgoing := e.outgoing ++ e.fitted.take count
    handovers := e.handovers ++ [count] }

/-- a record came in: a part of the handshake, or plaintext for the caller -/
def receive (e : SimEngine) (record : Bytes) : SimEngine :=
  match e.phase with
  | .awaiting remaining => { e.flightArrived remaining record.length with recvWindow := [] }
  | .app => { e with unread := e.unread ++ record, recvWindow := [] }
  | .idle | .closed => { e with recvWindow := [] }

@[simp] theorem length_fitted (e : SimEngine) : e.fitted.length = e.capacity := Bytes.length_resize _ _

theorem sendAppBuf_of_sendApp {e : SimEngine} (h : e.state.sendApp = true) : e.sendAppBuf = (e.fitted, e.fit) :=
  if_pos h

theorem sendAppBuf_of_not_sendApp {e : SimEngine} (h : e.state.sendApp = false) : e.sendAppBuf = ([], e) :=
  if_neg (by simp [h])

theorem sendAppAck_of_le {e : SimEngine} {count : Nat} (h : count ≤ e.capacity) :
    e.sendAppAck count = e.hand count := by
  simp only [sendAppAck, granted_of_le h, grant_of_le h, hand, fitted]

@[simp] theorem fitted_fit (e : SimEngine) : e.fit.fitted = e.fitted := Bytes.resize_of_length (length_fitted e)

@[simp] theorem hand_fit (e : SimEngine) (count : Nat) : e.fit.hand count = e.hand count := by
  simp only [hand, fitted_fit]
  rfl

theorem recvAppAck_of_le {e : SimEngine} {count : Nat} (h : count ≤ e.unread.length) :
    e.recvAppAck count = { e with unread := e.unread.drop count } := by
  simp only [recvAppAck, granted_of_le h, grant_of_le h]

theorem sendRecAck_of_le {e : SimEngine} {count : Nat} (h : count ≤ e.outgoing.length) :
    e.sendRecAck count = { e with outgoing := e.outgoing.drop count } := by
  simp only [sendRecAck, granted_of_le h, grant_of_le h]

/-- a record that fits is received as it came -/
theorem recvRecAck_fill {e : SimEngine} {record : Bytes} (h : record.length ≤ e.recvWant) :
    (e.recvRecBuf.2.fillRecvRec record).recvRecAck record.length = e.receive record := by
  have hwindow : (Bytes.overwrite (Bytes.zeros e.recvWant) 0 record).length = e.recvWant := by
    rw [Bytes.length_overwrite, Bytes.length_zeros]
  have hfit : 0 + record.length ≤ (Bytes.zeros e.recvWant).length := by simpa [Bytes.length_zeros] using h
  have hrecord : (Bytes.overwrite (Bytes.zeros e.recvWant) 0 record).take record.length = record := by
    simpa using Bytes.take_overwrite hfit
  rw [← hwindow] at h
  simp only [recvRecAck, recvRecBuf, fillRecvRec, granted_of_le h, grant_of_le h, receive, takeRecord, hrecord]
  cases e.phase with
  | awaiting remaining =>
    simp only [flightArrived, establish]
    split <;> rfl
  | app => rfl
  | idle => rfl
  | closed => rfl

/-- unread plaintext was dropped, as far as the flags report any -/
def drained (e : SimEngine) (flags : EngineState) : SimEngine := if flags.recvApp then { e with unread := [] } else e

/-- the flags of an engine that is not forced to others are those of its phase -/
theorem state_of_natural {e : SimEngine} (h : e.forced = none) : e.state = e.naturalState := by
  simp [state, h]

theorem closed_iff {e : SimEngine} (hforced : e.forced = none) : e.state.closed = true ↔ e.phase = .closed := by
  rw [state_of_natural hforced]
  unfold naturalState
  split
  · next hphase => simp [EngineState.invalid, hphase]
  · next hphase => simp [hphase]
  · next hphase => split_ifs <;> simp [hphase]
  · next hphase => split_ifs <;> simp [appState, hphase]

/-- plaintext is taken once nothing is queued, and if buffers are shared, once nothing is unread either -/
theorem sendApp_iff {e : SimEngine} (hforced : e.forced = none) :
    e.state.sendApp = true ↔ e.phase = .app ∧ e.outgoing = [] ∧ (e.sharedBuffer = true → e.unread = []) := by
  rw [state_of_natural hforced]
  unfold naturalState
  split
  · next hphase => simp [EngineState.invalid, hphase]
  · next hphase => simp [hphase]
  · next hphase => split_ifs <;> simp [hphase]
  · next hphase =>
    split_ifs with hqueue
    · simp only [appState, hphase, List.isEmpty_iff.1 hqueue, Bool.not_eq_true', Bool.and_eq_false_iff, true_and]
      cases e.sharedBuffer <;> simp
    · simp [mt List.isEmpty_iff.2 hqueue]

theorem recvApp_iff {e : SimEngine} (hforced : e.forced = none) :
    e.state.recvApp = true ↔ e.phase = .app ∧ e.outgoing = [] ∧ e.unread ≠ [] := by
  rw [state_of_natural hforced]
  unfold naturalState
  split
  · next hphase => simp [EngineState.invalid, hphase]
  · next hphase => simp [hphase]
  · next hphase => split_ifs <;> simp [hphase]
  · next hphase =>
    split_ifs with hqueue
    · simp [appState, hphase, List.isEmpty_iff.1 hqueue]
    · simp [mt List.isEmpty_iff.2 hqueue]

/-- a closed engine takes no plaintext -/
theorem phase_ne_closed_of_sendApp {e : SimEngine} (hforced : e.forced = none) (h : e.state.sendApp = true) :
    e.phase ≠ .closed := by
  rw [((sendApp_iff hforced).1 h).1]
  exact nofun

/-- a record that comes in changes the phase and what it brings to the caller, and nothing that was written -/
theorem receive_frame (e : SimEngine) (record : Bytes) : ∃ phase unread session handshakes,
    e.receive record = { e with phase, unread, session, handshakes, recvWindow := [] } := by
  unfold receive flightArrived establish
  split
  · split_ifs <;> exact ⟨_, _, _, _, rfl⟩
  · exact ⟨_, _, _, _, rfl⟩
  · exact ⟨_, _, _, _, rfl⟩
  · exact ⟨_, _, _, _, rfl⟩

/-- a closed engine stays closed -/
theorem receive_closed {e : SimEngine} (h : e.phase = .closed) (record : Bytes) :
    (e.receive record).phase = .closed := by
  simp [receive, h]

theorem drained_frame (e : SimEngine) (flags : EngineState) : ∃ unread, e.drained flags = { e with unread } := by
  unfold drained
  split_ifs
  · exact ⟨_, rfl⟩
  · exact ⟨_, rfl⟩

theorem phase_drained (e : SimEngine) (flags : EngineState) : (e.drained flags).phase = e.phase := by
  obtain ⟨unread, hdrained⟩ := e.drained_frame flags
  rw [hdrained]

/-- only a handshake takes a record to another phase -/
theorem phase_receive {e : SimEngine} (hsettled : ∀ remaining, e.phase ≠ .awaiting remaining) (record : Bytes) :
    (e.receive record).phase = e.phase := by
  unfold receive
  split
  · next remaining hphase => exact absurd hphase (hsettled remaining)
  · rfl
  · rfl
  · rfl

end SimEngine

/-- the socket was flushed and closed -/
def SimSocket.shut (s : SimSocket) : SimSocket :=
  { s with flushes := s.flushes + 1, stops := s.stops + 1, isConnected := false }

/-- the parts of a simulated board do not know of each other -/
instance : Separate SimBoard where
  available_state _ := rfl
  connected_state _ := rfl
  delay_state _ _ := rfl
  now_state _ := rfl

/-! ## Calls of the board -/

namespace SimBoard

theorem write_of_broken {b : SimBoard} (bytes : Bytes) (h : (b.socket.failWrites || !b.socket.isConnected) = true) :
    Transport.write bytes b = (.error .broken, { b with socket.writeCalls := b.socket.writeCalls + 1 }) := by
  simp only [Transport.write, onSocket, SimSocket.write, if_pos h]

theorem write_of_open {b : SimBoard} (bytes : Bytes) (h : ¬(b.socket.failWrites || !b.socket.isConnected) = true) :
    Transport.write bytes b =
      (.ok (capAt b.socket.writeChunk bytes.length + b.socket.overreport),
        { b with
          socket.writeCalls := b.socket.writeCalls + 1
          socket.written := b.socket.written ++ bytes.take (capAt b.socket.writeChunk bytes.length) }) := by
  simp only [Transport.write, onSocket, SimSocket.write, if_neg h]

theorem read_of_broken {b : SimBoard} (room : Nat) (h : b.socket.failReads = true) :
    Transport.read room b = (.error .broken, b) := by
  simp only [Transport.read, onSocket, SimSocket.read, if_pos h]

theorem read_of_open {b : SimBoard} {room : Nat} (hroom : room ≤ b.socket.incoming.length)
    (h : ¬b.socket.failReads = true) :
    ∃ reading : Reading room,
      Transport.read room b = (.ok reading, { b with socket.incoming := b.socket.incoming.drop room }) ∧
        reading.moved = b.socket.incoming.take room ∧ reading.claimed = room + b.socket.overreport := by
  have hmin : min room b.socket.incoming.length = room := Nat.min_eq_left hroom
  simp only [Transport.read, onSocket, SimSocket.read, if_neg h, hmin]
  exact ⟨_, rfl, rfl, rfl⟩

end SimBoard

/-! ## Moves -/

namespace Client

variable {slots : Nat}

/-- the socket of a client on a simulated board -/
abbrev socket (c : Client SimBoard slots) : SimSocket := c.board.socket

/-- the engine of a client on a simulated board -/
abbrev engine (c : Client SimBoard slots) : SimEngine := c.board.engine

theorem flags_eq (c : Client SimBoard slots) : c.flags = c.engine.state := rfl

theorem window_of_sendApp {c : Client SimBoard slots} (h : c.engine.state.sendApp = true) :
    c.window = c.engine.fitted :=
  congrArg Prod.fst (SimEngine.sendAppBuf_of_sendApp h)

theorem openWindow_of_sendApp {c : Client SimBoard slots} (h : c.engine.state.sendApp = true) :
    c.openWindow = { c with board.engine := c.engine.fit } := by
  simp only [openWindow, Engine.sendAppBuf, SimEngine.sendAppBuf_of_sendApp h]

theorem window_of_not_sendApp {c : Client SimBoard slots} (h : c.engine.state.sendApp = false) : c.window = [] :=
  congrArg Prod.fst (SimEngine.sendAppBuf_of_not_sendApp h)

theorem openWindow_of_not_sendApp {c : Client SimBoard slots} (h : c.engine.state.sendApp = false) :
    c.openWindow = c := by
  simp only [openWindow, Engine.sendAppBuf, SimEngine.sendAppBuf_of_not_sendApp h]

/-- an engine that hands out a window takes plaintext -/
theorem sendApp_of_window {c : Client SimBoard slots} (h : 0 < c.window.length) : c.engine.state.sendApp = true := by
  cases htake : c.engine.state.sendApp with
  | true => rfl
  | false => simp [window_of_not_sendApp htake] at h

theorem length_window {c : Client SimBoard slots} (h : c.engine.state.sendApp = true) :
    c.window.length = c.engine.capacity := by
  rw [window_of_sendApp h, SimEngine.length_fitted]

theorem handPending_eq {c : Client SimBoard slots} (h : c.pending ≤ c.engine.capacity) :
    c.handPending =
      { c with
        board.engine := c.engine.hand c.pending
        backlog := .empty
        stats := c.stats.handedOver } := by
  have hack : c.engine.sendAppAck c.backlog.pending = c.engine.hand c.backlog.pending := SimEngine.sendAppAck_of_le h
  simp only [handPending, Engine.sendAppAck, SimBoard.onEngine, hack]
  rfl

theorem storePlaintext_eq {c : Client SimBoard slots} (h : c.engine.state.sendApp = true) (data : Bytes) :
    c.openWindow.storePlaintext c.window.length data =
      { c with
        board.engine.plainWindow :=
          Bytes.overwrite c.engine.fitted c.pending (data.take (c.engine.capacity - c.pending))
        backlog := c.backlog.advance (data.take (c.engine.capacity - c.pending)).length } := by
  rw [length_window h, openWindow_of_sendApp h]
  rfl

theorem discarded_eq (c : Client SimBoard slots) :
    c.discarded (Engine.recvAppBuf c.board).length =
      { c with
        board.engine.unread := []
        backlog := .empty
        stats := c.stats.discarded c.engine.unread.length } := by
  have hall : c.board.engine.unread.length ≤ c.board.engine.unread.length := Nat.le_refl _
  simp only [discarded, Engine.recvAppBuf, Engine.recvAppAck, SimBoard.onEngine, SimEngine.recvAppAck_of_le hall,
    List.drop_length]

theorem takeUnread_eq (c : Client SimBoard slots) (room : Nat) :
    c.takeUnread room =
      (c.engine.unread.take room, { c with board.engine.unread := c.engine.unread.drop room }) := by
  have hlength : (c.board.engine.unread.take room).length ≤ c.board.engine.unread.length := List.length_take_le' ..
  have hdrop :
      c.board.engine.unread.drop (c.board.engine.unread.take room).length = c.board.engine.unread.drop room := by
    rw [List.length_take]
    rcases Nat.le_total room c.board.engine.unread.length with h | h
    · rw [Nat.min_eq_left h]
    · rw [Nat.min_eq_right h, List.drop_length, List.drop_eq_nil_of_le h]
  simp only [takeUnread, Engine.recvAppBuf, Engine.recvAppAck, SimBoard.onEngine,
    SimEngine.recvAppAck_of_le hlength, hdrop]
  -- to take nothing makes no call, and leaves the unread plaintext whole
  split_ifs with hnone
  · have hwhole : c.board.engine.unread.drop room = c.board.engine.unread := by
      rw [← hdrop, List.isEmpty_iff.1 hnone, List.length_nil, List.drop_zero]
    rw [hwhole]
  · rfl

theorem dropUnread_eq (c : Client SimBoard slots) (state : EngineState) :
    c.dropUnread state = { c with board.engine := c.engine.drained state } := by
  simp only [dropUnread, Engine.recvAppBuf, Engine.recvAppAck, SimBoard.onEngine, SimEngine.drained,
    SimEngine.recvAppAck_of_le (Nat.le_refl c.board.engine.unread.length), List.drop_length]
  by_cases hrecv : state.recvApp = true
  · by_cases hnone : c.board.engine.unread = []
    · rw [if_neg (by simp [hnone]), if_pos hrecv, ← hnone]
    · simp [hrecv, List.length_pos_iff.2 hnone]
  · simp [hrecv]

theorem teardown_eq (c : Client SimBoard slots) :
    c.teardown =
      { c with
        board.engine := c.engine.drained c.engine.state
        board.socket := c.socket.shut
        backlog := .empty
        lifecycle := c.lifecycle.closed } := by
  simp only [teardown, dropUnread_eq]
  rfl

theorem fail_eq (c : Client SimBoard slots) (s : Status) :
    c.fail s =
      { c with
        board.engine := c.engine.drained c.engine.state
        board.socket := c.socket.shut
        backlog := .empty
        lifecycle := (c.lifecycle.fail s).closed } :=
  teardown_eq _

/-- what a piece of work may have changed when it fails: windows were handed out and the socket was asked. Bytes get
lost only on a socket that claims more than it moves. -/
structure Harmed (c c' : Client SimBoard slots) : Prop where
  engine : ∃ plain cipher, c'.engine = { c.engine with plainWindow := plain, recvWindow := cipher } ∧
    (plain = c.engine.plainWindow ∨ plain = c.engine.fitted)
  socket : ∃ written incoming calls polls,
    c'.socket = { c.socket with written, incoming, writeCalls := calls, polls } ∧
      c.socket.written <+: written ∧ incoming <:+ c.socket.incoming ∧
      (c.socket.overreport = 0 → written = c.socket.written ∧ incoming = c.socket.incoming)
  time : c'.board.time = c.board.time
  rest : c' = { c with board := c'.board, abort := c'.abort }

/-- what a failure on a simulated board is to blame on, a deadline apart -/
inductive Cause (c : Client SimBoard slots) : Status → Prop
  /-- the socket is broken or closed, or moves nothing -/
  | network : Cause c .transportWrite
  /-- there is no memory to process a record -/
  | memory : Cause c .outOfMemory
  /-- the socket claims more than it moves -/
  | overclaim (h : c.socket.overreport ≠ 0) : Cause c .internal
  /-- plaintext is stored that the engine does not take -/
  | untaken (hpending : 0 < c.pending) (h : c.engine.state.sendApp = false) : Cause c .internal
  /-- more plaintext is stored than the window holds -/
  | shortWindow (h : c.engine.capacity < c.pending) : Cause c .internal
  /-- the engine takes plaintext and has no window for it -/
  | noWindow (htake : c.engine.state.sendApp = true) (h : c.engine.capacity = 0) : Cause c .engineWrite
  /-- the engine reports ciphertext and has none -/
  | nothingQueued (hsend : c.engine.state.sendRec = true) (h : c.engine.outgoing = []) : Cause c .engineWrite
  /-- the engine waits for ciphertext and wants none -/
  | nothingWanted (hrecv : c.engine.state.recvRec = true) (h : c.engine.recvWant = 0) : Cause c .engineWrite
  /-- the engine reports unread plaintext and has none -/
  | nothingUnread (hrecv : c.engine.state.recvApp = true) (h : c.engine.unread = []) : Cause c .engineWrite

theorem Cause.ne_ok {c : Client SimBoard slots} {s : Status} (h : Cause c s) : s ≠ .ok := by
  cases h <;> decide

/-- a step on a simulated board, with what it does to each part of the board -/
inductive Move (c : Client SimBoard slots) : Flow → Client SimBoard slots → Prop
  /-- the engine was told that `count` bytes were sent, and as many more as the socket pretends -/
  | sent {count} (hok : c.status = .ok) (hsend : c.engine.state.sendRec = true) (hup : c.socket.isConnected = true)
      (hcount : count = capAt c.socket.writeChunk c.engine.outgoing.length)
      (hpos : 0 < count + c.socket.overreport) (hle : count + c.socket.overreport ≤ c.engine.outgoing.length) :
      Move c {}
        { c with
          board.socket.writeCalls := c.socket.writeCalls + 1
          board.socket.written := c.socket.written ++ c.engine.outgoing.take count
          board.socket.flushes := c.socket.flushes + 1
          board.engine.outgoing := c.engine.outgoing.drop (count + c.socket.overreport)
          stats := c.stats.sent (count + c.socket.overreport) }
  /-- the pump handed over what was stored -/
  | handed (hok : c.status = .ok) (hsend : c.engine.state.sendRec = false) (hpending : 0 < c.pending)
      (htake : c.engine.state.sendApp = true) (hle : c.pending ≤ c.engine.capacity) :
      Move c {}
        { c with
          board.engine := c.engine.hand c.pending
          backlog := .empty
          stats := c.stats.handedOver }
  /-- a record came in; a socket that pretends to have read more never gets this far -/
  | received {count} (hok : c.status = .ok) (hopen : c.engine.state.closed = false) (hpending : c.pending = 0)
      (hrecv : c.engine.state.recvRec = true) (hpos : 0 < count) (hwant : count ≤ c.engine.recvWant)
      (hle : count ≤ c.socket.incoming.length) (hover : c.socket.overreport = 0) :
      Move c {}
        { c with
          board.socket.polls := c.socket.polls + 1
          board.socket.incoming := c.socket.incoming.drop count
          board.engine := c.engine.receive (c.socket.incoming.take count)
          board.probe := (c.board.probe.check c.config.minHeadroom).2
          stats := c.stats.received count }
  /-- nothing was there to receive -/
  | waited (hok : c.status = .ok) (hnone : capAt c.socket.availableChunk c.socket.incoming.length = 0)
      (hup : c.socket.isConnected = true) :
      Move c {}
        { c with
          board.socket.polls := c.socket.polls + 1
          board.time := c.board.time.delayMs c.config.pollDelayMs }
  | failed {s c'} (hs : s ≠ .ok) (h : Harmed c c') : Move c {} (c'.fail s)
  | clock : Move c {} { c with board.time := c.board.time.read.2 }
  /-- unread plaintext was dropped for the sake of a write -/
  | discard (hok : c.status = .ok) (hopen : c.engine.state.closed = false) (hsend : c.engine.state.sendRec = false)
      (hpending : c.pending = 0) (hrecv : c.engine.state.recvApp = true) (htake : c.engine.state.sendApp = false)
      (hunread : c.engine.unread ≠ []) :
      Move c {}
        { c with
          board.engine.unread := []
          backlog := .empty
          stats := c.stats.discarded c.engine.unread.length }
  | nudge (hok : c.status = .ok) :
      Move c {} { c with board.engine.flushes := c.engine.flushes + 1, stats := c.stats.flushed }
  | idle (hok : c.status = .ok) : Move c {} { c with board.engine.flushes := c.engine.flushes + 1 }
  /-- plaintext was stored, and the window still has room -/
  | store {data} (hok : c.status = .ok) (hup : c.lifecycle.engineConnected = true)
      (htake : c.engine.state.sendApp = true) (hroom : c.pending + data.length < c.engine.capacity) :
      Move c { stored := data }
        { c with
          board.engine.plainWindow := Bytes.overwrite c.engine.fitted c.pending data
          backlog := c.backlog.advance data.length }
  /-- plaintext was stored up to the end of the window, and the window handed over -/
  | fill {part} (hok : c.status = .ok) (hup : c.lifecycle.engineConnected = true)
      (htake : c.engine.state.sendApp = true) (hroom : c.pending < c.engine.capacity)
      (hfull : c.pending + part.length = c.engine.capacity) :
      Move c { stored := part }
        { c with
          board.engine :=
            { c.engine with plainWindow := Bytes.overwrite c.engine.fitted c.pending part }.hand (c.pending + part.length)
          backlog := .empty
          stats := c.stats.handedOver }
  /-- the window was full, and was handed over -/
  | full (hok : c.status = .ok) (hup : c.lifecycle.engineConnected = true) (htake : c.engine.state.sendApp = true)
      (hpos : 0 < c.pending) (hfull : c.pending = c.engine.capacity) :
      Move c {}
        { c with
          board.engine := c.engine.hand c.pending
          backlog := .empty
          stats := c.stats.handedOver }
  /-- nothing was stored, and the engine had no window -/
  | noWindow {e} (hpending : c.pending = 0) (he : e = c.engine ∨ e = c.engine.fit) :
      Move c {} { c with board.engine := e }
  /-- unread plaintext went to the caller -/
  | take (room : Nat) :
      Move c { taken := c.engine.unread.take room } { c with board.engine.unread := c.engine.unread.drop room }
  | poll : Move c {} c
  | closing (hup : c.lifecycle.engineConnected = true) :
      Move c { closes := true } { c with lifecycle := c.lifecycle.closing }
  /-- unread plaintext was dropped in a shutdown -/
  | drop (state : EngineState) (hstage : c.lifecycle.stage = .closing) :
      Move c {} { c with board.engine := c.engine.drained state }
  | down : Move c {} c.teardown

/-! ## Every step is a move -/

theorem Harmed.refl (c : Client SimBoard slots) : Harmed c c :=
  ⟨⟨_, _, rfl, .inl rfl⟩, ⟨_, _, _, _, rfl, List.prefix_rfl, List.suffix_rfl, fun _ => ⟨rfl, rfl⟩⟩, rfl, rfl⟩

/-- the plaintext window was handed out in vain -/
theorem Harmed.openWindow (c : Client SimBoard slots) : Harmed c c.openWindow := by
  cases htake : c.engine.state.sendApp with
  | true =>
    rw [openWindow_of_sendApp htake]
    exact ⟨⟨_, _, rfl, .inr rfl⟩, ⟨_, _, _, _, rfl, List.prefix_rfl, List.suffix_rfl, fun _ => ⟨rfl, rfl⟩⟩, rfl, rfl⟩
  | false =>
    rw [openWindow_of_not_sendApp htake]
    exact .refl c

/-- queued ciphertext was sent, as far as the socket took it, or something is to blame -/
theorem sendRecord_cases {c c' : Client SimBoard slots} {r : Except Status Unit}
    (hsend : c.engine.state.sendRec = true) (h : c.sendRecord = (r, c')) :
    (∃ s, r = .error s ∧ Cause c s ∧ Harmed c c') ∨
      ∃ count, r = .ok () ∧ c.socket.isConnected = true ∧
        count = capAt c.socket.writeChunk c.engine.outgoing.length ∧ 0 < count + c.socket.overreport ∧
        count + c.socket.overreport ≤ c.engine.outgoing.length ∧
        c' =
          { c with
            board.socket.writeCalls := c.socket.writeCalls + 1
            board.socket.written := c.socket.written ++ c.engine.outgoing.take count
            board.socket.flushes := c.socket.flushes + 1
            board.engine.outgoing := c.engine.outgoing.drop (count + c.socket.overreport)
            stats := c.stats.sent (count + c.socket.overreport) } := by
  simp only [sendRecord, show Engine.sendRecBuf c.board = c.engine.outgoing from rfl] at h
  split_ifs at h with hempty
  · cases h
    exact .inl ⟨_, rfl, .nothingQueued hsend (List.length_eq_zero_iff.1 hempty), .refl c⟩
  by_cases hbroken : (c.board.socket.failWrites || !c.board.socket.isConnected) = true
  · rw [SimBoard.write_of_broken _ hbroken] at h
    cases h
    exact .inl ⟨_, rfl, .network,
      ⟨⟨_, _, rfl, .inl rfl⟩, ⟨_, _, _, _, rfl, List.prefix_rfl, List.suffix_rfl, fun _ => ⟨rfl, rfl⟩⟩, rfl, rfl⟩⟩
  have hup : c.socket.isConnected = true := by simp_all
  rw [SimBoard.write_of_open _ hbroken] at h
  generalize hcount : capAt c.board.socket.writeChunk c.engine.outgoing.length = count at h
  have hlength : count ≤ c.engine.outgoing.length := hcount ▸ capAt_le _ _
  simp only at h
  split_ifs at h with hzero hover
  · cases h
    obtain ⟨rfl, hreport⟩ := Nat.add_eq_zero_iff.1 hzero
    refine .inl ⟨_, rfl, .network,
      ⟨⟨_, _, rfl, .inl rfl⟩, ⟨_, _, _, _, rfl, List.prefix_append _ _, List.suffix_rfl, fun _ => ⟨?_, rfl⟩⟩, rfl, rfl⟩⟩
    simp
  · cases h
    have hlied : c.socket.overreport ≠ 0 := by
      intro hnone
      rw [show c.board.socket.overreport = 0 from hnone] at hover
      exact Nat.not_lt.2 hlength hover
    exact .inl ⟨_, rfl, .overclaim hlied,
      ⟨⟨_, _, rfl, .inl rfl⟩,
        ⟨_, _, _, _, rfl, List.prefix_append _ _, List.suffix_rfl, fun hnone => absurd hnone hlied⟩, rfl, rfl⟩⟩
  · have hle : count + c.socket.overreport ≤ c.engine.outgoing.length := Nat.not_lt.1 hover
    simp only [Transport.flush, SimBoard.onSocket, SimSocket.flush, Engine.sendRecAck, SimBoard.onEngine,
      SimEngine.sendRecAck_of_le hle] at h
    cases h
    exact .inr ⟨count, rfl, hup, rfl, Nat.pos_of_ne_zero hzero, hle, rfl⟩

/-- stored plaintext was handed over, or something is to blame -/
theorem handOver_cases {c c' : Client SimBoard slots} {r : Except Status Unit} (hpending : 0 < c.pending)
    (h : c.handOver c.engine.state = (r, c')) :
    (∃ s, r = .error s ∧ Cause c s ∧ Harmed c c') ∨
      r = .ok () ∧ c.engine.state.sendApp = true ∧ c.pending ≤ c.engine.capacity ∧
        c' =
          { c with
            board.engine := c.engine.hand c.pending
            backlog := .empty
            stats := c.stats.handedOver } := by
  simp only [handOver] at h
  by_cases htake : c.engine.state.sendApp = true
  · rw [if_neg (by simp [htake])] at h
    have hharm := Harmed.openWindow c
    rw [openWindow_of_sendApp htake] at hharm
    simp only [Engine.sendAppBuf, SimEngine.sendAppBuf_of_sendApp htake, SimEngine.length_fitted] at h
    split_ifs at h with hnone hshort
    · cases h
      exact .inl ⟨_, rfl, .noWindow htake hnone, hharm⟩
    · cases h
      exact .inl ⟨_, rfl, .shortWindow hshort, hharm⟩
    · have hle : c.backlog.pending ≤ c.engine.fit.capacity := Nat.not_lt.1 hshort
      simp only [handPending, Engine.sendAppAck, SimBoard.onEngine, SimEngine.sendAppAck_of_le hle,
        SimEngine.hand_fit] at h
      cases h
      exact .inr ⟨rfl, htake, hle, rfl⟩
  · rw [if_pos (by simp [htake])] at h
    cases h
    exact .inl ⟨_, rfl, .untaken hpending (by simpa using htake), .refl c⟩

theorem awaitPeer_eq (c : Client SimBoard slots) :
    c.awaitPeer =
      if c.socket.isConnected then
        (.ok .nothing, { c with board.time := c.board.time.delayMs c.config.pollDelayMs })
      else (.error .transportWrite, c) := rfl

/-- a record came in through the window for ciphertext, or something is to blame -/
theorem fillWindow_cases {c c' : Client SimBoard slots} {r : Except Status Received} {available : Nat}
    (hrecv : c.engine.state.recvRec = true) (hsome : available ≠ 0)
    (havailable : available ≤ c.socket.incoming.length) (h : c.fillWindow available = (r, c')) :
    (∃ s, r = .error s ∧ Cause c s ∧ Harmed c c') ∨
      ∃ count, r = .ok .record ∧ 0 < count ∧ count ≤ c.engine.recvWant ∧ count ≤ available ∧ c.socket.overreport = 0 ∧
        c' =
          { c with
            board.socket.incoming := c.socket.incoming.drop count
            board.engine := c.engine.receive (c.socket.incoming.take count)
            stats := c.stats.received count } := by
  simp only [fillWindow] at h
  -- the type of a reading depends on its room, so the room gets a name before anything is rewritten
  generalize hwant : min (Engine.recvRecBuf c.board).1.length available = want at h
  have hlength : (Engine.recvRecBuf c.board).1.length = c.engine.recvWant := Bytes.length_zeros _
  have hfit : want ≤ c.engine.recvWant := by omega
  have hthere : want ≤ available := by omega
  split_ifs at h with hzero
  · cases h
    exact .inl ⟨_, rfl, .nothingWanted hrecv (by omega),
      ⟨⟨_, _, rfl, .inl rfl⟩, ⟨_, _, _, _, rfl, List.prefix_rfl, List.suffix_rfl, fun _ => ⟨rfl, rfl⟩⟩, rfl, rfl⟩⟩
  by_cases hbroken : c.board.socket.failReads = true
  · rw [SimBoard.read_of_broken (b := (Engine.recvRecBuf c.board).2) want hbroken] at h
    cases h
    exact .inl ⟨_, rfl, .network,
      ⟨⟨_, _, rfl, .inl rfl⟩, ⟨_, _, _, _, rfl, List.prefix_rfl, List.suffix_rfl, fun _ => ⟨rfl, rfl⟩⟩, rfl, rfl⟩⟩
  obtain ⟨reading, hread, hmoved, hclaimed⟩ :=
    SimBoard.read_of_open (b := (Engine.recvRecBuf c.board).2) (Nat.le_trans hthere havailable) hbroken
  rw [hread] at h
  simp only [hmoved, hclaimed] at h
  split_ifs at h with hnone hover
  · omega
  · cases h
    have hlied : c.socket.overreport ≠ 0 := by
      intro hhonest
      rw [show (Engine.recvRecBuf c.board).2.socket.overreport = 0 from hhonest] at hover
      omega
    exact .inl ⟨_, rfl, .overclaim hlied,
      ⟨⟨_, _, rfl, .inl rfl⟩,
        ⟨_, _, _, _, rfl, List.prefix_rfl, List.drop_suffix _ _, fun hhonest => absurd hhonest hlied⟩, rfl, rfl⟩⟩
  · have hover : c.socket.overreport = 0 := by
      have hclaim : ¬want < want + c.socket.overreport := hover
      omega
    have hrecord : (c.socket.incoming.take want).length = want := by
      rw [List.length_take]; omega
    have hack := SimEngine.recvRecAck_fill (e := c.engine) (show (c.socket.incoming.take want).length ≤ _ by omega)
    rw [hrecord] at hack
    have hclaim : want + (Engine.recvRecBuf c.board).2.socket.overreport = want := by
      rw [show (Engine.recvRecBuf c.board).2.socket.overreport = 0 from hover]; rfl
    rw [hclaim] at h
    simp only [Engine.recvRecBuf, Engine.fillRecvRec, Engine.recvRecAck, SimBoard.onEngine, hack] at h
    cases h
    exact .inr ⟨want, rfl, Nat.pos_of_ne_zero hzero, hfit, hthere, hover, rfl⟩

/-- to poll the socket and to ask for memory is to blame for nothing -/
theorem Cause.of_asked {c : Client SimBoard slots} {s : Status} {polls : Nat} {probe : SimProbe}
    (h : Cause { c with board.socket.polls := polls, board.probe := probe } s) : Cause c s := by
  cases h with
  | network => exact .network
  | memory => exact .memory
  | overclaim h => exact .overclaim h
  | untaken hpending h => exact .untaken hpending h
  | shortWindow h => exact .shortWindow h
  | noWindow htake h => exact .noWindow htake h
  | nothingQueued hsend h => exact .nothingQueued hsend h
  | nothingWanted hrecv h => exact .nothingWanted hrecv h
  | nothingUnread hrecv h => exact .nothingUnread hrecv h

theorem Harmed.of_asked {c c' : Client SimBoard slots} {polls : Nat} {probe : SimProbe}
    (h : Harmed { c with board.socket.polls := polls, board.probe := probe } c') : Harmed c c' :=
  ⟨h.engine, h.socket, h.time, h.rest⟩

/-- a record came in, or nothing was there and the client paused, or something is to blame -/
theorem receiveRecord_cases {c c' : Client SimBoard slots} {r : Except Status Received}
    (hrecv : c.engine.state.recvRec = true) (h : c.receiveRecord = (r, c')) :
    (∃ s, r = .error s ∧ Cause c s ∧ Harmed c c') ∨
      (r = .ok .nothing ∧ capAt c.socket.availableChunk c.socket.incoming.length = 0 ∧ c.socket.isConnected = true ∧
        c' =
          { c with
            board.socket.polls := c.socket.polls + 1
            board.time := c.board.time.delayMs c.config.pollDelayMs }) ∨
      ∃ count, r = .ok .record ∧ 0 < count ∧ count ≤ c.engine.recvWant ∧ count ≤ c.socket.incoming.length ∧
        c.socket.overreport = 0 ∧
        c' =
          { c with
            board.socket.polls := c.socket.polls + 1
            board.socket.incoming := c.socket.incoming.drop count
            board.engine := c.engine.receive (c.socket.incoming.take count)
            board.probe := (c.board.probe.check c.config.minHeadroom).2
            stats := c.stats.received count } := by
  simp only [receiveRecord, Transport.available, SimBoard.onSocket, SimSocket.available] at h
  split_ifs at h with hnone
  · rw [awaitPeer_eq] at h
    split_ifs at h with hup
    · cases h
      exact .inr (.inl ⟨rfl, hnone, hup, rfl⟩)
    · cases h
      exact .inl ⟨_, rfl, .network,
        ⟨⟨_, _, rfl, .inl rfl⟩, ⟨_, _, _, _, rfl, List.prefix_rfl, List.suffix_rfl, fun _ => ⟨rfl, rfl⟩⟩, rfl, rfl⟩⟩
  have havailable := capAt_le c.socket.availableChunk c.socket.incoming.length
  generalize capAt c.board.socket.availableChunk c.board.socket.incoming.length = available at h hnone havailable
  simp only [Probe.headroom] at h
  split at h
  · cases h
    exact .inl ⟨_, rfl, .memory,
      ⟨⟨_, _, rfl, .inl rfl⟩, ⟨_, _, _, _, rfl, List.prefix_rfl, List.suffix_rfl, fun _ => ⟨rfl, rfl⟩⟩, rfl, rfl⟩⟩
  · cases h
    exact .inl ⟨_, rfl, .memory,
      ⟨⟨_, _, rfl, .inl rfl⟩, ⟨_, _, _, _, rfl, List.prefix_rfl, List.suffix_rfl, fun _ => ⟨rfl, rfl⟩⟩, rfl, rfl⟩⟩
  · let asked : Client SimBoard slots :=
      { c with
        board.socket.polls := c.socket.polls + 1
        board.probe := (c.board.probe.check c.config.minHeadroom).2 }
    rcases fillWindow_cases (c := asked) hrecv hnone havailable h with
      ⟨s, rfl, hcause, hharm⟩ | ⟨count, rfl, hpos, hwant, hle, hover, rfl⟩
    · exact .inl ⟨s, rfl, hcause.of_asked, hharm.of_asked⟩
    · exact .inr (.inr ⟨count, rfl, hpos, hwant, Nat.le_trans hle havailable, hover, rfl⟩)

/-- whatever fails has a cause, or has taken too long, and has done no more than harm -/
theorem Fault.outcome {c c' : Client SimBoard slots} {s : Status} (h : Fault c s c') :
    (Cause c s ∨ s = .engineWrite) ∧ Harmed c c' := by
  cases h with
  | send _ _ hsend h =>
    rcases sendRecord_cases hsend h with ⟨_, hr, hcause, hharm⟩ | ⟨_, hr, -⟩
    · cases hr
      exact ⟨.inl hcause, hharm⟩
    · cases hr
  | handOver _ _ _ hpending h =>
    rcases handOver_cases hpending h with ⟨_, hr, hcause, hharm⟩ | ⟨hr, -⟩
    · cases hr
      exact ⟨.inl hcause, hharm⟩
    · cases hr
  | receive _ _ _ _ hrecv h =>
    rcases receiveRecord_cases hrecv h with ⟨_, hr, hcause, hharm⟩ | ⟨hr, -⟩ | ⟨_, hr, -⟩
    · cases hr
      exact ⟨.inl hcause, hharm⟩
    · cases hr
    · cases hr
  | deadline => exact ⟨.inr rfl, .refl c⟩
  | unreadMissing _ _ _ _ hrecv h => exact ⟨.inl (.nothingUnread hrecv h), .refl c⟩
  | shortWindow _ _ h =>
    refine ⟨.inl ?_, .openWindow c⟩
    cases htake : c.engine.state.sendApp with
    | true => exact .shortWindow (length_window htake ▸ h)
    | false => exact .untaken (Nat.zero_lt_of_lt h) htake
  | noWindow _ _ htake _ h => exact ⟨.inl (.noWindow htake ((length_window htake).symm.trans h)), .openWindow c⟩
  | peerGone => exact ⟨.inl .network, .refl c⟩

theorem Fault.status_ne_ok {c c' : Client SimBoard slots} {s : Status} (h : Fault c s c') : s ≠ .ok := by
  rcases h.outcome.1 with hcause | rfl
  · exact hcause.ne_ok
  · decide

/-- **A step on a simulated board is a move.** -/
theorem Step.move {c c' : Client SimBoard slots} {f : Flow} (h : Step c f c') : Move c f c' := by
  cases h with
  | sent hok _ hsend h =>
    rcases sendRecord_cases hsend h with ⟨_, hr, -⟩ | ⟨count, -, hup, hcount, hpos, hle, rfl⟩
    · cases hr
    · exact .sent hok hsend hup hcount hpos hle
  | handed hok _ hsend hpending h =>
    rcases handOver_cases hpending h with ⟨_, hr, -⟩ | ⟨-, htake, hle, rfl⟩
    · cases hr
    · exact .handed hok hsend hpending htake hle
  | received hok hopen _ hpending hrecv h =>
    rcases receiveRecord_cases hrecv h with ⟨_, hr, -⟩ | ⟨-, hnone, hup, rfl⟩ | ⟨count, -, hpos, hwant, hle, hover, rfl⟩
    · cases hr
    · exact .waited hok hnone hup
    · exact .received hok hopen hpending hrecv hpos hwant hle hover
  | failed h => exact .failed h.status_ne_ok h.outcome.2
  | clock => exact .clock
  | discard hok hopen hsend hpending hrecv htake hunread =>
    rw [discarded_eq]
    exact .discard hok hopen hsend hpending hrecv htake hunread
  | nudge hok => exact .nudge hok
  | idle hok => exact .idle hok
  | @store data hok hup hroom =>
    have htake : c.engine.state.sendApp = true := sendApp_of_window (by omega)
    rw [storePlaintext_eq htake]
    rw [length_window htake] at hroom
    rw [List.take_of_length_le (by omega)]
    exact .store hok hup htake hroom
  | @fill data hok hup hroom hfull =>
    have htake : c.engine.state.sendApp = true := sendApp_of_window (by omega)
    rw [storePlaintext_eq htake, length_window htake]
    rw [length_window htake] at hroom hfull
    have hlength : (data.take (c.engine.capacity - c.pending)).length = c.engine.capacity - c.pending :=
      List.length_take_of_le (by omega)
    generalize data.take (c.engine.capacity - c.pending) = part at hlength
    have hcapacity : c.pending + part.length = c.engine.capacity := by omega
    rw [handPending_eq]
    · exact Move.fill hok hup htake hroom hcapacity
    · exact Nat.le_of_eq hcapacity
  | full hok hup h =>
    cases htake : c.engine.state.sendApp with
    | true =>
      rw [length_window htake] at h
      rw [openWindow_of_sendApp htake, handStored]
      split_ifs with hpos
      · have hmove := Move.full hok hup htake hpos h.symm
        rw [← SimEngine.hand_fit] at hmove
        rw [handPending_eq]
        · exact hmove
        · exact Nat.le_of_eq h.symm
      · exact .noWindow (Nat.eq_zero_of_not_pos hpos) (.inr rfl)
    | false =>
      rw [window_of_not_sendApp htake] at h
      have hnone : c.backlog.pending = 0 := h.symm
      rw [openWindow_of_not_sendApp htake, handStored, if_neg (Nat.not_lt.2 (Nat.le_of_eq hnone))]
      exact .noWindow hnone (.inl rfl)
  | take room =>
    rw [takeUnread_eq]
    exact .take room
  | poll => exact .poll
  | closing hup => exact .closing hup
  | drop state hstage => exact dropUnread_eq c state ▸ .drop state hstage
  | down => exact .down

/-! ## What no step touches -/

/-- the settings of an engine, what it resumes, and the record of its faults -/
structure Setup (e e' : SimEngine) : Prop where
  eq : ∃ phase outgoing recvWindow plainWindow unread session handovers plaintext flushes handshakes,
    e' =
      { e with
        phase
        outgoing
        recvWindow
        plainWindow
        unread
        session
        handovers
        plaintext
        flushes
        handshakes }

theorem Setup.refl (e : SimEngine) : Setup e e := ⟨_, _, _, _, _, _, _, _, _, _, rfl⟩

theorem Setup.trans {e e' e'' : SimEngine} (h : Setup e e') (h' : Setup e' e'') : Setup e e'' := by
  obtain ⟨_, _, _, _, _, _, _, _, _, _, rfl⟩ := h.eq
  obtain ⟨_, _, _, _, _, _, _, _, _, _, rfl⟩ := h'.eq
  exact ⟨_, _, _, _, _, _, _, _, _, _, rfl⟩

theorem Setup.violations {e e' : SimEngine} (h : Setup e e') : e'.violations = e.violations := by
  obtain ⟨_, _, _, _, _, _, _, _, _, _, rfl⟩ := h.eq
  rfl

theorem Setup.forced {e e' : SimEngine} (h : Setup e e') : e'.forced = e.forced := by
  obtain ⟨_, _, _, _, _, _, _, _, _, _, rfl⟩ := h.eq
  rfl

theorem Setup.sharedBuffer {e e' : SimEngine} (h : Setup e e') : e'.sharedBuffer = e.sharedBuffer := by
  obtain ⟨_, _, _, _, _, _, _, _, _, _, rfl⟩ := h.eq
  rfl

theorem Setup.flight {e e' : SimEngine} (h : Setup e e') : e'.flight = e.flight := by
  obtain ⟨_, _, _, _, _, _, _, _, _, _, rfl⟩ := h.eq
  rfl

theorem Setup.drained (e : SimEngine) (flags : EngineState) : Setup e (e.drained flags) := by
  obtain ⟨unread, hdrained⟩ := e.drained_frame flags
  rw [hdrained]
  exact ⟨_, _, _, _, _, _, _, _, _, _, rfl⟩

/-- no step changes the settings of the engine -/
theorem Move.setup {c c' : Client SimBoard slots} {f : Flow} (h : Move c f c') : Setup c.engine c'.engine := by
  cases h with
  | received =>
    obtain ⟨phase, unread, session, handshakes, hreceive⟩ := c.engine.receive_frame _
    exact ⟨_, _, _, _, _, _, _, _, _, _, hreceive⟩
  | @failed s c₁ hs hharm =>
    obtain ⟨plainWindow, recvWindow, hengine, -⟩ := hharm.engine
    rw [fail_eq]
    exact Setup.trans ⟨_, _, _, _, _, _, _, _, _, _, hengine⟩ (.drained c₁.engine _)
  | noWindow _ he =>
    rcases he with rfl | rfl
    · exact .refl c.engine
    · exact ⟨_, _, _, _, _, _, _, _, _, _, rfl⟩
  | drop state => exact .drained c.engine state
  | down => rw [teardown_eq]; exact .drained c.engine _
  | _ => exact ⟨_, _, _, _, _, _, _, _, _, _, rfl⟩

theorem Steps.setup {c c' : Client SimBoard slots} {f : Flow} (h : Steps c f c') : Setup c.engine c'.engine :=
  h.invariant (I := fun _ c' => Setup c.engine c'.engine) (fun hsetup hstep => hsetup.trans hstep.move.setup)
    (.refl c.engine)

/-- once no handshake is going on, no step changes the phase of the engine -/
theorem Move.phase {c c' : Client SimBoard slots} {f : Flow} (h : Move c f c')
    (hsettled : ∀ remaining, c.engine.phase ≠ .awaiting remaining) : c'.engine.phase = c.engine.phase := by
  cases h with
  | received => exact SimEngine.phase_receive hsettled _
  | @failed s c₁ hs hharm =>
    obtain ⟨_, _, hengine, -⟩ := hharm.engine
    rw [fail_eq]
    exact (SimEngine.phase_drained c₁.engine _).trans (congrArg SimEngine.phase hengine :)
  | noWindow _ he => rcases he with rfl | rfl <;> rfl
  | drop state => exact SimEngine.phase_drained c.engine state
  | down =>
    rw [teardown_eq]
    exact SimEngine.phase_drained c.engine _
  | _ => rfl

theorem Steps.phase {c c' : Client SimBoard slots} {f : Flow} (h : Steps c f c')
    (hsettled : ∀ remaining, c.engine.phase ≠ .awaiting remaining) : c'.engine.phase = c.engine.phase := by
  refine h.invariant (I := fun _ c' => c'.engine.phase = c.engine.phase) ?_ rfl
  intro f g c₁ c₂ hphase hstep
  exact (hstep.move.phase (hphase ▸ hsettled)).trans hphase

end Client

end TlsClient

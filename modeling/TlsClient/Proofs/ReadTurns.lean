/-
What a turn of the pump does while there is nothing to send.

In the application phase, with nothing queued and nothing stored, the next turn only depends on what is unread and on
what the peer has sent.
- `Listening`: such a client, and its flags;
- `pumpTurn_unread`, `pumpTurn_silent`, `pumpTurn_dropped`, `pumpTurn_bytes`: the four turns there are;
- `countUnread_unread`, `countUnread_empty`, `countUnread_failed`: what is counted after a run of them;
- `pump_of_done`: a run of the pump whose first turn is its last.
-/
import TlsClient.Proofs.WaitOutcomes

namespace TlsClient.Client

variable {slots : Nat} {c : Client SimBoard slots}

/-- the application phase, with nothing to send: nothing is queued and nothing stored -/
structure Listening (c : Client SimBoard slots) : Prop where
  natural : c.engine.forced = none
  app : c.engine.phase = .app
  queue : c.engine.outgoing = []
  pending : c.pending = 0

/-- in the application phase, an engine that reports nothing to send has nothing queued -/
theorem Listening.of_rest (hforced : c.engine.forced = none) (happ : c.engine.phase = .app)
    (hsend : c.engine.state.sendRec = false) (hpending : c.pending = 0) : Listening c := by
  refine ⟨hforced, happ, ?_, hpending⟩
  rw [SimEngine.state_of_natural hforced, SimEngine.naturalState, happ] at hsend
  by_contra hqueue
  simp [hqueue] at hsend

theorem Listening.flags (h : Listening c) : c.engine.state = c.engine.appState := by
  rw [SimEngine.state_of_natural h.natural, SimEngine.naturalState, h.app]
  simp only [h.queue, List.isEmpty_nil, if_true]

theorem Listening.recvRec_iff (h : Listening c) : c.engine.state.recvRec = true ↔ c.engine.unread = [] := by
  rw [h.flags]
  simp [SimEngine.appState]

theorem Listening.pumpTurn_unread (h : Listening c) (hunread : c.engine.unread ≠ []) :
    c.pumpTurn = .done (c.engine.state, c) := by
  have hpending : ¬0 < c.backlog.pending := Nat.not_lt.2 (Nat.le_of_eq h.pending)
  have hstate : Engine.state c.board = c.engine.appState := h.flags
  have hempty : c.engine.unread.isEmpty = false := by simpa using hunread
  rw [h.flags]
  simp [pumpTurn, hstate, SimEngine.appState, hempty, hpending]

theorem receiveRecord_of_none (hnone : capAt c.socket.availableChunk c.socket.incoming.length = 0) :
    c.receiveRecord =
      if c.socket.isConnected then (.ok .nothing, c.paused)
      else (.error .transportWrite, { c with board.socket.polls := c.socket.polls + 1 }) := by
  simp only [receiveRecord, Transport.available, SimBoard.onSocket, SimSocket.available, hnone, if_true]
  rw [awaitPeer_eq]
  rfl

/-- what an honest socket has goes into a window that wants it -/
theorem fillWindow_of_bytes {available : Nat} (hwant : 0 < c.engine.recvWant) (hsome : 0 < available)
    (havailable : available ≤ c.socket.incoming.length) (hreads : c.socket.failReads = false)
    (hover : c.socket.overreport = 0) : (c.fillWindow available).1 = .ok .record := by
  simp only [fillWindow]
  -- the type of a reading depends on its room, so the room gets a name before anything is rewritten
  generalize hroom : min (Engine.recvRecBuf c.board).1.length available = room
  have hlength : (Engine.recvRecBuf c.board).1.length = c.engine.recvWant := Bytes.length_zeros _
  have hbroken : ¬(Engine.recvRecBuf c.board).2.socket.failReads = true := by
    rw [show (Engine.recvRecBuf c.board).2.socket.failReads = false from hreads]
    decide
  obtain ⟨reading, hread, hmoved, hclaimed⟩ :=
    SimBoard.read_of_open (b := (Engine.recvRecBuf c.board).2) (show room ≤ c.socket.incoming.length by omega) hbroken
  rw [show (Engine.recvRecBuf c.board).2.socket.overreport = 0 from hover] at hclaimed
  rw [if_neg (by omega), hread]
  simp only [hclaimed]
  rw [if_neg (by omega), if_neg (by omega)]

/-- what the peer has sent comes in, if there is memory to process it -/
theorem receiveRecord_of_bytes (hwant : 0 < c.engine.recvWant)
    (hsome : capAt c.socket.availableChunk c.socket.incoming.length ≠ 0)
    (hfree : (c.board.probe.check c.config.minHeadroom).1 = .sufficient) (hreads : c.socket.failReads = false)
    (hover : c.socket.overreport = 0) : c.receiveRecord.1 = .ok .record := by
  have hle := capAt_le c.socket.availableChunk c.socket.incoming.length
  simp only [receiveRecord, Transport.available, SimBoard.onSocket, SimSocket.available, if_neg hsome, Probe.headroom,
    hfree]
  exact fillWindow_of_bytes hwant (Nat.pos_of_ne_zero hsome) hle hreads hover

theorem Listening.pumpTurn_empty (h : Listening c) (hunread : c.engine.unread = []) :
    c.pumpTurn =
      match c.receiveRecord.1 with
      | .ok .record => .again c.receiveRecord.2
      | .ok .nothing => .done (c.engine.state, c.receiveRecord.2)
      | .error s => .done (.invalid, c.receiveRecord.2.fail s) := by
  have hpending : ¬0 < c.backlog.pending := Nat.not_lt.2 (Nat.le_of_eq h.pending)
  have hstate : Engine.state c.board = c.engine.appState := h.flags
  have hempty : c.engine.unread.isEmpty = true := by simpa using hunread
  rw [h.flags]
  simp only [pumpTurn, hstate, SimEngine.appState, hempty, hpending]
  rfl

/-- the peer is there and has sent nothing: a pause follows the poll -/
theorem Listening.pumpTurn_silent (h : Listening c) (hunread : c.engine.unread = [])
    (hnone : capAt c.socket.availableChunk c.socket.incoming.length = 0) (hup : c.socket.isConnected = true) :
    c.pumpTurn = .done (c.engine.state, c.paused) := by
  rw [h.pumpTurn_empty hunread, receiveRecord_of_none hnone, if_pos hup]

/-- the peer has sent nothing, and is gone -/
theorem Listening.pumpTurn_dropped (h : Listening c) (hunread : c.engine.unread = [])
    (hnone : capAt c.socket.availableChunk c.socket.incoming.length = 0) (hdown : c.socket.isConnected = false) :
    c.pumpTurn = .done (.invalid, { c with board.socket.polls := c.socket.polls + 1 }.fail .transportWrite) := by
  rw [h.pumpTurn_empty hunread, receiveRecord_of_none hnone, if_neg (by rw [hdown]; decide)]

/-- what the peer has sent is unread now, or the beginning of it -/
theorem Listening.pumpTurn_bytes (h : Listening c) (hunread : c.engine.unread = []) (hroom : 0 < c.engine.capacity)
    (hsome : capAt c.socket.availableChunk c.socket.incoming.length ≠ 0)
    (hfree : (c.board.probe.check c.config.minHeadroom).1 = .sufficient) (hreads : c.socket.failReads = false)
    (hover : c.socket.overreport = 0) :
    ∃ count, 0 < count ∧ count ≤ c.socket.incoming.length ∧
      c.pumpTurn = .again
        { c with
          board.socket.polls := c.socket.polls + 1
          board.socket.incoming := c.socket.incoming.drop count
          board.engine := { c.engine with unread := c.socket.incoming.take count, recvWindow := [] }
          board.probe := (c.board.probe.check c.config.minHeadroom).2
          stats := c.stats.received count } := by
  have hwant : c.engine.recvWant = c.engine.capacity := by simp [SimEngine.recvWant, h.app, hunread]
  have hrecv : c.engine.state.recvRec = true := h.recvRec_iff.2 hunread
  have hok := receiveRecord_of_bytes (hwant ▸ hroom) hsome hfree hreads hover
  rcases hr : c.receiveRecord with ⟨r, c'⟩
  rw [hr] at hok
  rcases receiveRecord_cases hrecv hr with ⟨_, rfl, -⟩ | ⟨rfl, -⟩ | ⟨count, rfl, hpos, -, hle, -, rfl⟩
  · cases hok
  · cases hok
  · refine ⟨count, hpos, hle, ?_⟩
    rw [h.pumpTurn_empty hunread, hr]
    simp only [SimEngine.receive, h.app, hunread, List.nil_append]

/-! ## Counting -/

theorem Listening.admitted (h : Listening c) (hok : c.status = .ok) (hup : c.lifecycle.engineConnected = true) :
    c.lifecycle.softConnected c.flags = .ok () := by
  have hopen : c.flags.closed = false := by simp [flags_eq, h.flags, SimEngine.appState]
  have hisOk : c.lifecycle.status.isOk = true := (Status.isOk_iff _).2 hok
  simp [Lifecycle.softConnected, hisOk, hup, hopen]

theorem Listening.countUnread_unread (h : Listening c) (hsane : c.abort = false) (hunread : c.engine.unread ≠ []) :
    c.countUnread c.engine.state = (.ok c.engine.unread.length, c) := by
  have hempty : c.engine.unread.isEmpty = false := by simpa using hunread
  rw [h.flags]
  simp [countUnread, hsane, EngineState.isInvalid, EngineState.invalid, SimEngine.appState, hempty, Engine.recvAppBuf]

theorem Listening.countUnread_empty (h : Listening c) (hsane : c.abort = false) (hunread : c.engine.unread = []) :
    c.countUnread c.engine.state = (.ok 0, { c with board.engine.flushes := c.engine.flushes + 1 }) := by
  rw [h.flags]
  simp [countUnread, hsane, EngineState.isInvalid, EngineState.invalid, SimEngine.appState, hunread, Engine.flushApp,
    SimBoard.onEngine, SimEngine.flushApp]

theorem sane_of_countUnread {c' : Client SimBoard slots} {state : EngineState} {count : Nat}
    (h : c.countUnread state = (.ok count, c')) : c.abort = false := by
  cases habort : c.abort with
  | false => rfl
  | true => simp [countUnread, habort] at h

/-- after a failure nothing is counted -/
theorem countUnread_failed (hsane : c.abort = false) (hfailed : c.status ≠ .ok) :
    c.countUnread .invalid = (.error (.status c.status), c) := by
  have hisOk : ¬c.lifecycle.status.isOk = true := mt (Status.isOk_iff _).1 hfailed
  simp [countUnread, hsane, EngineState.isInvalid, hisOk, status]

/-! ## Runs of the pump -/

theorem pump_of_done {r : EngineState × Client SimBoard slots} (h : c.pumpTurn = .done r) (budget : Nat) :
    c.pump (budget + 1) = some r := by
  simp only [pump, repeatTurn, h]

theorem pump_of_again {c' : Client SimBoard slots} (h : c.pumpTurn = .again c') (budget : Nat) :
    c.pump (budget + 1) = c'.pump budget := by
  simp only [pump, repeatTurn, h]

theorem available_of_pump {c' : Client SimBoard slots} {budget : Nat} {state : EngineState}
    (hguard : c.lifecycle.softConnected c.flags = .ok ()) (h : c.pump budget = some (state, c')) :
    c.available budget = some (c'.countUnread state) := by
  simp only [available, hguard, h, Option.map_some]

/-- a read takes from what was counted -/
theorem read_of_available {c' : Client SimBoard slots} {budget room : Nat} (hroom : room ≠ 0)
    (h : c.available budget = some (.ok c'.engine.unread.length, c')) :
    c.read budget room =
      some (.ok (c'.engine.unread.take room), { c' with board.engine.unread := c'.engine.unread.drop room }) := by
  have htake := takeUnread_eq c' room
  simp only [read, if_neg hroom, h, Result.andThen]
  split_ifs with hnone
  · have hunread : c'.board.engine.unread = [] := List.length_eq_zero_iff.1 hnone
    simp only [takeUnread, Engine.recvAppBuf, hunread, List.take_nil, List.isEmpty_nil, if_true] at htake
    rw [hunread, List.take_nil, ← (Prod.mk.inj htake).2]
  · rw [htake]

end TlsClient.Client

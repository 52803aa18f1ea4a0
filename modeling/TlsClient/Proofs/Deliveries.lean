/-
What is stored is delivered, if the socket takes bytes at all.

A run of the pump first sends what is queued, then hands over what is stored and sends that, and only then turns to the
peer. So before anything else can end a wait, its first run of the pump has put everything on the socket.
- `Sending`: a session whose socket takes bytes, however few at a time;
- `Sending.sends`: the pump sends the whole queue, by induction on its length;
- `Sending.delivers`: and then what is stored, `Delivered`: the client it gets to;
- `Pumps.pump`: every run of the pump gets there, `Spent`: and nothing is written after;
- `drive_writes`: so much for a wait, and with it for a flush and for the graceful part of a stop;
- `stored_is_delivered`: after a flush and after a stop, the socket has what was stored.
-/
import TlsClient.Proofs.SoundStates
import TlsClient.Proofs.Teardowns

namespace TlsClient.Client

variable {slots : Nat} {c c' c₁ : Client SimBoard slots} {f : Flow} {budget : Nat} {r : Except Error Unit}
  {target : EngineState}

/-! ## A socket that takes bytes -/

/-- an engine in its application phase, and an open socket that takes bytes, however few at a time, and tells how many -/
structure Sending (c : Client SimBoard slots) : Prop where
  natural : c.engine.forced = none
  app : c.engine.phase = .app
  peer : c.socket.isConnected = true
  sound : c.socket.failWrites = false
  chunk : c.socket.writeChunk ≠ some 0
  honest : c.socket.overreport = 0

instance : Decidable (Sending c) :=
  decidable_of_iff
    ((c.engine.forced = none ∧ c.engine.phase = .app) ∧ c.socket.isConnected = true ∧ c.socket.failWrites = false ∧
      c.socket.writeChunk ≠ some 0 ∧ c.socket.overreport = 0)
    ⟨fun ⟨⟨natural, app⟩, peer, sound, chunk, honest⟩ => ⟨natural, app, peer, sound, chunk, honest⟩,
      fun h => ⟨⟨h.natural, h.app⟩, h.peer, h.sound, h.chunk, h.honest⟩⟩

theorem Sending.clocked (h : Sending c) : Sending c.clocked :=
  ⟨h.natural, h.app, h.peer, h.sound, h.chunk, h.honest⟩

/-- what the pump sends changes counters of the socket only, and what was written -/
theorem Sending.moved {writeCalls flushes : Nat} {written : Bytes} (h : Sending c)
    (hforced : c'.engine.forced = c.engine.forced) (hphase : c'.engine.phase = c.engine.phase)
    (hsocket : c'.socket = { c.socket with writeCalls, flushes, written }) : Sending c' := by
  refine ⟨hforced.trans h.natural, hphase.trans h.app, ?_, ?_, ?_, ?_⟩
  all_goals rw [hsocket]
  · exact h.peer
  · exact h.sound
  · exact h.chunk
  · exact h.honest

theorem Sending.sendRecord (h : Sending c) (hqueue : c.engine.outgoing ≠ []) : c.sendRecord.1 = .ok () := by
  have hlength : c.engine.outgoing.length ≠ 0 := mt List.length_eq_zero_iff.1 hqueue
  have hbroken : ¬(c.board.socket.failWrites || !c.board.socket.isConnected) = true := by
    rw [show c.board.socket.failWrites = false from h.sound, show c.board.socket.isConnected = true from h.peer]
    decide
  have hsome : capAt c.board.socket.writeChunk c.engine.outgoing.length + c.board.socket.overreport ≠ 0 := by
    have hcap : capAt c.board.socket.writeChunk c.engine.outgoing.length ≠ 0 := by
      rw [Ne, capAt_eq_zero]
      exact not_or_intro h.chunk hlength
    omega
  have hclaim : ¬c.engine.outgoing.length <
      capAt c.board.socket.writeChunk c.engine.outgoing.length + c.board.socket.overreport := by
    rw [show c.board.socket.overreport = 0 from h.honest, Nat.add_zero]
    exact Nat.not_lt.2 (capAt_le _ _)
  simp only [Client.sendRecord, show Engine.sendRecBuf c.board = c.engine.outgoing from rfl]
  rw [if_neg hlength, SimBoard.write_of_open _ hbroken]
  simp only
  rw [if_neg hsome, if_neg hclaim]
  rfl

theorem Sending.pumpTurn_queue (h : Sending c) (hqueue : c.engine.outgoing ≠ []) :
    c.pumpTurn = afterStep c.sendRecord := by
  have hempty : c.engine.outgoing.isEmpty = false := by simpa using hqueue
  have hstate : Engine.state c.board = { sendRec := true } := by
    rw [show Engine.state c.board = c.engine.state from rfl, SimEngine.state_of_natural h.natural,
      SimEngine.naturalState, h.app]
    simp only [hempty]
    rfl
  simp only [pumpTurn, hstate]
  rfl

theorem Sending.pumpTurn_stored (h : Sending c) (hqueue : c.engine.outgoing = []) (hpending : 0 < c.pending) :
    c.pumpTurn = afterStep (c.handOver c.engine.state) := by
  have hstate : Engine.state c.board = c.engine.appState := by
    rw [show Engine.state c.board = c.engine.state from rfl, SimEngine.state_of_natural h.natural,
      SimEngine.naturalState, h.app]
    simp only [hqueue, List.isEmpty_nil, if_true]
  have hpending : 0 < c.backlog.pending := hpending
  rw [show c.engine.state = c.engine.appState from hstate]
  simp [pumpTurn, hstate, SimEngine.appState, hpending]

/-- an engine that takes plaintext and has a window takes what fits into it -/
theorem handOver_answer (htake : c.engine.state.sendApp = true) (hwindow : 0 < c.engine.capacity) :
    (c.handOver c.engine.state).1 = if c.engine.capacity < c.pending then .error .internal else .ok () := by
  have hsome : ¬c.engine.capacity = 0 := Nat.ne_of_gt hwindow
  simp only [handOver]
  rw [if_neg (by simp [htake])]
  simp only [Engine.sendAppBuf, SimEngine.sendAppBuf_of_sendApp htake, SimEngine.length_fitted, if_neg hsome]
  by_cases hshort : c.engine.capacity < c.backlog.pending
  · rw [if_pos hshort, pending, if_pos hshort]
  · rw [if_neg hshort, pending, if_neg hshort]

/-! ## The pump -/

/-- the queue was sent, and nothing else has changed but counters -/
structure Sent (c c' : Client SimBoard slots) : Prop where
  written : c'.socket.written = c.socket.written ++ c.engine.outgoing
  engine : c'.engine = { c.engine with outgoing := [] }
  rest : ∃ writeCalls flushes stats,
    c' =
      { c with
        board.socket := { c.socket with writeCalls, flushes, written := c'.socket.written }
        board.engine := c'.engine
        stats }

theorem Sent.sending (h : Sent c c') (hsending : Sending c) : Sending c' := by
  obtain ⟨_, _, _, hrest⟩ := h.rest
  have hsocket := congrArg (fun c : Client SimBoard slots => c.socket) hrest
  exact hsending.moved (by rw [h.engine]) (by rw [h.engine]) hsocket

/-- **The pump sends the whole queue**, in as many turns as the socket wants. -/
theorem Sending.sends (h : Sending c) : ∃ c', Pumps c c' ∧ Sent c c' := by
  -- each turn shortens the queue
  generalize hlength : c.engine.outgoing.length = length
  induction length using Nat.strongRecOn generalizing c with
  | ind length ih =>
    by_cases hqueue : c.engine.outgoing = []
    · refine ⟨c, .refl, ?_, ?_, ⟨_, _, _, rfl⟩⟩
      · rw [hqueue, List.append_nil]
      · rw [← hqueue]
    have hsend : c.engine.state.sendRec = true := by
      have hempty : c.engine.outgoing.isEmpty = false := by simpa using hqueue
      simp [SimEngine.state_of_natural h.natural, SimEngine.naturalState, h.app, hempty]
    have hok := h.sendRecord hqueue
    have hturn := h.pumpTurn_queue hqueue
    rcases hr : c.sendRecord with ⟨answer, c₁⟩
    rw [hr] at hok hturn
    rcases sendRecord_cases hsend hr with ⟨_, rfl, -⟩ | ⟨count, rfl, -, -, hpos, hle, heq⟩
    · cases hok
    rw [h.honest, Nat.add_zero] at hpos hle heq
    subst heq
    have hless : (c.engine.outgoing.drop count).length < length := by
      rw [List.length_drop]
      omega
    obtain ⟨c', hpumps, hsent⟩ := ih _ hless
      (c := { c with
        board.socket.writeCalls := c.socket.writeCalls + 1
        board.socket.written := c.socket.written ++ c.engine.outgoing.take count
        board.socket.flushes := c.socket.flushes + 1
        board.engine.outgoing := c.engine.outgoing.drop count
        stats := c.stats.sent count })
      (h.moved rfl rfl rfl) rfl
    refine ⟨c', .head hturn hpumps, ?_, hsent.engine, ?_⟩
    · calc c'.socket.written
          = c.socket.written ++ c.engine.outgoing.take count ++ c.engine.outgoing.drop count := hsent.written
        _ = c.socket.written ++ c.engine.outgoing := by rw [List.append_assoc, List.take_append_drop]
    · obtain ⟨_, _, _, hrest⟩ := hsent.rest
      exact ⟨_, _, _, hrest⟩

/-- once the queue is sent, what is stored is handed over, if it fits into the window -/
theorem Sent.handOver (h : Sent c c') (hsending : Sending c) (hpending : 0 < c.pending)
    (hwindow : 0 < c.engine.capacity) (hshared : c.engine.sharedBuffer = true → c.engine.unread = []) :
    c'.pending = c.pending ∧ c'.pumpTurn = afterStep (c'.handOver c'.engine.state) ∧
      (c'.handOver c'.engine.state).1 = if c.engine.capacity < c.pending then .error .internal else .ok () := by
  have hsending' : Sending c' := h.sending hsending
  have hqueue : c'.engine.outgoing = [] := by rw [h.engine]
  have hcapacity : c'.engine.capacity = c.engine.capacity := by rw [h.engine]
  have hstored : c'.pending = c.pending := by
    obtain ⟨_, _, _, hrest⟩ := h.rest
    rw [hrest]
    rfl
  have htake : c'.engine.state.sendApp = true := by
    refine (SimEngine.sendApp_iff hsending'.natural).2 ⟨hsending'.app, hqueue, ?_⟩
    rw [h.engine]
    exact hshared
  refine ⟨hstored, hsending'.pumpTurn_stored hqueue (hstored ▸ hpending), ?_⟩
  rw [handOver_answer htake (hcapacity ▸ hwindow), hcapacity, hstored]

/-- what is queued and what is stored were sent, and nothing else has changed but counters -/
structure Delivered (c c' : Client SimBoard slots) : Prop where
  written : c'.socket.written = c.socket.written ++ (c.engine.outgoing ++ c.engine.fitted.take c.pending)
  engine : c'.engine = { c.engine.hand c.pending with outgoing := [] }
  rest : ∃ writeCalls flushes stats,
    c' =
      { c with
        board.socket := { c.socket with writeCalls, flushes, written := c'.socket.written }
        board.engine := c'.engine
        backlog := .empty
        stats }

/-- **The pump sends what is queued, hands over what is stored, and sends that.** -/
theorem Sending.delivers (h : Sending c) (hpending : 0 < c.pending) (hroom : c.pending ≤ c.engine.capacity)
    (hshared : c.engine.sharedBuffer = true → c.engine.unread = []) : ∃ c', Pumps c c' ∧ Delivered c c' := by
  obtain ⟨c₁, hpumps, hsent⟩ := h.sends
  have hsending : Sending c₁ := hsent.sending h
  obtain ⟨_, _, _, hrest⟩ := hsent.rest
  obtain ⟨hstored, hturn, hanswer⟩ := hsent.handOver h hpending (Nat.lt_of_lt_of_le hpending hroom) hshared
  rw [if_neg (Nat.not_lt.2 hroom)] at hanswer
  rcases hr : c₁.handOver c₁.engine.state with ⟨answer, c₂⟩
  rw [hr] at hanswer hturn
  rcases handOver_cases (hstored ▸ hpending) hr with ⟨_, rfl, -⟩ | ⟨rfl, -, -, heq⟩
  · cases hanswer
  have hsending₂ : Sending c₂ := by
    subst heq
    exact hsending.moved rfl rfl rfl
  obtain ⟨c₃, hpumps₂, hsent₂⟩ := hsending₂.sends
  subst heq
  refine ⟨c₃, (hpumps.tail hturn).trans hpumps₂, ?_, ?_, ?_⟩
  · calc c₃.socket.written
        = c₁.socket.written ++ (c₁.engine.outgoing ++ c₁.engine.fitted.take c₁.pending) := hsent₂.written
      _ = c.socket.written ++ c.engine.outgoing ++ c.engine.fitted.take c.pending := by
        rw [hsent.written, hstored, hsent.engine]
        rfl
      _ = c.socket.written ++ (c.engine.outgoing ++ c.engine.fitted.take c.pending) := List.append_assoc ..
  · calc c₃.engine = { c₁.engine.hand c₁.pending with outgoing := [] } := hsent₂.engine
      _ = { c.engine.hand c.pending with outgoing := [] } := by
        rw [hstored, hsent.engine]
        rfl
  · obtain ⟨_, _, _, hrest₂⟩ := hsent₂.rest
    rw [hrest] at hrest₂
    exact ⟨_, _, _, hrest₂⟩

theorem Delivered.listening (h : Delivered c c') (hsending : Sending c) : Listening c' := by
  obtain ⟨_, _, _, hrest⟩ := h.rest
  refine ⟨?_, ?_, ?_, ?_⟩
  · rw [h.engine]
    exact hsending.natural
  · rw [h.engine]
    exact hsending.app
  · rw [h.engine]
  · rw [hrest]
    rfl

/-- a run of the pump gets to wherever its turns lead -/
theorem Pumps.pump {answer : EngineState × Client SimBoard slots} (h : Pumps c c')
    (hpump : c.pump budget = some answer) : ∃ left, c'.pump left = some answer := by
  induction h with
  | refl => exact ⟨budget, hpump⟩
  | @tail c₁ c₂ _ hturn ih =>
    obtain ⟨left, hleft⟩ := ih
    cases left with
    | zero => cases hleft
    | succ left => exact ⟨left, (pump_of_again hturn left).symm.trans hleft⟩

/-- a run of the pump ends with the turn that its turns lead to -/
theorem Pumps.last {answer answer' : EngineState × Client SimBoard slots} (h : Pumps c c')
    (hdone : c'.pumpTurn = .done answer) (hpump : c.pump budget = some answer') : answer' = answer := by
  obtain ⟨left, hleft⟩ := h.pump hpump
  cases left with
  | zero => cases hleft
  | succ left => exact Option.some.inj (hleft.symm.trans (pump_of_done hdone left))

/-! ## After the delivery -/

/-- nothing is queued and nothing stored, and so much was written -/
structure Spent (written : Bytes) (c : Client SimBoard slots) : Prop where
  natural : c.engine.forced = none
  queue : c.engine.outgoing = []
  pending : c.pending = 0
  honest : c.socket.overreport = 0
  written : c.socket.written = written

variable {written : Bytes}

theorem Spent.drained (h : Spent written c) (flags : EngineState) :
    Spent written { c with board.engine := c.engine.drained flags } := by
  obtain ⟨unread, hdrained⟩ := c.engine.drained_frame flags
  rw [hdrained]
  exact ⟨h.natural, h.queue, h.pending, h.honest, h.written⟩

theorem Spent.teardown (h : Spent written c) : Spent written c.teardown := by
  have hdrained := h.drained c.engine.state
  rw [teardown_eq]
  exact ⟨hdrained.natural, hdrained.queue, rfl, h.honest, h.written⟩

/-- on a socket that tells what it takes, what fails has written nothing -/
theorem Spent.harmed (h : Spent written c) (hharm : Harmed c c') : Spent written c' := by
  obtain ⟨_, _, hengine, -⟩ := hharm.engine
  obtain ⟨_, _, _, _, hsocket, -, -, hlost⟩ := hharm.socket
  obtain ⟨rfl, -⟩ := hlost h.honest
  refine ⟨hharm.forced.trans h.natural, ?_, ?_, ?_, ?_⟩
  · rw [hengine]
    exact h.queue
  · rw [hharm.rest]
    exact h.pending
  · rw [hsocket]
    exact h.honest
  · rw [hsocket]
    exact h.written

/-- **As long as no more is stored, no move writes anything.** -/
theorem Spent.move (h : Spent written c) (hmove : Move c f c') (hstored : f.stored = []) : Spent written c' := by
  cases hmove with
  | sent _ hsend => exact absurd h.queue (SimEngine.outgoing_of_sendRec h.natural hsend)
  | handed _ _ hpending => exact absurd h.pending (Nat.ne_of_gt hpending)
  | full _ _ _ hpos => exact absurd h.pending (Nat.ne_of_gt hpos)
  | fill _ _ _ hroom hfull =>
    obtain rfl : _ = [] := hstored
    exact absurd hfull (Nat.ne_of_lt hroom)
  | store =>
    obtain rfl : _ = [] := hstored
    exact ⟨h.natural, h.queue, h.pending, h.honest, h.written⟩
  | @received count =>
    obtain ⟨_, _, _, _, hreceive⟩ := c.engine.receive_frame (c.socket.incoming.take count)
    rw [hreceive]
    exact ⟨h.natural, h.queue, h.pending, h.honest, h.written⟩
  | @failed s c₁ _ hharm =>
    obtain ⟨hnatural, hqueue, hpending, hhonest, hwritten⟩ := h.harmed hharm
    exact Spent.teardown (c := { c₁ with lifecycle := c₁.lifecycle.fail s })
      ⟨hnatural, hqueue, hpending, hhonest, hwritten⟩
  | noWindow _ he =>
    rcases he with rfl | rfl
    · exact h
    · exact ⟨h.natural, h.queue, h.pending, h.honest, h.written⟩
  | discard => exact ⟨h.natural, h.queue, rfl, h.honest, h.written⟩
  | drop state => exact h.drained state
  | down => exact h.teardown
  | _ => exact ⟨h.natural, h.queue, h.pending, h.honest, h.written⟩

theorem Steps.spent (h : Spent written c) (hs : Steps c f c') (hstored : f.stored = []) : Spent written c' := by
  refine hs.invariant (I := fun f c' => f.stored = [] → Spent written c') ?_ (fun _ => h) hstored
  intro f g c₁ c₂ ih hstep hstored
  rw [Flow.stored_append, List.append_eq_nil_iff] at hstored
  exact (ih hstored.1).move hstep.move hstored.2

theorem Delivered.spent (h : Delivered c c') (hsending : Sending c) :
    Spent (c.socket.written ++ (c.engine.outgoing ++ c.engine.fitted.take c.pending)) c' := by
  obtain ⟨hnatural, -, hqueue, hpending⟩ := h.listening hsending
  obtain ⟨_, _, _, hrest⟩ := h.rest
  refine ⟨hnatural, hqueue, hpending, ?_, h.written⟩
  rw [hrest]
  exact hsending.honest

/-! ## Waits -/

/-- **However a wait ends, it has written what was queued and what was stored.** -/
theorem drive_writes (hok : c.status = .ok) (hsending : Sending c) (hpending : 0 < c.pending)
    (hroom : c.pending ≤ c.engine.capacity) (hshared : c.engine.sharedBuffer = true → c.engine.unread = [])
    (h : c.drive budget target = some (r, c')) :
    Spent (c.socket.written ++ (c.engine.outgoing ++ c.engine.fitted.take c.pending)) c' := by
  obtain ⟨state, c₁, hpump, hrest⟩ := drive_first h
  obtain ⟨last, hpumps, hdelivered⟩ := hsending.clocked.delivers hpending hroom hshared
  have hspent := hdelivered.spent hsending.clocked
  have hok' : last.status = .ok := hpumps.served.1.status.trans hok
  obtain ⟨left, hpump'⟩ := hpumps.pump hpump
  obtain ⟨hs, hend⟩ := pump_spec hok' hpump'
  -- nothing is written by what is left of that run, or by what follows it
  have hjudge : Turn.All _ _ (c₁.judge target (Timer.now c.board).1 state) := judge_spec hend
  rcases hrest with hdone | ⟨turns, c₂, hagain, hturns⟩
  · rw [hdone] at hjudge
    cases hjudge with
    | done h => exact (hs.trans h.1).spent hspent rfl
  · rw [hagain] at hjudge
    cases hjudge with
    | again h =>
      obtain ⟨hs₂, hlife⟩ := h
      have hok₂ : c₂.status = .ok := (status_of_lifecycle hlife).trans hok'
      exact ((hs.trans hs₂).trans (driveTurns_spec hok₂ hturns).1).spent hspent rfl

/-! ## Flushes and stops -/

theorem Sending.flags (h : Sending c) : c.engine.state.closed = false ∧ c.engine.state.isInvalid = false := by
  rw [SimEngine.state_of_natural h.natural, SimEngine.naturalState, h.app]
  simp only [SimEngine.appState]
  cases c.engine.outgoing.isEmpty <;> cases c.engine.unread.isEmpty <;> simp [EngineState.isInvalid, EngineState.invalid]

/-- a session that is up may be flushed, also when a stop has begun -/
theorem Up.mayPump (h : Up c) : c.lifecycle.mayPump = .ok () ∧ c.windingDown.lifecycle.mayPump = .ok () := by
  have hisOk : c.lifecycle.status.isOk = true := (Status.isOk_iff _).2 h.status
  have hclosing : c.windingDown.lifecycle = c.lifecycle.closing := rfl
  rw [hclosing]
  simp [Lifecycle.mayPump, Lifecycle.closing, hisOk, h.stage]

theorem flush_of_stored (hmay : c.lifecycle.mayPump = .ok ()) (hpending : 0 < c.pending) (budget : Nat) :
    c.flush budget = c.drive budget { recvApp := true } := by
  have hsome : ¬c.backlog.pending = 0 := Nat.ne_of_gt hpending
  simp only [flush, hmay, if_neg hsome]

/-- the graceful part of a stop begins with the engine that a teardown would leave -/
theorem windingDown_engine (hforced : c.engine.forced = none) :
    c.windingDown.engine = { c.engine with unread := c.engine.hidden } := SimEngine.drained_eq hforced

theorem Sending.windingDown (h : Sending c) : Sending c.windingDown := by
  have hengine := windingDown_engine h.natural
  refine ⟨?_, ?_, h.peer, h.sound, h.chunk, h.honest⟩
  · rw [hengine]
    exact h.natural
  · rw [hengine]
    exact h.app

theorem Sending.stop_eq (h : Sending c) (hup : Up c) (budget : Nat) :
    c.stop budget = (c.windingDown.flush budget).map fun r => r.2.teardown := by
  obtain ⟨hopen, hvalid⟩ := h.flags
  rw [Client.stop_eq, if_pos (by rw [hup.session, hopen, hvalid, h.peer]; rfl)]

/-- **Whatever a flush answers, what was queued and what was stored is on the socket**, and so it is after a stop. On an
engine that shares one buffer, unread plaintext must not be in the way, or a stop must be able to discard it. -/
theorem Sending.flush_writes (h : Sending c) (hup : Up c) (hpending : 0 < c.pending)
    (hroom : c.pending ≤ c.engine.capacity) (hshared : c.engine.sharedBuffer = true → c.engine.unread = [])
    (hflush : c.flush budget = some (r, c')) :
    c'.socket.written = c.socket.written ++ (c.engine.outgoing ++ c.engine.fitted.take c.pending) := by
  rw [flush_of_stored hup.mayPump.1 hpending] at hflush
  exact (drive_writes hup.status h hpending hroom hshared hflush).written

theorem Sending.stop_writes (h : Sending c) (hup : Up c) (hpending : 0 < c.pending)
    (hroom : c.pending ≤ c.engine.capacity) (hshared : c.engine.sharedBuffer = true → c.engine.hidden = [])
    (hstop : c.stop budget = some c') :
    c'.socket.written = c.socket.written ++ (c.engine.outgoing ++ c.engine.fitted.take c.pending) := by
  rw [h.stop_eq hup] at hstop
  obtain ⟨⟨r, c₁⟩, hflush, rfl⟩ := Option.map_eq_some_iff.1 hstop
  rw [flush_of_stored (c := c.windingDown) hup.mayPump.2 hpending] at hflush
  have hengine := windingDown_engine h.natural
  have hspent := drive_writes (c := c.windingDown) hup.status h.windingDown hpending
    (by rw [hengine]; exact hroom) (by rw [hengine]; exact hshared) hflush
  rw [hengine] at hspent
  exact hspent.teardown.written

/-- **What is stored is delivered.** A session is up, on an engine whose flags are not forced and that takes plaintext,
and on an open socket that takes bytes, however few at a time, and tells how many. If something is stored and the window
has room for more, then after a flush, whatever it answers, and after a stop, the socket has just what was stored in the
window, behind what it had before. Both come to an end, if to read the clock takes time at all. -/
theorem stored_is_delivered (hup : Up c) (h : Sending c) (htake : c.engine.state.sendApp = true)
    (hpending : 0 < c.pending) (hroom : c.pending < c.engine.capacity) :
    (∀ budget r c', c.flush budget = some (r, c') →
      c'.socket.written = c.socket.written ++ c.window.take c.pending) ∧
    (∀ budget c', c.stop budget = some c' → c'.socket.written = c.socket.written ++ c.window.take c.pending) ∧
    (0 < c.tick →
      (∃ r, Settles (fun budget => c.flush budget) r) ∧ ∃ c', Settles (fun budget => c.stop budget) c') := by
  obtain ⟨happ, hqueue, hshared⟩ := (SimEngine.sendApp_iff h.natural).1 htake
  have hroom : c.pending ≤ c.engine.capacity := Nat.le_of_lt hroom
  have hshown : c.engine.hidden = [] := if_pos ⟨happ, hqueue⟩
  rw [window_of_sendApp htake]
  refine ⟨?_, ?_, fun htick => ⟨flush_settles htick, stop_settles htick⟩⟩
  · intro budget r c' hflush
    have hwritten := h.flush_writes hup hpending hroom hshared hflush
    rwa [hqueue, List.nil_append] at hwritten
  · intro budget c' hstop
    have hwritten := h.stop_writes hup hpending hroom (fun _ => hshown) hstop
    rwa [hqueue, List.nil_append] at hwritten

/-- two bytes are stored, the socket takes one at a time, and the peer is silent: the flush gives up, but it has sent
both -/
theorem stored_is_delivered_silent_peer :
    ∃ (c c' : Client SimBoard 1) (e : Error), Up c ∧ Sending c ∧ c.engine.state.sendApp = true ∧ c.pending = 2 ∧
      c.pending < c.engine.capacity ∧ c.socket.written = [1, 2] ∧ c.window.take c.pending = [5, 6] ∧
      c.flush 50 = some (.error e, c') ∧ c'.socket.written = [1, 2, 5, 6] := by
  have hplayed :
      (newcomer.undergo 50 [.request (.connect (.name "a") 443 fun _ => []), .request (.write [5, 6]),
        .socket (.writeChunk (some 1)), .setTimeout 20]).bind
          (fun s => (s.2.flush 50).map fun r =>
            (decide (s.2.phase = .connected ∧ Sending s.2 ∧ s.2.engine.state.sendApp = true ∧ s.2.pending = 2 ∧
                s.2.engine.capacity = 4 ∧ r.1.toOption = none),
              s.2.socket.written, s.2.window.take s.2.pending)) =
        some (true, [1, 2], [5, 6]) := by
    decide +kernel
  obtain ⟨⟨log, c⟩, hrun, hflushed⟩ := Option.bind_eq_some_iff.1 hplayed
  obtain ⟨⟨r, c'⟩, hflush, heq⟩ := Option.map_eq_some_iff.1 hflushed
  simp only [Prod.mk.injEq, decide_eq_true_iff] at heq
  obtain ⟨⟨hphase, hsending, htake, hpending, hcapacity, hfailed⟩, hwritten, hstored⟩ := heq
  have hlived : Lived c := .of_undergo (.new _ _) hrun
  have hup : Up c := hlived.up hphase
  have hroom : c.pending < c.engine.capacity := by
    rw [hpending, hcapacity]
    decide
  obtain ⟨hflushes, -, -⟩ := stored_is_delivered hup hsending htake (by rw [hpending]; decide) hroom
  cases r with
  | ok u => cases hfailed
  | error e =>
    refine ⟨c, c', e, hup, hsending, htake, hpending, hroom, hwritten, hstored, hflush, ?_⟩
    rw [hflushes 50 _ c' hflush, hwritten, hstored]
    rfl

end TlsClient.Client

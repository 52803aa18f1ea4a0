/-
How a stop ends on a healthy connection.

With something stored, a stop flushes before it tears the connection down, and a flush waits for plaintext from the peer.
So whether a failure is on record afterwards depends on whether that plaintext is there in time.
- `Healthy`: nothing is wrong with engine, socket and memory;
- `Healthy.rests`: the first run of the pump delivers what is stored and brings in what the peer has sent;
- `drive_supplied`: plaintext that is there ends the wait, unless the deadline has passed by then;
- `drive_silent`: a silent peer lets it pass, whatever turns the wait takes;
- `drive_short`: what does not fit into the window ends the wait;
- `Answered`, `closingStatus`: the status that a stop leaves on record, `stop_status`: it does.
-/
import TlsClient.Proofs.Deliveries

namespace TlsClient.Client

variable {slots : Nat} {c c' q : Client SimBoard slots} {budget start : Nat} {r : Except Error Unit}

/-! ## The first run of the pump -/

/-- an engine in its application phase with a window, an open socket that works, and memory enough -/
structure Healthy (c : Client SimBoard slots) : Prop extends Sending c where
  window : 0 < c.engine.capacity
  reads : c.socket.failReads = false
  memory : ∀ asked required, c.board.probe.answer asked required = .sufficient

theorem Healthy.clocked (h : Healthy c) : Healthy c.clocked := ⟨h.toSending.clocked, h.window, h.reads, h.memory⟩

theorem Sending.healthy (h : Sending c) (hwindow : 0 < c.engine.capacity) (hreads : c.socket.failReads = false) :
    Healthy { c with board.probe := .unbounded } :=
  ⟨⟨h.natural, h.app, h.peer, h.sound, h.chunk, h.honest⟩, hwindow, hreads, fun _ _ => rfl⟩

/-- with nothing to send, the pump brings in what the peer has sent, unless something is unread already -/
theorem Healthy.listens (h : Healthy c) (hlistening : Listening c) (hok : c.status = .ok)
    (hup : c.lifecycle.engineConnected = true) (hsane : c.abort = false) :
    ∃ q, Pumps c q ∧ AtRest q ∧
      (q.engine.unread ≠ [] ↔
        c.engine.unread ≠ [] ∨ c.socket.incoming ≠ [] ∧ c.socket.availableChunk ≠ some 0) := by
  by_cases hunread : c.engine.unread = []
  · by_cases hnone : capAt c.socket.availableChunk c.socket.incoming.length = 0
    · refine ⟨c, .refl, ⟨hlistening, hok, hup, hsane, fun _ => ⟨h.peer, hnone⟩⟩,
        iff_of_false (by simp [hunread]) ?_⟩
      rw [capAt_eq_zero, List.length_eq_zero_iff] at hnone
      rintro (hsome | ⟨hsent, hshows⟩)
      · exact hsome hunread
      · exact hnone.elim hshows hsent
    · obtain ⟨count, hpos, hle, hturn⟩ :=
        hlistening.pumpTurn_bytes hunread h.window hnone (h.memory _ _) h.reads h.honest
      have htaken : c.socket.incoming.take count ≠ [] := by
        apply List.ne_nil_of_length_pos
        rw [List.length_take, Nat.min_eq_left hle]
        exact hpos
      rw [capAt_eq_zero, List.length_eq_zero_iff, not_or] at hnone
      exact ⟨_, .single hturn, ⟨⟨hlistening.natural, hlistening.app, hlistening.queue, hlistening.pending⟩, hok, hup,
        hsane, fun hnot => absurd hnot htaken⟩, iff_of_true htaken (.inr ⟨hnone.2, hnone.1⟩)⟩
  · exact ⟨c, .refl, ⟨hlistening, hok, hup, hsane, fun hnot => absurd hnot hunread⟩,
      iff_of_true hunread (.inl hunread)⟩

theorem Delivered.healthy (h : Delivered c c') (hhealthy : Healthy c) :
    Healthy c' ∧ c'.engine.unread = c.engine.unread ∧ c'.socket.incoming = c.socket.incoming ∧
      c'.socket.availableChunk = c.socket.availableChunk := by
  obtain ⟨writeCalls, flushes, stats, hrest⟩ := h.rest
  have hsocket : c'.socket = { c.socket with writeCalls, flushes, written := c'.socket.written } :=
    congrArg (fun c : Client SimBoard slots => c.socket) hrest
  have hprobe : c'.board.probe = c.board.probe := by rw [hrest]
  have hsending : Sending c' := hhealthy.toSending.moved (by rw [h.engine]; rfl) (by rw [h.engine]; rfl) hsocket
  refine ⟨⟨hsending, ?_, ?_, ?_⟩, ?_, ?_, ?_⟩
  · rw [h.engine]
    exact hhealthy.window
  · rw [hsocket]
    exact hhealthy.reads
  · rw [hprobe]
    exact hhealthy.memory
  · rw [h.engine]
    rfl
  · rw [hsocket]
  · rw [hsocket]

/-- **The first run of the pump delivers what is stored, and comes to rest.** Something is unread then exactly if there
was something before, or the peer has sent something that a poll finds. -/
theorem Healthy.rests (h : Healthy c) (hok : c.status = .ok) (hup : c.lifecycle.engineConnected = true)
    (hsane : c.abort = false) (hpending : 0 < c.pending) (hroom : c.pending ≤ c.engine.capacity)
    (hshared : c.engine.sharedBuffer = true → c.engine.unread = []) :
    ∃ q, Pumps c q ∧ AtRest q ∧
      (q.engine.unread ≠ [] ↔
        c.engine.unread ≠ [] ∨ c.socket.incoming ≠ [] ∧ c.socket.availableChunk ≠ some 0) := by
  obtain ⟨c₁, hpumps, hdelivered⟩ := h.delivers hpending hroom hshared
  have hlistening := hdelivered.listening h.toSending
  obtain ⟨hhealthy, hunread, hincoming, hchunk⟩ := hdelivered.healthy h
  obtain ⟨hserved, -⟩ := hpumps.served
  obtain ⟨q, hpumps₁, hrest, hiff⟩ :=
    hhealthy.listens hlistening (hserved.status.trans hok) (hserved.lifecycle ▸ hup) (hserved.abort.trans hsane)
  rw [hunread, hincoming, hchunk] at hiff
  exact ⟨q, hpumps.trans hpumps₁, hrest, hiff⟩

/-! ## How the wait of a flush ends -/

theorem judge_late {target state : EngineState} (hsane : c.abort = false) (hopen : state.closed = false)
    (hok : c.status = .ok) (hlate : c.config.timeoutMs < c.now - start) :
    c.judge target start state = .done (.error .timeout, c.clocked.fail .engineWrite) := by
  rw [judge_of_open hsane hopen hok, if_pos hlate]

theorem AtRest.judge_silent (h : AtRest q) (hunread : q.engine.unread = []) :
    (q.paused.judge { recvApp := true } start q.engine.state).All (fun c => AtRest c ∧ c.engine.unread = [])
      (fun r => r.2.status = .engineWrite) := by
  have hopen : q.engine.state.closed = false := by
    rw [h.flags]
    rfl
  rw [judge_of_open (c := q.paused) h.sane hopen h.status]
  by_cases hlate : q.paused.config.timeoutMs < q.paused.now - start
  · rw [if_pos hlate]
    exact .done (status_fail (c := q.paused.clocked) h.status _)
  · have hflags : q.engine.state = { recvRec := true, sendApp := true } := by
      rw [h.flags]
      simp [SimEngine.appState, hunread]
    have hapart : ¬reached { recvApp := true } { recvRec := true, sendApp := true } = true := by decide
    rw [hflags, if_neg hlate, if_neg hapart]
    exact .again ⟨⟨⟨h.natural, h.app, h.queue, h.pending⟩, h.status, h.session, h.sane, h.silent⟩, hunread⟩

/-- **A silent peer lets the deadline of a wait pass.** -/
theorem drive_silent (hpumps : Pumps c.clocked q) (hrest : AtRest q) (hunread : q.engine.unread = [])
    (h : c.drive budget { recvApp := true } = some (r, c')) : c'.status = .engineWrite := by
  refine repeatTurn_all (I := fun c₁ => ∃ q, Pumps c₁ q ∧ AtRest q ∧ q.engine.unread = [])
    (Q := fun r => r.2.status = .engineWrite) ?_ ⟨q, hpumps, hrest, hunread⟩ h
  rintro c₁ t ⟨q, hpumps, hrest, hunread⟩ ht
  obtain ⟨answer, hpump, rfl⟩ := Option.map_eq_some_iff.1 ht
  obtain ⟨hpeer, hnone⟩ := hrest.silent hunread
  obtain rfl := hpumps.last (hrest.pumpTurn_silent hunread hnone hpeer) hpump
  exact (hrest.judge_silent hunread).imp (fun c hc => ⟨c, .refl, hc⟩) fun _ hstatus => hstatus

theorem drive_last {target state : EngineState} {c₁ : Client SimBoard slots}
    {answer answer' : Except Error Unit × Client SimBoard slots} (hpumps : Pumps c.clocked q)
    (hturn : q.pumpTurn = .done (state, c₁)) (hjudge : c₁.judge target c.now state = .done answer)
    (h : c.drive budget target = some answer') : answer' = answer := by
  obtain ⟨state', c₂, hpump, hnext⟩ := drive_first h
  obtain ⟨rfl, rfl⟩ := Prod.mk.inj (hpumps.last hturn hpump)
  rcases hnext with hdone | ⟨_, _, hagain, -⟩
  · exact Turn.done.inj (hdone.symm.trans hjudge)
  · cases hagain.symm.trans hjudge

/-- **Plaintext that is there after the first run of the pump ends the wait**, unless to read the clock alone takes
longer than the deadline allows. -/
theorem drive_supplied (hpumps : Pumps c.clocked q) (hrest : AtRest q) (hunread : q.engine.unread ≠ [])
    (h : c.drive budget { recvApp := true } = some (r, c')) :
    c'.status = if c.tick ≤ c.config.timeoutMs then .ok else .engineWrite := by
  have hturn := hrest.pumpTurn_unread hunread
  have hopen : q.engine.state.closed = false := by
    rw [hrest.flags]
    rfl
  obtain ⟨hserved, htime⟩ := hpumps.served
  have hnow : q.now = c.now + c.tick := congrArg SimTime.now htime
  have hconfig : q.config.timeoutMs = c.config.timeoutMs := congrArg Config.timeoutMs hserved.config
  split_ifs with hearly
  · have htarget : q.engine.state.intersects { recvApp := true } = true := by
      have hempty : q.engine.unread.isEmpty = false := by simpa using hunread
      simp [hrest.flags, EngineState.intersects, SimEngine.appState, hempty]
    have hintime : q.now - c.now ≤ q.config.timeoutMs := by omega
    cases drive_last hpumps hturn (judge_in_time hrest.sane hopen hrest.status hintime htarget) h
    exact hrest.status
  · have hlate : q.config.timeoutMs < q.now - c.now := by omega
    cases drive_last hpumps hturn (judge_late hrest.sane hopen hrest.status hlate) h
    exact status_fail (c := q.clocked) hrest.status _

/-- **What does not fit into the window is found out by the first run of the pump.** -/
theorem drive_short (h : Healthy c) (hok : c.status = .ok) (hshort : c.engine.capacity < c.pending)
    (hshared : c.engine.sharedBuffer = true → c.engine.unread = [])
    (hdrive : c.drive budget { recvApp := true } = some (r, c')) : c'.status = .internal := by
  have hsending : Sending c.clocked := h.toSending.clocked
  obtain ⟨q, hpumps, hsent⟩ := hsending.sends
  obtain ⟨-, hturn, hanswer⟩ := hsent.handOver hsending (Nat.zero_lt_of_lt hshort) h.window hshared
  rw [if_pos (show c.clocked.engine.capacity < c.clocked.pending from hshort)] at hanswer
  have hlife := handOver_lifecycle q q.engine.state
  rcases hr : q.handOver q.engine.state with ⟨answer, q₁⟩
  rw [hr] at hturn hanswer hlife
  obtain rfl : answer = _ := hanswer
  have hok₁ : q₁.status = .ok := by
    rw [status, hlife]
    exact hpumps.served.1.status.trans hok
  have hstatus : (q₁.fail .internal).status = .internal := status_fail hok₁ _
  have hfailed : (q₁.fail .internal).status ≠ .ok := by
    rw [hstatus]
    decide
  cases drive_last hpumps hturn (judge_failed hfailed { recvApp := true } c.now) hdrive
  exact hstatus

/-! ## Stops -/

/-- is plaintext from the peer there in time? It is, if a poll finds some, or if there is some that a stop does not
discard, and the deadline allows for a look at the clock -/
def Answered (c : Client SimBoard slots) : Prop :=
  c.tick ≤ c.config.timeoutMs ∧
    (c.engine.hidden ≠ [] ∨ c.socket.incoming ≠ [] ∧ c.socket.availableChunk ≠ some 0)

instance : Decidable (Answered c) := inferInstanceAs (Decidable (_ ∧ _))

/-- the status that a stop leaves on record: with something stored, that of its flush -/
def closingStatus (c : Client SimBoard slots) : Status :=
  if c.pending = 0 then .ok
  else if c.engine.capacity < c.pending then .internal
  else if Answered c then .ok
  else .engineWrite

theorem Healthy.windingDown (h : Healthy c) : Healthy c.windingDown := by
  have hengine := windingDown_engine h.natural
  refine ⟨h.toSending.windingDown, ?_, h.reads, h.memory⟩
  rw [hengine]
  exact h.window

/-- **The wait of the flush in a stop ends with the status that the stop leaves.** -/
theorem Healthy.drive_closing (h : Healthy c) (hup : Up c) (hsane : c.abort = false) (hpending : 0 < c.pending)
    (hshared : c.engine.sharedBuffer = true → c.engine.hidden = [])
    (hdrive : c.windingDown.drive budget { recvApp := true } = some (r, c')) : c'.status = c.closingStatus := by
  have hhealthy := h.windingDown
  have hengine := windingDown_engine h.natural
  have hshared' : c.windingDown.engine.sharedBuffer = true → c.windingDown.engine.unread = [] := by
    rw [hengine]
    exact hshared
  rw [closingStatus, if_neg (Nat.ne_of_gt hpending)]
  by_cases hshort : c.engine.capacity < c.pending
  · rw [if_pos hshort]
    refine drive_short hhealthy hup.status ?_ hshared' hdrive
    rw [hengine]
    exact hshort
  rw [if_neg hshort]
  have hroom : c.windingDown.clocked.pending ≤ c.windingDown.clocked.engine.capacity := by
    rw [show c.windingDown.clocked.engine = c.windingDown.engine from rfl, hengine]
    exact Nat.not_lt.1 hshort
  obtain ⟨q, hpumps, hrest, hiff⟩ := hhealthy.clocked.rests hup.status hup.session hsane hpending hroom hshared'
  have hsupplied : q.engine.unread ≠ [] ↔
      c.engine.hidden ≠ [] ∨ c.socket.incoming ≠ [] ∧ c.socket.availableChunk ≠ some 0 := by
    rw [hiff, show c.windingDown.clocked.engine = c.windingDown.engine from rfl, hengine]
    rfl
  by_cases hunread : q.engine.unread = []
  · have hanswered : ¬Answered c := fun hanswered => hsupplied.2 hanswered.2 hunread
    rw [if_neg hanswered]
    exact drive_silent hpumps hrest hunread hdrive
  · have hanswered : Answered c ↔ c.tick ≤ c.config.timeoutMs := and_iff_left (hsupplied.1 hunread)
    simp only [hanswered]
    exact drive_supplied (c := c.windingDown) hpumps hrest hunread hdrive

theorem phase_of_down (h : Down c) : c.phase = if c.status = .ok then .closed else .errored := by
  split_ifs with hok
  · rw [phase_of_ok hok, h.stage]
  · exact phase_of_failed hok

/-- **What a stop leaves on record.** A client is connected, on an engine in its application phase whose flags are not
forced, over an open socket that works and with memory enough. Where the engine shares one buffer and something is
stored, no unread plaintext is hidden in that buffer. Then, after a stop, nothing is on record and the connection is
closed exactly if nothing was stored, or what was stored fitted into the window and plaintext from the peer was there in
time. Otherwise the failure of the flush is on record: that the window was too short, or that the deadline has passed. -/
theorem stop_status (hlived : Lived c) (hphase : c.phase = .connected) (h : Healthy c)
    (hshared : 0 < c.pending → c.engine.sharedBuffer = true → c.engine.hidden = []) :
    (∀ budget c', c.stop budget = some c' →
      c'.status = c.closingStatus ∧ c'.phase = if c.closingStatus = .ok then .closed else .errored) ∧
    (0 < c.tick → ∃ c', Settles (fun budget => c.stop budget) c') := by
  have hup := hlived.up hphase
  have hsane := hlived.blamed.sane hup.status
  refine ⟨fun budget c' hstop => ?_, fun htick => stop_settles htick⟩
  have hdown : Down c' := by
    obtain ⟨_, c₁, -, -, -, rfl⟩ := stop_spec hstop
    exact .teardown c₁
  have hstatus : c'.status = c.closingStatus := by
    rw [h.stop_eq hup] at hstop
    obtain ⟨⟨r, c₁⟩, hflush, rfl⟩ := Option.map_eq_some_iff.1 hstop
    rw [status_teardown]
    by_cases hidle : c.pending = 0
    · obtain rfl := flush_of_idle (c := c.windingDown) hidle hflush
      rw [closingStatus, if_pos hidle]
      exact hup.status
    · have hpending : 0 < c.pending := Nat.pos_of_ne_zero hidle
      rw [flush_of_stored (c := c.windingDown) hup.mayPump.2 hpending] at hflush
      exact h.drive_closing hup hsane hpending (hshared hpending) hflush
  rw [phase_of_down hdown, hstatus]
  exact ⟨rfl, rfl⟩

/-- two bytes are stored and the peer has sent one: a stop ends the connection without a failure -/
theorem stop_status_answered :
    ∃ c c' : Client SimBoard 1, Lived c ∧ c.phase = .connected ∧ Healthy c ∧ c.pending = 2 ∧ c.engine.hidden = [] ∧
      c.stop 50 = some c' ∧ c'.status = .ok ∧ c'.phase = .closed := by
  have hplayed :
      (newcomer.undergo 50 [.request (.connect (.name "a") 443 fun _ => []), .request (.write [5, 6]),
        .socket (.push [7])]).bind
          (fun s => (stop 50 { s.2 with board.probe := .unbounded }).map fun _ =>
            (decide (s.2.phase = .connected ∧ Sending s.2 ∧ 0 < s.2.engine.capacity ∧ s.2.socket.failReads = false ∧
                s.2.pending = 2 ∧ s.2.engine.hidden = []),
              s.2.closingStatus)) =
        some (true, .ok) := by
    decide +kernel
  obtain ⟨⟨log, c₀⟩, hrun, hstopped⟩ := Option.bind_eq_some_iff.1 hplayed
  obtain ⟨c', hstop, heq⟩ := Option.map_eq_some_iff.1 hstopped
  simp only [Prod.mk.injEq, decide_eq_true_iff] at heq
  obtain ⟨⟨hphase, hsending, hwindow, hreads, hpending, hhidden⟩, hclosing⟩ := heq
  have hlived₀ : Lived c₀ := .of_undergo (.new _ _) hrun
  -- the probe is a function, so it is put in place rather than looked up in the history
  have hlived : Lived { c₀ with board.probe := .unbounded } := hlived₀.outside _
  have hhealthy : Healthy { c₀ with board.probe := .unbounded } := hsending.healthy hwindow hreads
  obtain ⟨hstops, -⟩ := stop_status hlived hphase hhealthy fun _ _ => hhidden
  obtain ⟨hstatus, hended⟩ := hstops 50 c' hstop
  rw [show closingStatus { c₀ with board.probe := .unbounded } = .ok from hclosing] at hstatus hended
  exact ⟨_, c', hlived, hphase, hhealthy, hpending, hhidden, hstop, hstatus, hended⟩

/-- two bytes are stored and the peer is silent: a stop leaves the failure of its flush on record -/
theorem stop_fails_silent_peer :
    ∃ c c' : Client SimBoard 1, Lived c ∧ c.phase = .connected ∧ Healthy c ∧ c.stop 50 = some c' ∧
      c'.status = .engineWrite ∧ c'.phase = .errored := by
  have hplayed :
      (newcomer.undergo 50 [.request (.connect (.name "a") 443 fun _ => []), .request (.write [5, 6]),
        .setTimeout 20]).bind
          (fun s => (stop 50 { s.2 with board.probe := .unbounded }).map fun c' =>
            (decide (s.2.phase = .connected ∧ Sending s.2 ∧ 0 < s.2.engine.capacity ∧ s.2.socket.failReads = false),
              c'.status, c'.phase)) =
        some (true, .engineWrite, .errored) := by
    decide +kernel
  obtain ⟨⟨log, c₀⟩, hrun, hstopped⟩ := Option.bind_eq_some_iff.1 hplayed
  obtain ⟨c', hstop, heq⟩ := Option.map_eq_some_iff.1 hstopped
  simp only [Prod.mk.injEq, decide_eq_true_iff] at heq
  obtain ⟨⟨hphase, hsending, hwindow, hreads⟩, hstatus, hended⟩ := heq
  have hlived₀ : Lived c₀ := .of_undergo (.new _ _) hrun
  exact ⟨_, c', hlived₀.outside { c₀.board with probe := .unbounded }, hphase, hsending.healthy hwindow hreads, hstop,
    hstatus, hended⟩

end TlsClient.Client

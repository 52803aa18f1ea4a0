/-
What the answer of a wait means.

A wait runs the pump and judges each run: memory, the engine, the record of failures, the deadline and the target are
looked at in this order, and what would block is resolved. Whatever was done before, the connection is what it was
(`Kept`) as long as the wait goes on, so each way out of it is told by its last turn.
- `WaitOutcome`: what holds of the client, for each answer;
- `judge_failed`, `judge_of_open`: what is looked at after a run of the pump, failed or not;
- `judge_of_served`: a connection that was left alone stays so, or the answer means what it says;
- `driveTurn_outcome`, `drive_outcome`: one turn, and the whole wait;
- `wait_outcome`: an answer means what it says, and a wait for what the first run of the pump brings disturbs nothing.
-/
import TlsClient.Proofs.PumpTurns

namespace TlsClient.Client

variable {slots : Nat} {c c' : Client SimBoard slots} {target state : EngineState}

/-! ## Runs of the pump in a wait -/

theorem PumpOutcome.failed_or_served (h : PumpOutcome c state c') :
    (state = .invalid ∧ c'.status ≠ .ok ∧ TornDown c c') ∨
      (state = c'.engine.state ∧ c'.status = .ok ∧ Served c c' ∧
        (c'.engine.state.closed = false → c'.pending = 0)) := by
  cases h with
  | failed hstatus hdown => exact .inl ⟨rfl, hstatus, hdown⟩
  | closed hpumps hok hclosed => exact .inr ⟨rfl, hok, hpumps.served.1, fun hopen => by simp [hclosed] at hopen⟩
  | rested hpumps hok _ _ hpending => exact .inr ⟨rfl, hok, hpumps.served.1, fun _ => hpending⟩
  | @waited last hpumps hok _ _ hpending =>
    have hpaused : Served last last.paused :=
      ⟨⟨⟨rfl, rfl⟩, rfl, rfl, rfl⟩, List.prefix_rfl, ⟨rfl, rfl⟩, rfl, rfl⟩
    exact .inr ⟨rfl, hok, hpumps.served.1.trans hpaused, fun _ => hpending⟩

/-- what the answer of a wait for `target` that began with `c` means -/
inductive WaitOutcome (c : Client SimBoard slots) (target : EngineState) :
    Except Error Unit → Client SimBoard slots → Prop
  /-- the engine shows the target, within the deadline as the clock was read last -/
  | reached {last : Client SimBoard slots} (hs : Steps c {} last) (hkept : Kept c last)
      (htarget : last.engine.state.intersects target = true ∨ last.engine.state = .invalid ∧ target = .invalid)
      (hpending : last.pending = 0) (hok : last.status = .ok) (htime : last.now - c.now ≤ c.config.timeoutMs) :
      WaitOutcome c target (.ok ()) last.clocked
  /-- the engine is closed, and the socket was left alone -/
  | closed {c' : Client SimBoard slots} (hkept : Kept c c') (hclosed : c'.engine.state.closed = true)
      (hok : c'.status = .ok) : WaitOutcome c target (.error .engineClosed) c'
  /-- the deadline has passed -/
  | timeout {c' : Client SimBoard slots} (hlate : c.now + c.config.timeoutMs < c'.now) (hdown : TornDown c c')
      (hstatus : c'.status = .engineWrite) : WaitOutcome c target (.error .timeout) c'
  /-- something failed -/
  | failed {c' : Client SimBoard slots} (hdown : TornDown c c') (hstatus : c'.status ≠ .ok) :
      WaitOutcome c target (.error (.status c'.status)) c'
  /-- memory is corrupted -/
  | aborted {c' : Client SimBoard slots} (hdown : TornDown c c') (hstatus : c'.status = .outOfMemory) :
      WaitOutcome c target (.error .abort) c'

theorem Kept.clocked (h : Kept c c') : Kept c c'.clocked := ⟨⟨h.lifecycle, h.socket⟩, h.config, h.abort, h.stops⟩

theorem TornDown.of_fail (h : Kept c c') (s : Status) : TornDown c (c'.fail s) := .of_kept h (.of_harmed (.refl c') s)

/-- after a run of the pump that failed, the wait is over -/
theorem judge_failed (hfailed : c.status ≠ .ok) (target : EngineState) (start : Nat) :
    c.judge target start .invalid = .done (.error (if c.abort = true then .abort else .status c.status), c) := by
  have hfailed' : ¬c.lifecycle.status.isOk = true := mt (Status.isOk_iff _).1 hfailed
  have hisOk : (!c.lifecycle.status.isOk) = true := by simpa using hfailed'
  simp only [judge]
  by_cases habort : c.abort = true
  · rw [if_pos habort, if_pos habort]
  · rw [if_neg habort, if_neg (by decide), if_pos hisOk, if_neg habort]
    rfl

theorem TornDown.waitOutcome (hdown : TornDown c c') (hblamed : Blamed c') (hfailed : c'.status ≠ .ok) :
    WaitOutcome c target (.error (if c'.abort = true then .abort else .status c'.status)) c' := by
  split_ifs with habort
  · exact .aborted hdown (hblamed habort)
  · exact .failed hdown hfailed

/-- on a session that nothing is wrong with, the deadline decides, and then the target -/
theorem judge_of_open (hsane : c.abort = false) (hopen : state.closed = false) (hok : c.status = .ok)
    (target : EngineState) (start : Nat) :
    c.judge target start state =
      if c.config.timeoutMs < c.now - start then .done (.error .timeout, c.clocked.fail .engineWrite)
      else if reached target state = true then .done (.ok (), c.clocked)
      else c.clocked.resolve target state := by
  have habort : ¬c.abort = true := by simp [hsane]
  have hclosed : ¬state.closed = true := by simp [hopen]
  have hisOk : ¬(!c.lifecycle.status.isOk) = true := by simp [(Status.isOk_iff c.lifecycle.status).2 hok]
  simp only [judge]
  rw [if_neg habort, if_neg hclosed, if_neg hisOk]
  rfl

theorem resolve_outcome (hkept : Kept c c') (hok : c'.status = .ok) :
    (c'.resolve target state).All (Kept c) (fun r => WaitOutcome c target r.1 r.2) := by
  simp only [resolve]
  split_ifs
  · simp only [discardUnread]
    split_ifs
    · have hstatus : (c'.fail .engineWrite).status = .engineWrite := status_fail hok _
      have hfailed : WaitOutcome c target _ (c'.fail .engineWrite) :=
        .failed (.of_fail hkept _) (by rw [hstatus]; decide)
      rw [hstatus] at hfailed
      exact .done hfailed
    · exact .again (hkept.trans ⟨⟨rfl, rfl⟩, rfl, rfl, rfl⟩)
  · exact .again (hkept.trans ⟨⟨rfl, rfl⟩, rfl, rfl, rfl⟩)
  · exact .again hkept

/-- **After a run of the pump that left the connection alone**, the wait goes on, is over, or fails. -/
theorem judge_of_served (hs : Steps c {} c') (hsane : c.abort = false) (hok : c'.status = .ok) (hkept : Kept c c')
    (hpending : c'.engine.state.closed = false → c'.pending = 0) :
    (c'.judge target c.now c'.engine.state).All (Kept c) (fun r => WaitOutcome c target r.1 r.2) := by
  have hsane' : c'.abort = false := hkept.abort.trans hsane
  by_cases hclosed : c'.engine.state.closed = true
  · have habort : ¬c'.abort = true := by simp [hsane']
    simp only [judge]
    rw [if_neg habort, if_pos hclosed]
    exact .done (.closed hkept hclosed hok)
  rw [Bool.not_eq_true] at hclosed
  rw [judge_of_open hsane' hclosed hok, hkept.config]
  split_ifs with hlate hreached
  · have hstatus : (c'.clocked.fail .engineWrite).status = .engineWrite := status_fail (c := c'.clocked) hok _
    have htime : (c'.clocked.fail .engineWrite).now = c'.now + c'.tick :=
      congrArg SimTime.now (time_fail (.refl c'.clocked) _)
    exact .done (.timeout (by rw [htime]; omega) (.of_fail hkept.clocked _) hstatus)
  · simp only [Client.reached, Bool.or_eq_true, Bool.and_eq_true, EngineState.isInvalid_iff] at hreached
    exact .done (.reached hs hkept (hreached.imp_right And.symm) (hpending hclosed) hok (Nat.not_lt.1 hlate))
  · exact resolve_outcome hkept.clocked hok

/-! ## Waits -/

/-- **A turn of a wait** leaves the connection alone and goes on, or its answer means what it says. -/
theorem driveTurn_outcome {budget : Nat} {t : Turn (Client SimBoard slots) (Except Error Unit × Client SimBoard slots)}
    (hblamed : Blamed c) (hok : c.status = .ok) (hs : Steps c {} c') (hkept : Kept c c')
    (ht : driveTurn budget target c.now c' = some t) :
    t.All (fun c'' => Steps c {} c'' ∧ Kept c c'') (fun r => WaitOutcome c target r.1 r.2) := by
  obtain ⟨⟨state, c₁⟩, hpump, rfl⟩ := Option.map_eq_some_iff.1 ht
  have hok' : c'.status = .ok := hkept.status.trans hok
  obtain ⟨hsteps, hend⟩ := pump_spec hok' hpump
  have hs₁ : Steps c {} c₁ := hs.trans hsteps
  have houtcome := (pump_outcome hok' hpump).failed_or_served
  show (c₁.judge target c.now state).All _ _
  rcases houtcome with ⟨rfl, hstatus, hdown⟩ | ⟨rfl, hok₁, hserved, hpending⟩
  · rw [judge_failed hstatus]
    exact .done (TornDown.waitOutcome (.of_kept hkept hdown) (hs₁.blamed hblamed) hstatus)
  · have hkept₁ : Kept c c₁ := hkept.trans hserved.toKept
    have hjudge : (c₁.judge target c.now c₁.engine.state).All (Kept c) (fun r => WaitOutcome c target r.1 r.2) :=
      judge_of_served hs₁ (hblamed.sane hok) hok₁ hkept₁ hpending
    refine ((judge_spec hend).and hjudge).imp ?_ ?_
    · rintro c₂ ⟨⟨hs₂, -⟩, hkept₂⟩
      exact ⟨hs₁.trans hs₂, hkept₂⟩
    · rintro r ⟨-, houtcome⟩
      exact houtcome

theorem drive_outcome {budget : Nat} {r : Except Error Unit} (hblamed : Blamed c) (hok : c.status = .ok)
    (h : c.drive budget target = some (r, c')) : WaitOutcome c target r c' := by
  refine repeatTurn_all (I := fun c' => Steps c {} c' ∧ Kept c c') (Q := fun r => WaitOutcome c target r.1 r.2) ?_
    ⟨Step.clock.steps, (Kept.refl c).clocked⟩ h
  rintro c₁ t ⟨hs, hkept⟩ ht
  exact driveTurn_outcome hblamed hok hs hkept ht

theorem judge_in_time {start : Nat} (hsane : c.abort = false) (hopen : state.closed = false) (hok : c.status = .ok)
    (htime : c.now - start ≤ c.config.timeoutMs) (htarget : state.intersects target = true) :
    c.judge target start state = .done (.ok (), c.clocked) := by
  have hreached : Client.reached target state = true := by simp [Client.reached, htarget]
  rw [judge_of_open hsane hopen hok, if_neg (Nat.not_lt.2 htime), if_pos hreached]

/-- **A wait for what the first run of the pump brings** is over after that run, and disturbs nothing. -/
theorem drive_of_first_run {budget : Nat} {c₁ : Client SimBoard slots} (hblamed : Blamed c) (hok : c.status = .ok)
    (hpump : c.clocked.pump (budget + 1) = some (state, c₁)) (htarget : state.intersects target = true)
    (hopen : state.closed = false) (htime : c.tick + (c₁.now - c.clocked.now) ≤ c.config.timeoutMs) :
    c.drive (budget + 1) target = some (.ok (), c₁.clocked) ∧ Served c c₁.clocked := by
  have hclock : Served c c.clocked := ⟨(Kept.refl c).clocked, List.prefix_rfl, ⟨rfl, rfl⟩, rfl, rfl⟩
  rcases (pump_outcome (c := c.clocked) hok hpump).failed_or_served with ⟨rfl, -⟩ | ⟨-, hok₁, hrun, -⟩
  · simp [EngineState.intersects, EngineState.invalid] at htarget
  have hserved : Served c c₁ := hclock.trans hrun
  have hsane : c₁.abort = false := hserved.abort.trans (hblamed.sane hok)
  have hearly : c₁.now - c.now ≤ c₁.config.timeoutMs := by
    rw [hserved.config]
    have hclock : c.clocked.now = c.now + c.tick := rfl
    omega
  have hturn : driveTurn (budget + 1) target c.now c.clocked = some (.done (.ok (), c₁.clocked)) := by
    rw [driveTurn, hpump]
    exact congrArg some (judge_in_time hsane hopen hok₁ hearly htarget)
  refine ⟨?_, hserved.toKept.clocked, hserved.unread, hserved.discards, hserved.flushes⟩
  show repeatTurn (driveTurn (budget + 1) target c.now) (budget + 1) c.clocked = _
  rw [repeatTurn, hturn]

/-- **The answer of a wait means what it says**, wherever a client is led. And a wait for what the first run of the pump
brings, if that is not too late, drops and flushes nothing. -/
theorem wait_outcome (hlived : Lived c) (htick : 0 < c.tick) (hadmitted : c.lifecycle.mayPump = .ok ())
    (target : EngineState) :
    ∃ r c', Settles (fun budget => c.runUntil budget target) (r, c') ∧ WaitOutcome c target r c' ∧
      ∀ state c₁, Settles (fun budget => c.clocked.pump budget) (state, c₁) → state.intersects target = true →
        state.closed = false → c.tick + (c₁.now - c.clocked.now) ≤ c.config.timeoutMs →
        r = .ok () ∧ c' = c₁.clocked ∧ Served c c' := by
  have hok : c.status = .ok := Lifecycle.mayPump_ok hadmitted
  have hblamed : Blamed c := hlived.blamed
  have hrun (budget : Nat) : c.runUntil budget target = c.drive budget target := by
    simp only [runUntil, hadmitted]
  obtain ⟨⟨r, c'⟩, hsettles⟩ := runUntil_settles htick target
  obtain ⟨budget, hwait⟩ := hsettles.some
  rw [hrun] at hwait
  refine ⟨r, c', hsettles, drive_outcome hblamed hok hwait, ?_⟩
  rintro state c₁ ⟨enough, hpump⟩ htarget hopen htime
  obtain ⟨hfirst, hserved⟩ :=
    drive_of_first_run hblamed hok (hpump (enough + 1) (Nat.le_succ _)) htarget hopen htime
  have hsame : Settles (fun budget => c.runUntil budget target) (.ok (), c₁.clocked) :=
    Settles.congr (.of_mono drive_mono hfirst) hrun
  obtain ⟨rfl, rfl⟩ := Prod.mk.inj (hsettles.unique hsame)
  exact ⟨rfl, rfl, hserved⟩

/-- the peer has sent three bytes: the first run of the pump brings them, and nothing else happens -/
theorem wait_outcome_bytes_there :
    ∃ c : Client SimBoard 1, Lived c ∧ 0 < c.tick ∧ c.lifecycle.mayPump = .ok () ∧
      ∃ c', Settles (fun budget => c.runUntil budget { recvApp := true }) (.ok (), c') ∧ c'.pending = 0 ∧
        Served c c' := by
  have hplayed :
      (newcomer.undergo 50
          [.request (.connect (.name "a") 443 fun _ => []), .socket (.push [7, 8, 9])]).map
          (fun s => (s.2.tick, s.2.lifecycle.mayPump.toOption,
            (s.2.clocked.pump 50).map fun r => (r.1.intersects { recvApp := true }, r.1.closed,
              decide (s.2.tick + (r.2.now - s.2.clocked.now) ≤ s.2.config.timeoutMs)))) =
        some (1, some (), some (true, false, true)) := by
    decide +kernel
  obtain ⟨⟨log, c⟩, hrun, heq⟩ := Option.map_eq_some_iff.1 hplayed
  have hlived : Lived c := (Lived.new _ _).of_undergo hrun
  obtain ⟨htick, hadmitted, hpumped⟩ : c.tick = 1 ∧ c.lifecycle.mayPump.toOption = some () ∧
      (c.clocked.pump 50).map (fun r => (r.1.intersects { recvApp := true }, r.1.closed,
        decide (c.tick + (r.2.now - c.clocked.now) ≤ c.config.timeoutMs))) = some (true, false, true) := by
    simpa using heq
  have hticks : 0 < c.tick := by
    rw [htick]
    decide
  have hmay : c.lifecycle.mayPump = .ok () := by
    cases hguard : c.lifecycle.mayPump with
    | error e => simp [hguard, Except.toOption] at hadmitted
    | ok u => rfl
  obtain ⟨⟨state, c₁⟩, hpump, heq⟩ := Option.map_eq_some_iff.1 hpumped
  obtain ⟨htarget, hopen, htime⟩ : state.intersects { recvApp := true } = true ∧ state.closed = false ∧
      c.tick + (c₁.now - c.clocked.now) ≤ c.config.timeoutMs := by
    simpa using heq
  obtain ⟨r, c', hsettles, houtcome, hfirst⟩ := wait_outcome hlived hticks hmay { recvApp := true }
  have hsettled : Settles (fun budget => c.clocked.pump budget) (state, c₁) :=
    .of_mono pump_mono hpump
  obtain ⟨rfl, -, hserved⟩ := hfirst state c₁ hsettled htarget hopen htime
  cases houtcome with
  | reached _ _ _ hpending => exact ⟨c, hlived, hticks, hmay, _, hsettles, hpending, hserved⟩

end TlsClient.Client

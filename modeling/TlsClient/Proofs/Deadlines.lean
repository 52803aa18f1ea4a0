/-
How long a client waits on a simulated board.

A run of the pump ends because every turn that goes on uses up work, and it pauses once at most. A wait ends because the
clock goes on with every turn, and its last turn begins before the deadline has passed.
- `Later`: the settings are the same, and it is not earlier;
- `PumpTurn`, `pumpTurn_cases`: what a turn of the pump does;
- `work`, `pumpTurn_progress`: what the turns of the pump use up;
- `Late`: a client without a failure of its own has only given up on the engine after more than its deadline;
- `drive_timed`: a wait takes no longer than its deadline, one pause and two ticks;
- `Timely`: the same of every call that waits once, or only runs the pump;
- `connect_timed`: the same of a connect, whatever the engine was doing before.
-/
import TlsClient.Proofs.SoundStates

namespace TlsClient

theorem Turn.All.and {σ α : Type} {I J : σ → Prop} {P Q : α → Prop} {t : Turn σ α} (h : t.All I P) (h' : t.All J Q) :
    t.All (fun s => I s ∧ J s) (fun a => P a ∧ Q a) := by
  cases h with
  | again h => cases h' with | again h' => exact .again ⟨h, h'⟩
  | done h => cases h' with | done h' => exact .done ⟨h, h'⟩

namespace Client

variable {slots : Nat}

/-- the time of the board, in milliseconds -/
abbrev now (c : Client SimBoard slots) : Nat := c.board.time.now

/-- how long a reading of the clock takes -/
abbrev tick (c : Client SimBoard slots) : Nat := c.board.time.tick

/-- how long one wait may take: its deadline, a pause, and the ticks of the first and the last reading of the clock -/
def waitLimit (c : Client SimBoard slots) : Nat := c.config.timeoutMs + c.config.pollDelayMs + 2 * c.tick

/-! ## Time goes on -/

/-- the settings are the same, and it is not earlier -/
structure Later (c c' : Client SimBoard slots) : Prop where
  config : c'.config = c.config
  tick : c'.tick = c.tick
  now : c.now ≤ c'.now

theorem Later.refl (c : Client SimBoard slots) : Later c c := ⟨rfl, rfl, Nat.le_refl _⟩

theorem Later.trans {c c' c'' : Client SimBoard slots} (h : Later c c') (h' : Later c' c'') : Later c c'' :=
  ⟨h'.config.trans h.config, h'.tick.trans h.tick, Nat.le_trans h.now h'.now⟩

theorem Later.waitLimit {c c' : Client SimBoard slots} (h : Later c c') : c'.waitLimit = c.waitLimit := by
  rw [Client.waitLimit, Client.waitLimit, h.config, h.tick]

theorem Move.later {c c' : Client SimBoard slots} {f : Flow} (h : Move c f c') : Later c c' := by
  cases h with
  | waited => exact ⟨rfl, rfl, Nat.le_add_right _ _⟩
  | clock => exact ⟨rfl, rfl, Nat.le_add_right _ _⟩
  | @failed s c₁ _ hharm =>
    have hconfig : c₁.config = c.config := by rw [hharm.rest]
    rw [fail_eq]
    exact ⟨hconfig, congrArg SimTime.tick hharm.time, Nat.le_of_eq (congrArg SimTime.now hharm.time.symm)⟩
  | down =>
    rw [teardown_eq]
    exact ⟨rfl, rfl, Nat.le_refl _⟩
  | _ => exact ⟨rfl, rfl, Nat.le_refl _⟩

theorem Steps.later {c c' : Client SimBoard slots} {f : Flow} (h : Steps c f c') : Later c c' :=
  h.invariant (I := fun _ c' => Later c c') (fun hlater hstep => hlater.trans hstep.move.later) (.refl c)

/-- a failure takes no time -/
theorem time_fail {c c' : Client SimBoard slots} (h : Harmed c c') (s : Status) :
    (c'.fail s).board.time = c.board.time := by
  rw [fail_eq]
  exact h.time

/-! ## The pump -/

/-- the work that is left for the pump. What is stored counts twice: it is handed over, and then sent. -/
def work (c : Client SimBoard slots) : Nat := 2 * c.pending + c.engine.outgoing.length + c.socket.incoming.length

/-- a piece of work took no time, and there is less of it -/
structure Worked (c c' : Client SimBoard slots) : Prop where
  less : c'.work < c.work
  time : c'.board.time = c.board.time
  config : c'.config = c.config

theorem sendRecord_worked {c c' : Client SimBoard slots} (hsend : c.engine.state.sendRec = true)
    (h : c.sendRecord = (.ok (), c')) : Worked c c' := by
  rcases sendRecord_cases hsend h with ⟨_, hr, -⟩ | ⟨count, -, -, -, hpos, hle, rfl⟩
  · cases hr
  · refine ⟨?_, rfl, rfl⟩
    show 2 * c.pending + (c.engine.outgoing.drop (count + c.socket.overreport)).length + c.socket.incoming.length <
      2 * c.pending + c.engine.outgoing.length + c.socket.incoming.length
    rw [List.length_drop]
    omega

theorem handOver_worked {c c' : Client SimBoard slots} (hpending : 0 < c.pending)
    (h : c.handOver c.engine.state = (.ok (), c')) : Worked c c' := by
  rcases handOver_cases hpending h with ⟨_, hr, -⟩ | ⟨-, -, hle, rfl⟩
  · cases hr
  · refine ⟨?_, rfl, rfl⟩
    show 2 * 0 + (c.engine.outgoing ++ c.engine.fitted.take c.pending).length + c.socket.incoming.length <
      2 * c.pending + c.engine.outgoing.length + c.socket.incoming.length
    rw [List.length_append, List.length_take, SimEngine.length_fitted, Nat.min_eq_left hle]
    omega

theorem receiveRecord_worked {c c' : Client SimBoard slots} (hrecv : c.engine.state.recvRec = true)
    (h : c.receiveRecord = (.ok .record, c')) : Worked c c' := by
  rcases receiveRecord_cases hrecv h with ⟨_, hr, -⟩ | ⟨hr, -⟩ | ⟨count, -, hpos, -, hle, -, rfl⟩
  · cases hr
  · cases hr
  · refine ⟨?_, rfl, rfl⟩
    show 2 * c.pending + (c.engine.receive (c.socket.incoming.take count)).outgoing.length +
      (c.socket.incoming.drop count).length < 2 * c.pending + c.engine.outgoing.length + c.socket.incoming.length
    obtain ⟨phase, unread, session, handshakes, hreceive⟩ := c.engine.receive_frame (c.socket.incoming.take count)
    rw [hreceive, List.length_drop]
    show 2 * c.pending + c.engine.outgoing.length + (c.socket.incoming.length - count) < _
    omega

/-- the end of a run of the pump that began with `c`: it has paused once at most, and not given up on a sound engine -/
structure PumpRest (c c' : Client SimBoard slots) : Prop where
  time : c'.board.time = c.board.time ∨ c'.board.time = c.board.time.delayMs c.config.pollDelayMs
  patient : Sound c → c'.status ≠ .engineWrite

theorem PumpRest.refl {c : Client SimBoard slots} (hok : c.status = .ok) : PumpRest c c :=
  ⟨.inl rfl, fun _ => by rw [hok]; decide⟩

/-- a step that failed ends the pump -/
theorem PumpRest.of_cause {c c' : Client SimBoard slots} {s : Status} (hok : c.status = .ok) (hcause : Cause c s)
    (hharm : Harmed c c') : PumpRest c (c'.fail s) := by
  refine ⟨.inl (time_fail hharm s), ?_⟩
  intro hsound
  have hstatus : (c'.fail s).status = s := by
    apply status_fail
    rw [hharm.rest]
    exact hok
  rw [hstatus]
  rcases hsound.blame hcause with rfl | rfl
  · decide
  · decide

/-- the socket was polled in vain, and a pause followed -/
def paused (c : Client SimBoard slots) : Client SimBoard slots :=
  { c with
    board.socket.polls := c.socket.polls + 1
    board.time := c.board.time.delayMs c.config.pollDelayMs }

/-- what a turn of the pump does: the first thing that there is to do -/
inductive PumpTurn (c : Client SimBoard slots) :
    Turn (Client SimBoard slots) (EngineState × Client SimBoard slots) → Prop
  /-- the engine is closed -/
  | closed (hclosed : c.engine.state.closed = true) : PumpTurn c (.done (c.engine.state, c))
  /-- queued ciphertext was sent -/
  | sent {c'} (hsend : c.engine.state.sendRec = true) (h : c.sendRecord = (.ok (), c')) : PumpTurn c (.again c')
  /-- stored plaintext was handed over -/
  | handed {c'} (hpending : 0 < c.pending) (h : c.handOver c.engine.state = (.ok (), c')) : PumpTurn c (.again c')
  /-- a record came in -/
  | received {c'} (hsend : c.engine.state.sendRec = false) (hpending : c.pending = 0)
      (hrecv : c.engine.state.recvRec = true) (h : c.receiveRecord = (.ok .record, c')) : PumpTurn c (.again c')
  /-- the engine waits for ciphertext, and the peer has sent nothing -/
  | waited (hopen : c.engine.state.closed = false) (hsend : c.engine.state.sendRec = false) (hpending : c.pending = 0)
      (hrecv : c.engine.state.recvRec = true) (hup : c.socket.isConnected = true)
      (hnone : capAt c.socket.availableChunk c.socket.incoming.length = 0) :
      PumpTurn c (.done (c.engine.state, c.paused))
  /-- there is nothing to do, and the engine does not wait for ciphertext -/
  | rested (hopen : c.engine.state.closed = false) (hsend : c.engine.state.sendRec = false) (hpending : c.pending = 0)
      (hrecv : c.engine.state.recvRec = false) : PumpTurn c (.done (c.engine.state, c))
  /-- what there was to do has failed -/
  | failed {s c'} (hcause : Cause c s) (hharm : Harmed c c') : PumpTurn c (.done (.invalid, c'.fail s))

/-- the turns of the pump are those of the code, in its order -/
theorem pumpTurn_cases (c : Client SimBoard slots) : PumpTurn c c.pumpTurn := by
  simp only [pumpTurn, afterStep]
  by_cases hclosed : c.flags.closed = true
  · rw [if_pos hclosed]
    exact .closed hclosed
  rw [if_neg hclosed]
  rw [Bool.not_eq_true] at hclosed
  by_cases hsend : c.flags.sendRec = true
  · rw [if_pos hsend]
    rcases hr : c.sendRecord with ⟨s | ⟨⟩, c'⟩
    · rcases sendRecord_cases hsend hr with ⟨_, hs, hcause, hharm⟩ | ⟨_, hs, -⟩ <;> cases hs
      exact .failed hcause hharm
    · exact .sent hsend hr
  rw [if_neg hsend]
  rw [Bool.not_eq_true] at hsend
  by_cases hpending : 0 < c.backlog.pending
  · rw [if_pos hpending]
    rcases hr : c.handOver c.flags with ⟨s | ⟨⟩, c'⟩
    · rcases handOver_cases hpending hr with ⟨_, hs, hcause, hharm⟩ | ⟨hs, -⟩ <;> cases hs
      exact .failed hcause hharm
    · exact .handed hpending hr
  rw [if_neg hpending]
  have hpending : c.pending = 0 := Nat.eq_zero_of_not_pos hpending
  by_cases hrecv : c.flags.recvRec = true
  · rw [if_pos hrecv]
    rcases hr : c.receiveRecord with ⟨s | got, c'⟩
    · rcases receiveRecord_cases hrecv hr with ⟨_, hs, hcause, hharm⟩ | ⟨hs, -⟩ | ⟨_, hs, -⟩ <;> cases hs
      exact .failed hcause hharm
    cases got with
    | record => exact .received hsend hpending hrecv hr
    | nothing =>
      rcases receiveRecord_cases hrecv hr with ⟨_, hs, -⟩ | ⟨-, hnone, hup, rfl⟩ | ⟨_, hs, -⟩
      · cases hs
      · exact .waited hclosed hsend hpending hrecv hup hnone
      · cases hs
  · rw [if_neg hrecv]
    rw [Bool.not_eq_true] at hrecv
    exact .rested hclosed hsend hpending hrecv

/-- **A turn after which the pump goes on has used up work and no time.** -/
theorem pumpTurn_progress (c : Client SimBoard slots) (hok : c.status = .ok) :
    c.pumpTurn.All (Worked c) (fun r => PumpRest c r.2) := by
  have hturn := pumpTurn_cases c
  generalize c.pumpTurn = t at hturn
  cases hturn with
  | closed => exact .done (.refl hok)
  | sent hsend h => exact .again (sendRecord_worked hsend h)
  | handed hpending h => exact .again (handOver_worked hpending h)
  | received _ _ hrecv h => exact .again (receiveRecord_worked hrecv h)
  | waited =>
    have hstatus : c.paused.status = .ok := hok
    exact .done ⟨.inr rfl, fun _ => by rw [hstatus]; decide⟩
  | rested => exact .done (.refl hok)
  | failed hcause hharm => exact .done (.of_cause hok hcause hharm)

/-- **A run of the pump pauses once at most**, and never gives up on a sound engine. -/
theorem pump_timed {budget : Nat} {c c' : Client SimBoard slots} {state : EngineState} (hok : c.status = .ok)
    (h : c.pump budget = some (state, c')) :
    c'.now ≤ c.now + c.config.pollDelayMs ∧ (Sound c → c'.status ≠ .engineWrite) := by
  refine repeatTurn_all
    (I := fun c' => Steps c {} c' ∧ c'.lifecycle = c.lifecycle ∧ c'.board.time = c.board.time)
    (Q := fun r => r.2.now ≤ c.now + c.config.pollDelayMs ∧ (Sound c → r.2.status ≠ .engineWrite)) ?_
    ⟨.refl, rfl, rfl⟩ h
  rintro c₁ t ⟨hs, hlife, htime⟩ ht
  have hok₁ : c₁.status = .ok := (status_of_lifecycle hlife).trans hok
  have hturn := (pumpTurn_spec c₁ hok₁).and (pumpTurn_progress c₁ hok₁)
  rw [Option.some.inj ht] at hturn
  refine hturn.imp ?_ ?_
  · rintro c₂ ⟨⟨hstep, hlife₂⟩, hworked⟩
    exact ⟨hs.quiet hstep, hlife₂.trans hlife, hworked.time.trans htime⟩
  · rintro r ⟨-, hrest⟩
    refine ⟨?_, fun hsound => hrest.patient (hs.sound hsound)⟩
    have hconfig := hs.later.config
    rcases hrest.time with hsame | hpaused
    · rw [now, hsame, htime]
      exact Nat.le_add_right _ _
    · rw [now, hpaused, htime, hconfig]
      exact Nat.le_refl _

/-! ## Waiting -/

/-- a client without a failure of its own gives up on a sound engine only after more than its deadline -/
def Late (c c' : Client SimBoard slots) : Prop :=
  Sound c → c.status ≠ .engineWrite → c'.status = .engineWrite → c.now + c.config.timeoutMs < c'.now

theorem Late.of_status {c c' : Client SimBoard slots} (h : c'.status = c.status) : Late c c' :=
  fun _ hfresh hfailed => absurd (h ▸ hfailed) hfresh

theorem Late.trans {c c' c'' : Client SimBoard slots} {f g : Flow} (hs : Steps c f c') (hs' : Steps c' g c'')
    (h : Late c c') (h' : Late c' c'') : Late c c'' := by
  intro hsound hfresh hfailed
  have hconfig := hs.later.config
  have hnow := hs.later.now
  have hnow' := hs'.later.now
  by_cases hmiddle : c'.status = .engineWrite
  · exact Nat.lt_of_lt_of_le (h hsound hfresh hmiddle) hnow'
  · have hlate := h' (hs.sound hsound) hmiddle hfailed
    rw [hconfig] at hlate
    omega

/-- a call that began with `c` took no longer than its limit, if it has one, and gave up late -/
structure Timely (limit : Option Nat) (c c' : Client SimBoard slots) : Prop where
  within : ∀ ms ∈ limit, c'.now ≤ c.now + ms
  late : Late c c'

theorem Timely.refl (limit : Option Nat) (c : Client SimBoard slots) : Timely limit c c :=
  ⟨fun _ _ => Nat.le_add_right _ _, .of_status rfl⟩

/-- what comes after takes no time and fails no more -/
theorem Timely.after {limit : Option Nat} {c c' c'' : Client SimBoard slots} (h : Timely limit c c')
    (htime : c''.board.time = c'.board.time) (hstatus : c''.status = c'.status) : Timely limit c c'' := by
  refine ⟨?_, ?_⟩
  · rw [now, htime]
    exact h.within
  · rw [Late, hstatus, now, now, htime]
    exact h.late

/-- what comes before takes no time and does not fail -/
theorem Timely.before {c c' c'' : Client SimBoard slots} {f : Flow} (hs : Steps c f c')
    (htime : c'.board.time = c.board.time) (hstatus : c'.status = c.status) (h : Timely (some c'.waitLimit) c' c'') :
    Timely (some c.waitLimit) c c'' := by
  have hlater := hs.later
  have hnow : c'.now = c.now := congrArg SimTime.now htime
  refine ⟨?_, ?_⟩
  · rw [← hlater.waitLimit, ← hnow]
    exact h.within
  · intro hsound hfresh hfailed
    have hlate := h.late (hs.sound hsound) (hstatus ▸ hfresh) hfailed
    rwa [hlater.config, hnow] at hlate

/-- a wait is given up only after its deadline, or because the engine has nothing of what it reports -/
theorem judge_timed (target : EngineState) {state : EngineState} {start : Nat} {c : Client SimBoard slots}
    (hstate : c.status = .ok → state = c.flags) (hstart : start ≤ c.now) :
    (c.judge target start state).All
      (fun c' => c.now ≤ start + c.config.timeoutMs ∧ c'.now = c.now + c.tick)
      (fun r => r.2.now ≤ c.now + c.tick ∧
        (Sound c → c.status ≠ .engineWrite → r.2.status = .engineWrite → start + c.config.timeoutMs < r.2.now)) := by
  have hsame : c.now ≤ c.now + c.tick ∧
      (Sound c → c.status ≠ .engineWrite → c.status = .engineWrite → start + c.config.timeoutMs < c.now) :=
    ⟨Nat.le_add_right _ _, fun _ hfresh hfailed => absurd hfailed hfresh⟩
  simp only [judge]
  split_ifs with habort hclosed hisOk hlate hreached
  · exact .done hsame
  · exact .done hsame
  · exact .done hsame
  · have hlate : c.config.timeoutMs < c.now - start := hlate
    have htime : (c.clocked.fail .engineWrite).board.time = c.board.time.read.2 := time_fail (.refl c.clocked) _
    refine .done ⟨Nat.le_of_eq (congrArg SimTime.now htime), fun _ _ _ => ?_⟩
    rw [show (c.clocked.fail .engineWrite).now = c.now + c.tick from congrArg SimTime.now htime]
    omega
  · exact .done ⟨Nat.le_refl _, fun _ hfresh hfailed => absurd hfailed hfresh⟩
  · have hlate : ¬c.config.timeoutMs < c.now - start := hlate
    have hagain : c.now ≤ start + c.config.timeoutMs := by omega
    have hok : c.lifecycle.status = .ok := by simpa [Status.isOk] using hisOk
    simp only [resolve]
    split_ifs with hdiscard
    · simp only [discardUnread]
      split_ifs with hunread
      · have htime : (c.clocked.fail .engineWrite).board.time = c.board.time.read.2 := time_fail (.refl c.clocked) _
        refine .done ⟨Nat.le_of_eq (congrArg SimTime.now htime), fun hsound _ _ => ?_⟩
        have hrecv : c.engine.state.recvApp = true := by
          rw [Bool.and_eq_true, hstate hok] at hdiscard
          exact hdiscard.1
        exact absurd (List.length_eq_zero_iff.1 hunread) ((SimEngine.recvApp_iff hsound.engine.natural).1 hrecv).2.2
      · exact .again ⟨hagain, rfl⟩
    · exact .again ⟨hagain, rfl⟩
    · exact .again ⟨hagain, rfl⟩

/-- **A turn after which a wait goes on began before the deadline, and took a tick at least.** -/
theorem driveTurn_timed {budget : Nat} {target : EngineState} {start : Nat} {c : Client SimBoard slots}
    {t : Turn (Client SimBoard slots) (Except Error Unit × Client SimBoard slots)} (hok : c.status = .ok)
    (hstart : start ≤ c.now) (ht : driveTurn budget target start c = some t) :
    t.All
      (fun c' => (Steps c {} c' ∧ c'.lifecycle = c.lifecycle) ∧ c.now ≤ start + c.config.timeoutMs ∧
        c.now + c.tick ≤ c'.now ∧ c'.now ≤ start + c.config.timeoutMs + c.tick)
      (fun r => r.2.now ≤ c.now + c.config.pollDelayMs + c.tick ∧
        (Sound c → r.2.status = .engineWrite → start + c.config.timeoutMs < r.2.now)) := by
  obtain ⟨⟨state, c₁⟩, hpump, rfl⟩ := Option.map_eq_some_iff.1 ht
  obtain ⟨hs, hend⟩ := pump_spec hok hpump
  obtain ⟨hpause, hpatient⟩ := pump_timed hok hpump
  obtain ⟨hconfig, htick, hnow⟩ := hs.later
  have hjudge := judge_timed target (fun hok₁ => (hend.flags_eq hok₁).1) (Nat.le_trans hstart hnow)
  rw [hconfig, htick] at hjudge
  refine ((judge_spec hend).and hjudge).imp ?_ ?_
  · rintro c₂ ⟨⟨hs₂, hlife₂⟩, hagain, hnow₂⟩
    exact ⟨⟨hs.trans hs₂, hlife₂⟩, by omega, by omega, by omega⟩
  · rintro r ⟨-, hnow₂, hlate⟩
    exact ⟨by omega, fun hsound hfailed => hlate (hs.sound hsound) (hpatient hsound) hfailed⟩

/-- **A wait takes no longer than its deadline, one pause and two ticks**, and gives up on a sound engine only after its
deadline. -/
theorem drive_timed {budget : Nat} {target : EngineState} {c c' : Client SimBoard slots} {r : Except Error Unit}
    (hok : c.status = .ok) (h : c.drive budget target = some (r, c')) : Timely (some c.waitLimit) c c' := by
  suffices hends : c'.now ≤ c.now + c.waitLimit ∧ Late c c' from ⟨fun _ hms => Option.some.inj hms ▸ hends.1, hends.2⟩
  refine repeatTurn_all
    (I := fun c' => (Steps c {} c' ∧ c'.lifecycle = c.lifecycle) ∧ c'.now ≤ c.now + c.config.timeoutMs + c.tick)
    (Q := fun r => r.2.now ≤ c.now + c.waitLimit ∧ Late c r.2) ?_
    ⟨⟨Step.clock.steps, rfl⟩, ?_⟩ h
  · rintro c₁ t ⟨⟨hs, hlife⟩, hnow₁⟩ ht
    have hok₁ : c₁.status = .ok := (status_of_lifecycle hlife).trans hok
    obtain ⟨hconfig, htick, hnow⟩ := hs.later
    have hturn := driveTurn_timed hok₁ hnow ht
    rw [hconfig, htick] at hturn
    refine hturn.imp ?_ ?_
    · rintro c₂ ⟨⟨hs₂, hlife₂⟩, -, -, hnow₂⟩
      exact ⟨⟨hs.trans hs₂, hlife₂.trans hlife⟩, hnow₂⟩
    · rintro r ⟨hnow₂, hlate⟩
      refine ⟨?_, fun hsound _ hfailed => hlate (hs.sound hsound) hfailed⟩
      simp only [waitLimit]
      omega
  · have hclock : c.clocked.now = c.now + c.tick := rfl
    omega

/-! ## Calls that wait once, or only run the pump -/

theorem pump_timely {budget : Nat} {c c' : Client SimBoard slots} {state : EngineState} (hok : c.status = .ok)
    (h : c.pump budget = some (state, c')) : Timely (some c.config.pollDelayMs) c c' := by
  obtain ⟨hpause, hpatient⟩ := pump_timed hok h
  exact ⟨fun _ hms => Option.some.inj hms ▸ hpause, fun hsound _ hfailed => absurd hfailed (hpatient hsound)⟩

theorem update_timely {budget : Nat} {c c' : Client SimBoard slots} {r : Except Error EngineState}
    (h : c.update budget = some (r, c')) : Timely (some c.config.pollDelayMs) c c' := by
  unfold update at h
  cases hguard : c.lifecycle.mayPump with
  | error e =>
    rw [hguard] at h
    cases h
    exact .refl _ c
  | ok u =>
    rw [hguard] at h
    obtain ⟨⟨state, c₁⟩, hpump, heq⟩ := Option.map_eq_some_iff.1 h
    have hc : c₁ = c' := by
      simp only at heq
      split_ifs at heq <;> exact congrArg Prod.snd heq
    exact hc ▸ pump_timely (Lifecycle.mayPump_ok hguard) hpump

theorem available_timely {budget : Nat} {c c' : Client SimBoard slots} {r : Except Error Nat}
    (h : c.available budget = some (r, c')) : Timely (some c.config.pollDelayMs) c c' := by
  unfold available at h
  cases hguard : c.lifecycle.softConnected (Engine.state c.board) with
  | error e =>
    rw [hguard] at h
    cases h
    exact .refl _ c
  | ok u =>
    rw [hguard] at h
    obtain ⟨hok, -, -⟩ := Lifecycle.softConnected_ok hguard
    obtain ⟨⟨state, c₁⟩, hpump, heq⟩ := Option.map_eq_some_iff.1 h
    obtain rfl : (c₁.countUnread state).2 = c' := congrArg Prod.snd heq
    have hpumped := pump_timely hok hpump
    unfold countUnread
    split_ifs
    all_goals exact hpumped.after rfl rfl

theorem takeUnread_timely {limit : Option Nat} {c c' : Client SimBoard slots} (h : Timely limit c c') (room : Nat) :
    Timely limit c (c'.takeUnread room).2 := by
  rw [takeUnread_eq]
  exact h.after rfl rfl

theorem read_timely {budget room : Nat} {c c' : Client SimBoard slots} {r : Except Error Bytes}
    (h : c.read budget room = some (r, c')) : Timely (some c.config.pollDelayMs) c c' := by
  unfold read at h
  split_ifs at h with hroom
  · cases h
    exact .refl _ c
  cases havail : c.available budget with
  | none => simp [havail, Result.andThen] at h
  | some answer =>
    obtain ⟨counted, c₁⟩ := answer
    have hcounted := available_timely havail
    rw [havail] at h
    cases counted with
    | error e =>
      cases h
      exact hcounted
    | ok count =>
      simp only [Result.andThen] at h
      split_ifs at h with hcount
      · cases h
        exact hcounted
      · cases h
        exact takeUnread_timely hcounted room

theorem peek_timely {budget : Nat} {c c' : Client SimBoard slots} {r : Except Error (Option UInt8)}
    (h : c.peek budget = some (r, c')) : Timely (some c.config.pollDelayMs) c c' := by
  unfold peek at h
  cases havail : c.available budget with
  | none => simp [havail, Result.andThen] at h
  | some answer =>
    obtain ⟨counted, c₁⟩ := answer
    have hcounted := available_timely havail
    rw [havail] at h
    cases counted <;> cases h <;> exact hcounted

theorem readReady_timely {budget : Nat} {c c' : Client SimBoard slots} {r : Except Error Bool}
    (h : c.readReady budget = some (r, c')) : Timely (some c.config.pollDelayMs) c c' := by
  obtain ⟨⟨counted, c₁⟩, havail, heq⟩ := Option.map_eq_some_iff.1 h
  have hcounted := available_timely havail
  have hc : c₁ = c' := by
    simp only at heq
    split at heq <;> exact congrArg Prod.snd heq
  exact hc ▸ hcounted

theorem runUntil_timely {budget : Nat} {target : EngineState} {c c' : Client SimBoard slots} {r : Except Error Unit}
    (h : c.runUntil budget target = some (r, c')) : Timely (some c.waitLimit) c c' := by
  unfold runUntil at h
  cases hguard : c.lifecycle.mayPump with
  | error e =>
    rw [hguard] at h
    cases h
    exact .refl _ c
  | ok u =>
    rw [hguard] at h
    exact drive_timed (Lifecycle.mayPump_ok hguard) h

theorem flush_timely {budget : Nat} {c c' : Client SimBoard slots} {r : Except Error Unit}
    (h : c.flush budget = some (r, c')) : Timely (some c.waitLimit) c c' := by
  unfold flush at h
  cases hguard : c.lifecycle.mayPump with
  | error e =>
    rw [hguard] at h
    cases h
    exact .refl _ c
  | ok u =>
    rw [hguard] at h
    simp only at h
    split_ifs at h with hpending
    · cases h
      exact .refl _ c
    · exact drive_timed (Lifecycle.mayPump_ok hguard) h

theorem blockingRead_timely {budget room : Nat} {c c' : Client SimBoard slots} {r : Except Error Bytes}
    (h : c.blockingRead budget room = some (r, c')) : Timely (some c.waitLimit) c c' := by
  unfold blockingRead at h
  split_ifs at h with hroom
  · cases h
    exact .refl _ c
  cases hguard : c.lifecycle.softConnected (Engine.state c.board) with
  | error e =>
    rw [hguard] at h
    cases e <;> cases h <;> exact .refl _ c
  | ok u =>
    rw [hguard] at h
    obtain ⟨hok, -, -⟩ := Lifecycle.softConnected_ok hguard
    obtain ⟨⟨waited, c₁⟩, hdrive, heq⟩ := Option.map_eq_some_iff.1 h
    have hwaited := drive_timed hok hdrive
    cases waited with
    | ok u =>
      cases heq
      exact takeUnread_timely hwaited room
    | error e => cases e <;> cases heq <;> exact hwaited

/-- to fill a buffer may take many waits, and the first that fails is the last -/
theorem readExact_late {budget length : Nat} {c c' : Client SimBoard slots} {r : Except FillError Bytes}
    (h : c.readExact budget length = some (r, c')) : Late c c' := by
  induction length using Nat.strongRecOn generalizing c r with
  | ind length ih =>
    unfold readExact at h
    split_ifs at h with hlength
    · cases h
      exact .of_status rfl
    split at h
    · simp at h
    · next e c₁ hread =>
      cases h
      exact (blockingRead_timely hread).late
    · next c₁ hread =>
      cases h
      exact (blockingRead_timely hread).late
    · next byte more c₁ hread =>
      obtain ⟨⟨r₂, c₂⟩, hrest, heq⟩ := Option.map_eq_some_iff.1 h
      cases heq
      obtain ⟨_, hs₂, -⟩ := readExact_spec hrest
      cases blockingRead_spec hread with
      | bytes hs => exact .trans hs hs₂ (blockingRead_timely hread).late (ih _ (by omega) hrest)

theorem teardown_timely {limit : Option Nat} {c c' : Client SimBoard slots} (h : Timely limit c c') :
    Timely limit c c'.teardown :=
  h.after (by rw [teardown_eq]) (status_teardown c')

theorem stop_timely {budget : Nat} {c c' : Client SimBoard slots} (h : c.stop budget = some c') :
    Timely (some c.waitLimit) c c' := by
  simp only [stop] at h
  split_ifs at h with hopen hup
  · obtain ⟨c₁, hclose, rfl⟩ := Option.map_eq_some_iff.1 h
    obtain ⟨⟨r, c₂⟩, hflush, rfl⟩ := Option.map_eq_some_iff.1 hclose
    have hconnected : c.lifecycle.engineConnected = true := by
      simp only [Bool.and_eq_true] at hopen
      exact hopen.1.1
    have hpoll : Steps c {} c.polled := Step.poll.steps
    have hs := (hpoll.snoc (.closing hconnected)).quiet (.drop (Engine.state c.board) rfl)
    refine teardown_timely (.before hs ?_ ?_ (flush_timely hflush))
    · rw [dropUnread_eq]
      rfl
    · rw [dropUnread_eq]
      rfl
  · cases h
    exact teardown_timely (c := c) (.refl _ c)
  · cases h
    exact teardown_timely (.refl _ c)

theorem connected_timely (c : Client SimBoard slots) : Timely (some 0) c c.connected.2 := by
  simp only [connected]
  split_ifs
  · have htime : (c.polled.fail .transportWrite).board.time = c.board.time := time_fail (.refl c.polled) _
    refine ⟨fun ms _ => ?_, ?_⟩
    · rw [now, now, htime]
      exact Nat.le_add_right _ _
    · by_cases hok : c.status = .ok
      · intro _ _ hfailed
        rw [status_fail (c := c.polled) hok] at hfailed
        cases hfailed
      · have hstatus : c.polled.lifecycle.status ≠ .ok := hok
        apply Late.of_status
        rw [fail, status_teardown, status, Lifecycle.fail_of_status hstatus]
        rfl
  · exact .refl _ c

/-- to start a handshake takes no time -/
theorem launched_time (draw : Nat → Bytes) (host : Host) (portNumber : Nat) (c : Client SimBoard slots) :
    (c.launched draw host portNumber).board.time = c.board.time := by
  simp only [launched, prepared_eq]
  rfl

/-- the end of a handshake takes no time -/
theorem concludeHandshake_time (server : Option String) (waited : Except Error Unit) (c : Client SimBoard slots) :
    (concludeHandshake server (waited, c)).2.board.time = c.board.time := by
  cases waited with
  | ok u =>
    rw [concludeHandshake, keepSession_eq]
  | error e =>
    simp only [concludeHandshake]
    split_ifs
    · exact time_fail (.refl c) _
    · rfl

/-- the end of a handshake puts no other failure on record than that the connect failed -/
theorem concludeHandshake_status (server : Option String) (waited : Except Error Unit) (c : Client SimBoard slots) :
    (concludeHandshake server (waited, c)).2.status = c.status ∨
      (concludeHandshake server (waited, c)).2.status = .engineConnect := by
  cases waited with
  | ok u =>
    rw [concludeHandshake, keepSession_eq]
    exact .inl rfl
  | error e =>
    simp only [concludeHandshake]
    split_ifs with hisOk
    · exact .inr (status_fail ((Status.isOk_iff _).1 hisOk) _)
    · exact .inl rfl

/-- **A connect takes no longer than a wait**, and on a board that behaves it gives up on the engine only after its
deadline. -/
theorem connect_timed {budget : Nat} {draw : Nat → Bytes} {host : Host} {portNumber : Nat}
    {c c' : Client SimBoard slots} {r : Except Error Unit} (h : c.connect budget draw host portNumber = some (r, c')) :
    c'.now ≤ c.now + c.waitLimit ∧ (Conforming c → c.status ≠ .engineWrite → c'.status = .engineWrite →
      c.now + c.config.timeoutMs < c'.now) := by
  rw [connect_eq] at h
  split_ifs at h with hup
  · cases h
    exact ⟨Nat.le_add_right _ _, fun _ hfresh hfailed => absurd hfailed hfresh⟩
  split at h
  · cases h
    exact ⟨Nat.le_add_right _ _, nofun⟩
  have htime := launched_time draw host portNumber c
  have hok := status_launched draw host portNumber c
  split at h
  · cases h
    have hfail : ((c.launched draw host portNumber).fail .engineConnect).now = c.now :=
      congrArg SimTime.now ((time_fail (.refl _) _).trans htime)
    rw [hfail, status_fail hok]
    exact ⟨Nat.le_add_right _ _, nofun⟩
  · next hreset =>
    obtain ⟨⟨waited, c₁⟩, hdrive, heq⟩ := Option.map_eq_some_iff.1 h
    obtain ⟨hlimit, hlate⟩ := drive_timed hok hdrive
    have hnow : (concludeHandshake host.name? (waited, c₁)).2.now = c₁.now :=
      congrArg SimTime.now (concludeHandshake_time host.name? waited c₁)
    have hstatus := concludeHandshake_status host.name? waited c₁
    have hstart : (c.launched draw host portNumber).now = c.now := congrArg SimTime.now htime
    have hconfig : (c.launched draw host portNumber).config = c.config := by rw [launched_clean]
    have hsame : (c.launched draw host portNumber).waitLimit = c.waitLimit := by
      simp only [waitLimit, hconfig, tick, htime]
    rw [heq] at hnow hstatus
    simp only at hnow hstatus
    rw [hnow]
    refine ⟨?_, ?_⟩
    · rw [← hsame, ← hstart]
      exact hlimit _ rfl
    · intro hconforms _ hfailed
      rcases hstatus with hkept | hconnect
      · have hsound := Sound.launched hconforms ((reset_prepared_iff draw host portNumber c).1 hreset) draw host portNumber
        have hpassed := hlate hsound (by rw [hok]; decide) (hkept ▸ hfailed)
        rwa [hconfig, hstart] at hpassed
      · rw [hconnect] at hfailed
        cases hfailed

end Client

end TlsClient

/-
Every call of a client on a simulated board comes to an end, and in time.

A call is run on a budget of turns. It comes to an end if every budget that is large enough yields the same answer.
- `Settles`: such an answer exists;
- `repeatTurn_settles`: a loop settles if its turns do, and a measure goes down whenever it goes on;
- `pump_settles`, `drive_settles`, `timedWrite_settles`: so do the three loops of the client. The pump uses up work, a
  wait uses up the time to its deadline, and a write uses up what is left to wait for and to store;
- `Client.limit`: how long a call may take;
- `calls_end_in_time`: every call settles within its limit, and a write waits a bounded number of times.
-/
import TlsClient.Proofs.Histories
import TlsClient.Proofs.WriteWaits

namespace TlsClient

/-! ## Answers that settle -/

section Settling

variable {σ α γ : Type}

/-- every budget that is large enough yields this answer -/
def Settles (run : Nat → Option α) (answer : α) : Prop := ∃ enough, ∀ budget, enough ≤ budget → run budget = some answer

theorem Settles.const (answer : α) : Settles (fun _ => some answer) answer := ⟨0, fun _ _ => rfl⟩

theorem Settles.map {run : Nat → Option α} {answer : α} (h : Settles run answer) (f : α → γ) :
    Settles (fun budget => (run budget).map f) (f answer) := by
  obtain ⟨enough, h⟩ := h
  exact ⟨enough, fun budget hbudget => congrArg (Option.map f) (h budget hbudget)⟩

theorem Settles.congr {run run' : Nat → Option α} {answer : α} (h : Settles run answer)
    (heq : ∀ budget, run' budget = run budget) : Settles run' answer := by
  obtain ⟨enough, h⟩ := h
  exact ⟨enough, fun budget hbudget => (heq budget).trans (h budget hbudget)⟩

/-- two operations in a row settle, if the second one runs on the same budget -/
theorem Settles.followed {run : Nat → Option α} {answer : α} (h : Settles run answer) {both next : Nat → Option γ}
    {final : γ} (hnext : Settles next final) (heq : ∀ budget, run budget = some answer → both budget = next budget) :
    Settles both final := by
  obtain ⟨enough, h⟩ := h
  obtain ⟨enough', hnext⟩ := hnext
  refine ⟨max enough enough', fun budget hbudget => ?_⟩
  exact (heq budget (h budget (by omega))).trans (hnext budget (by omega))

/-- what follows the answer of an operation needs no more turns -/
theorem Settles.andThen {β : Type} {slots : Nat} {run : Nat → Client.Result β slots α}
    {answer : Except Error α × Client β slots} (h : Settles run answer)
    {next : α → Client β slots → Client.Result β slots γ} (hnext : ∀ a c, ∃ r, next a c = Option.some r) :
    ∃ r, Settles (fun budget => (run budget).andThen next) r := by
  obtain ⟨enough, h⟩ := h
  rcases answer with ⟨e | a, c⟩
  · exact ⟨(.error e, c), enough, fun budget hbudget => congrArg (Client.Result.andThen · next) (h budget hbudget)⟩
  · obtain ⟨r, hr⟩ := hnext a c
    exact ⟨r, enough, fun budget hbudget => (congrArg (Client.Result.andThen · next) (h budget hbudget)).trans hr⟩

theorem Settles.some {run : Nat → Option α} {answer : α} (h : Settles run answer) :
    ∃ budget, run budget = Option.some answer := by
  obtain ⟨enough, h⟩ := h
  exact ⟨enough, h enough (Nat.le_refl _)⟩

/-- where a larger budget changes no answer, the first answer has settled -/
theorem Settles.of_mono {run : Nat → Option α} {answer : α} {enough : Nat}
    (hmono : ∀ {m n : Nat} {r : α}, m ≤ n → run m = Option.some r → run n = Option.some r)
    (h : run enough = Option.some answer) : Settles run answer := ⟨enough, fun _ hbudget => hmono hbudget h⟩

/-- what a number of turns yields, whatever is left of the budget -/
theorem Settles.of_add {run : Nat → Option α} {answer : α} (enough : Nat)
    (h : ∀ budget, run (budget + enough) = Option.some answer) : Settles run answer := by
  refine ⟨enough, fun budget hbudget => ?_⟩
  obtain ⟨left, rfl⟩ := Nat.exists_eq_add_of_le' hbudget
  exact h left

theorem Settles.unique {run : Nat → Option α} {answer answer' : α} (h : Settles run answer)
    (h' : Settles run answer') : answer = answer' := by
  obtain ⟨enough, h⟩ := h
  obtain ⟨enough', h'⟩ := h'
  have hboth := (h (max enough enough') (Nat.le_max_left _ _)).symm.trans (h' _ (Nat.le_max_right _ _))
  exact Option.some.inj hboth

/-- **A loop settles** if each turn does, and a measure goes down whenever it goes on. -/
theorem repeatTurn_settles (turn : Nat → σ → Option (Turn σ α)) {I : σ → Prop} (measure : σ → Nat)
    (hturn : ∀ s, I s → ∃ t, Settles (fun budget => turn budget s) t)
    (hagain : ∀ budget s s', I s → turn budget s = some (.again s') → I s' ∧ measure s' < measure s) {s : σ} (hs : I s) :
    ∃ answer, Settles (fun budget => repeatTurn (turn budget) budget s) answer := by
  -- the budget of the turns and the number of turns are kept apart, since only the latter is used up
  suffices hloop : ∃ answer enough, ∀ budget, enough ≤ budget → ∀ turns, enough ≤ turns →
      repeatTurn (turn budget) turns s = some answer by
    obtain ⟨answer, enough, h⟩ := hloop
    exact ⟨answer, enough, fun budget hbudget => h budget hbudget budget hbudget⟩
  generalize hm : measure s = m
  induction m using Nat.strongRecOn generalizing s with
  | ind m ih =>
    obtain ⟨t, enough, ht⟩ := hturn s hs
    cases t with
    | done a =>
      refine ⟨a, enough + 1, fun budget hbudget turns hturns => ?_⟩
      obtain ⟨left, rfl⟩ : ∃ left, turns = left + 1 := ⟨turns - 1, by omega⟩
      simp only [repeatTurn, ht budget (by omega)]
    | again s' =>
      obtain ⟨hs', hless⟩ := hagain enough s s' hs (ht enough (Nat.le_refl _))
      obtain ⟨answer, enough', hrest⟩ := ih (measure s') (hm ▸ hless) hs' rfl
      refine ⟨answer, max enough enough' + 1, fun budget hbudget turns hturns => ?_⟩
      obtain ⟨left, rfl⟩ : ∃ left, turns = left + 1 := ⟨turns - 1, by omega⟩
      simp only [repeatTurn, ht budget (by omega)]
      exact hrest budget (by omega) left (by omega)

end Settling

namespace Client

variable {slots : Nat} {c : Client SimBoard slots}

/-! ## The loops -/

theorem pump_settles (hok : c.status = .ok) : ∃ r, Settles (fun budget => c.pump budget) r := by
  refine repeatTurn_settles (fun _ c => some c.pumpTurn) (I := fun c : Client SimBoard slots => c.status = .ok) work
    ?_ ?_ hok
  · intro c₁ _
    exact ⟨_, .const c₁.pumpTurn⟩
  · intro budget c₁ c₂ hok₁ ht
    have hturn := (pumpTurn_spec c₁ hok₁).and (pumpTurn_progress c₁ hok₁)
    rw [Option.some.inj ht] at hturn
    cases hturn with
    | again h =>
      obtain ⟨⟨-, hlife⟩, hworked⟩ := h
      exact ⟨(status_of_lifecycle hlife).trans hok₁, hworked.less⟩

/-- a wait settles, since each of its turns takes a tick -/
theorem drive_settles (htick : 0 < c.tick) (hok : c.status = .ok) (target : EngineState) :
    ∃ r, Settles (fun budget => c.drive budget target) r := by
  refine repeatTurn_settles (fun budget => driveTurn budget target c.now)
    (I := fun c' => Steps c {} c' ∧ c'.lifecycle = c.lifecycle) (fun c' => c.now + c.config.timeoutMs + 1 - c'.now)
    ?_ ?_ ⟨Step.clock.steps, rfl⟩
  · rintro c₁ ⟨-, hlife⟩
    obtain ⟨r, hpump⟩ := pump_settles (c := c₁) ((status_of_lifecycle hlife).trans hok)
    exact ⟨_, hpump.map _⟩
  · rintro budget c₁ c₂ ⟨hs, hlife⟩ ht
    obtain ⟨hconfig, hticks, hnow⟩ := hs.later
    have hturn := driveTurn_timed ((status_of_lifecycle hlife).trans hok) hnow ht
    cases hturn with
    | again h =>
      obtain ⟨⟨hs₂, hlife₂⟩, hearly, hafter, -⟩ := h
      rw [hconfig] at hearly
      rw [hticks] at hafter
      exact ⟨⟨hs.trans hs₂, hlife₂.trans hlife⟩, by omega⟩

theorem awaitWindow_settles (htick : 0 < c.tick) (hok : c.status = .ok) (rest : Bytes) :
    ∃ t, Settles (fun budget => c.awaitWindow budget rest) t := by
  have htime : c.handStored.tick = c.tick := congrArg SimTime.tick (handStored_time c)
  have hok' : c.handStored.status = .ok := by
    rw [status, handStored_lifecycle]
    exact hok
  obtain ⟨r, hdrive⟩ := drive_settles (htime ▸ htick) hok' { sendApp := true }
  exact ⟨_, hdrive.map _⟩

theorem timedTurn_settles (htick : 0 < c.tick) (hok : c.status = .ok) (waits : List Nat) (rest : Bytes) :
    ∃ t, Settles (fun budget => timedTurn budget (waits, rest, c)) t := by
  simp only [timedTurn]
  have hmove := writeMove_spec c rest
  generalize writeMove (rest, c) = move at hmove
  cases hmove with
  | filled =>
    have htick' : 0 < (c.openWindow.storePlaintext c.window.length rest).tick := htick
    obtain ⟨t, hwait⟩ := awaitWindow_settles htick' hok (rest.drop (c.window.length - c.pending))
    exact ⟨_, hwait.map _⟩
  | full =>
    have htick' : 0 < c.openWindow.tick := htick
    obtain ⟨t, hwait⟩ := awaitWindow_settles htick' hok rest
    exact ⟨_, hwait.map _⟩
  | _ => exact ⟨_, .const _⟩

theorem timedWrite_settles (htick : 0 < c.tick) (data : Bytes) :
    ∃ r, Settles (fun budget => c.timedWrite budget data) r := by
  unfold timedWrite
  cases hguard : c.lifecycle.softConnected (Engine.state c.board) with
  | error e => exact ⟨_, .const _⟩
  | ok u =>
    obtain ⟨hok, hup, -⟩ := Lifecycle.softConnected_ok hguard
    have hloop : ∃ r, Settles (fun budget => repeatTurn (timedTurn budget) budget ([], data, c)) r := by
      refine repeatTurn_settles timedTurn
        (I := fun s : TimedJob slots => (∃ f, Steps c f s.2.2) ∧ s.2.2.lifecycle = c.lifecycle ∧
          ∀ ms ∈ s.1, ms ≤ c.waitLimit) (fun s => turnsLeft s.2) ?_ ?_
        ⟨⟨_, .refl⟩, rfl, fun _ hms => absurd hms List.not_mem_nil⟩
      · rintro ⟨waits, rest, c₁⟩ ⟨⟨_, hs⟩, hlife, -⟩
        have htick₁ : 0 < c₁.tick := hs.later.tick ▸ htick
        exact timedTurn_settles htick₁ ((status_of_lifecycle hlife).trans hok) waits rest
      · rintro budget ⟨waits, rest, c₁⟩ s ⟨⟨_, hs⟩, hlife, hwithin⟩ ht
        rw [← hs.later.waitLimit] at hwithin ⊢
        have hturn := timedTurn_spec ((status_of_lifecycle hlife).trans hok) (by rw [hlife]; exact hup) hwithin ht
        cases hturn with
        | again h =>
          obtain ⟨⟨_, hs₂⟩, hlife₂, hwithin₂, -, hless⟩ := h
          exact ⟨⟨⟨_, hs.trans hs₂⟩, hlife₂.trans hlife, hwithin₂⟩, hless⟩
    obtain ⟨r, hloop⟩ := hloop
    exact ⟨_, hloop.map _⟩

/-! ## Larger budgets -/

section Budgets

variable {β : Type} [Board β] {m n : Nat}

theorem pump_mono {c : Client β slots} {r : EngineState × Client β slots} (hmn : m ≤ n) (h : c.pump m = some r) :
    c.pump n = some r :=
  repeatTurn_mono (fun _ _ ht => ht) hmn h

theorem drive_mono {c : Client β slots} {target : EngineState} {r : Except Error Unit × Client β slots} (hmn : m ≤ n)
    (h : c.drive m target = some r) : c.drive n target = some r := by
  refine repeatTurn_mono (fun c₁ t ht => ?_) hmn h
  obtain ⟨r₁, hpump, rfl⟩ := Option.map_eq_some_iff.1 ht
  exact Option.map_eq_some_iff.2 ⟨r₁, pump_mono hmn hpump, rfl⟩

theorem writeTurn_mono {job : Bytes × Client β slots}
    {t : Turn (Bytes × Client β slots) (Except Error Unit × Client β slots)} (hmn : m ≤ n)
    (h : writeTurn m job = some t) : writeTurn n job = some t := by
  rw [writeTurn_eq] at h ⊢
  cases hmove : writeMove job with
  | ended r => simpa [hmove] using h
  | more job => simpa [hmove] using h
  | wait rest c =>
    rw [hmove] at h
    obtain ⟨r, hdrive, rfl⟩ := Option.map_eq_some_iff.1 h
    exact Option.map_eq_some_iff.2 ⟨r, drive_mono hmn hdrive, rfl⟩

theorem write_mono {c : Client β slots} {data : Bytes} {r : Except Error Nat × Client β slots} (hmn : m ≤ n)
    (h : c.write m data = some r) : c.write n data = some r := by
  cases hguard : c.lifecycle.softConnected c.flags with
  | error e =>
    rw [write_of_refused hguard] at h ⊢
    exact h
  | ok u =>
    rw [write_of_admitted hguard] at h ⊢
    obtain ⟨r₁, hloop, rfl⟩ := Option.map_eq_some_iff.1 h
    exact Option.map_eq_some_iff.2 ⟨r₁, repeatTurn_mono (fun _ _ => writeTurn_mono hmn) hmn hloop, rfl⟩

end Budgets

/-! ## The calls -/

theorem update_settles : ∃ r, Settles (fun budget => c.update budget) r := by
  unfold update
  cases hguard : c.lifecycle.mayPump with
  | error e => exact ⟨_, .const _⟩
  | ok u =>
    obtain ⟨r, hpump⟩ := pump_settles (Lifecycle.mayPump_ok hguard)
    exact ⟨_, hpump.map _⟩

theorem available_settles : ∃ r, Settles (fun budget => c.available budget) r := by
  unfold available
  cases hguard : c.lifecycle.softConnected (Engine.state c.board) with
  | error e => exact ⟨_, .const _⟩
  | ok u =>
    obtain ⟨r, hpump⟩ := pump_settles (Lifecycle.softConnected_ok hguard).1
    exact ⟨_, hpump.map _⟩

theorem read_settles (room : Nat) : ∃ r, Settles (fun budget => c.read budget room) r := by
  unfold read
  split_ifs
  · exact ⟨_, .const _⟩
  · obtain ⟨r, havail⟩ := available_settles (c := c)
    refine havail.andThen fun count c => ?_
    split_ifs
    · exact ⟨_, rfl⟩
    · exact ⟨_, rfl⟩

theorem peek_settles : ∃ r, Settles (fun budget => c.peek budget) r := by
  obtain ⟨r, havail⟩ := available_settles (c := c)
  exact havail.andThen fun _ _ => ⟨_, rfl⟩

theorem runUntil_settles (htick : 0 < c.tick) (target : EngineState) :
    ∃ r, Settles (fun budget => c.runUntil budget target) r := by
  unfold runUntil
  cases hguard : c.lifecycle.mayPump with
  | error e => exact ⟨_, .const _⟩
  | ok u => exact drive_settles htick (Lifecycle.mayPump_ok hguard) target

theorem flush_settles (htick : 0 < c.tick) : ∃ r, Settles (fun budget => c.flush budget) r := by
  unfold flush
  cases hguard : c.lifecycle.mayPump with
  | error e => exact ⟨_, .const _⟩
  | ok u =>
    simp only
    split_ifs
    · exact ⟨_, .const _⟩
    · exact drive_settles htick (Lifecycle.mayPump_ok hguard) _

theorem blockingRead_settles (htick : 0 < c.tick) (room : Nat) :
    ∃ r, Settles (fun budget => c.blockingRead budget room) r := by
  unfold blockingRead
  split_ifs
  · exact ⟨_, .const _⟩
  cases hguard : c.lifecycle.softConnected (Engine.state c.board) with
  | error e => cases e <;> exact ⟨_, .const _⟩
  | ok u =>
    obtain ⟨r, hdrive⟩ := drive_settles htick (Lifecycle.softConnected_ok hguard).1 { recvApp := true }
    exact ⟨_, hdrive.map _⟩

/-- a read that goes on has less to read -/
theorem readExact_settles (htick : 0 < c.tick) (length : Nat) :
    ∃ r, Settles (fun budget => c.readExact budget length) r := by
  induction length using Nat.strongRecOn generalizing c with
  | ind length ih =>
    by_cases hlength : length = 0
    · refine ⟨(.ok [], c), Settles.congr (.const _) fun budget => ?_⟩
      rw [readExact, if_pos hlength]
    obtain ⟨⟨answer, c₁⟩, hread⟩ := blockingRead_settles htick length
    rcases answer with e | bytes
    · refine ⟨_, hread.followed (.const (.error (.error e), c₁)) fun budget h => ?_⟩
      rw [readExact, if_neg hlength, h]
    cases bytes with
    | nil =>
      refine ⟨_, hread.followed (.const (.error .unexpectedEof, c₁)) fun budget h => ?_⟩
      rw [readExact, if_neg hlength, h]
    | cons byte more =>
      have htick₁ : 0 < c₁.tick := by
        obtain ⟨budget, h⟩ := hread.some
        cases blockingRead_spec h with
        | bytes hs => exact hs.later.tick ▸ htick
      obtain ⟨r, hrest⟩ := ih (length - (more.length + 1)) (by omega) htick₁
      let prepend : Except FillError Bytes × Client SimBoard slots → Except FillError Bytes × Client SimBoard slots :=
        fun r => (r.1.map ((byte :: more) ++ ·), r.2)
      refine ⟨_, hread.followed (hrest.map prepend) fun budget h => ?_⟩
      rw [readExact, if_neg hlength, h]

theorem stop_settles (htick : 0 < c.tick) : ∃ c', Settles (fun budget => c.stop budget) c' := by
  simp only [stop]
  split_ifs
  · let closing : Client SimBoard slots := { c with lifecycle := c.lifecycle.closing }
    have htick' : 0 < (closing.dropUnread (Engine.state c.board)).tick := by
      rw [dropUnread_eq]
      exact htick
    obtain ⟨r, hflush⟩ := flush_settles htick'
    exact ⟨_, (hflush.map Prod.snd).map _⟩
  · exact ⟨_, .const _⟩
  · exact ⟨_, .const _⟩

theorem connect_settles (htick : 0 < c.tick) (draw : Nat → Bytes) (host : Host) (portNumber : Nat) :
    ∃ r, Settles (fun budget => c.connect budget draw host portNumber) r := by
  have htick' : 0 < (c.launched draw host portNumber).tick := by
    rw [tick, launched_time]
    exact htick
  obtain ⟨r, hdrive⟩ := drive_settles htick' (status_launched draw host portNumber c) { sendApp := true }
  simp only [connect_eq]
  split_ifs
  · exact ⟨_, .const _⟩
  split
  · exact ⟨_, .const _⟩
  split
  · exact ⟨_, .const _⟩
  · exact ⟨_, hdrive.map _⟩

theorem write_settles (htick : 0 < c.tick) (data : Bytes) : ∃ r, Settles (fun budget => c.write budget data) r := by
  obtain ⟨⟨_, r⟩, hwrite⟩ := timedWrite_settles htick data
  exact ⟨r, (hwrite.map Prod.snd).congr fun budget => (timedWrite_erase budget data c).symm⟩

theorem writeAll_settles (htick : 0 < c.tick) (data : Bytes) : ∃ r, Settles (fun budget => c.writeAll budget data) r := by
  unfold writeAll
  split_ifs
  · exact ⟨_, .const _⟩
  · obtain ⟨r, hwrite⟩ := write_settles htick data
    exact ⟨_, hwrite.map _⟩

theorem perform_settles (htick : 0 < c.tick) (request : Request) :
    ∃ r, Settles (fun budget => c.perform budget request) r := by
  cases request with
  | connect host portNumber draw =>
    obtain ⟨r, h⟩ := connect_settles htick draw host portNumber
    exact ⟨_, h.map _⟩
  | write data =>
    obtain ⟨r, h⟩ := write_settles htick data
    exact ⟨_, h.map _⟩
  | flush =>
    obtain ⟨r, h⟩ := flush_settles htick
    exact ⟨_, h.map _⟩
  | read room =>
    obtain ⟨r, h⟩ := read_settles (c := c) room
    exact ⟨_, h.map _⟩
  | peek =>
    obtain ⟨r, h⟩ := peek_settles (c := c)
    exact ⟨_, h.map _⟩
  | available =>
    obtain ⟨r, h⟩ := available_settles (c := c)
    exact ⟨_, h.map _⟩
  | update =>
    obtain ⟨r, h⟩ := update_settles (c := c)
    exact ⟨_, h.map _⟩
  | runUntil target =>
    obtain ⟨r, h⟩ := runUntil_settles htick target
    exact ⟨_, h.map _⟩
  | stop =>
    obtain ⟨c', h⟩ := stop_settles htick
    exact ⟨_, h.map _⟩
  | connected => exact ⟨_, .const _⟩
  | blockingRead room =>
    obtain ⟨r, h⟩ := blockingRead_settles htick room
    exact ⟨_, h.map _⟩
  | readExact length =>
    obtain ⟨r, h⟩ := readExact_settles htick length
    exact ⟨_, h.map _⟩
  | readReady =>
    obtain ⟨r, h⟩ := available_settles (c := c)
    exact ⟨_, (h.map _).map _⟩
  | writeAll data =>
    obtain ⟨r, h⟩ := writeAll_settles htick data
    exact ⟨_, h.map _⟩

/-! ## The limits -/

/-- how long a call may take. A write, and a read that fills a buffer, may wait more than once. -/
def limit (c : Client SimBoard slots) : Request → Option Nat
  | .connect .. | .flush | .runUntil _ | .blockingRead _ | .stop => some c.waitLimit
  | .update | .available | .read _ | .peek | .readReady => some c.config.pollDelayMs
  | .connected => some 0
  | .write _ | .writeAll _ | .readExact _ => none

/-- **A call takes no longer than its limit**, and gives up on a sound engine only after its deadline. -/
theorem perform_timely {budget : Nat} {c' : Client SimBoard slots} {request : Request} {reply : Reply}
    (h : c.perform budget request = some (reply, c')) : Timely (c.limit request) c c' := by
  cases request with
  | connect host portNumber draw =>
    obtain ⟨⟨r, c₁⟩, hconnect, heq⟩ := Option.map_eq_some_iff.1 h
    cases heq
    obtain ⟨hlimit, hlate⟩ := connect_timed hconnect
    exact ⟨fun _ hms => Option.some.inj hms ▸ hlimit, fun hsound => hlate hsound.conforming⟩
  | write data =>
    obtain ⟨⟨r, c₁⟩, hwrite, heq⟩ := Option.map_eq_some_iff.1 h
    cases heq
    exact ⟨nofun, write_late hwrite⟩
  | writeAll data =>
    obtain ⟨⟨r, c₁⟩, hwrite, heq⟩ := Option.map_eq_some_iff.1 h
    cases heq
    exact ⟨nofun, writeAll_late hwrite⟩
  | readExact length =>
    obtain ⟨⟨r, c₁⟩, hread, heq⟩ := Option.map_eq_some_iff.1 h
    cases heq
    exact ⟨nofun, readExact_late hread⟩
  | flush =>
    obtain ⟨⟨r, c₁⟩, hflush, heq⟩ := Option.map_eq_some_iff.1 h
    cases heq
    exact flush_timely hflush
  | read room =>
    obtain ⟨⟨r, c₁⟩, hread, heq⟩ := Option.map_eq_some_iff.1 h
    cases heq
    exact read_timely hread
  | peek =>
    obtain ⟨⟨r, c₁⟩, hpeek, heq⟩ := Option.map_eq_some_iff.1 h
    cases heq
    exact peek_timely hpeek
  | available =>
    obtain ⟨⟨r, c₁⟩, havail, heq⟩ := Option.map_eq_some_iff.1 h
    cases heq
    exact available_timely havail
  | update =>
    obtain ⟨⟨r, c₁⟩, hupdate, heq⟩ := Option.map_eq_some_iff.1 h
    cases heq
    exact update_timely hupdate
  | runUntil target =>
    obtain ⟨⟨r, c₁⟩, hrun, heq⟩ := Option.map_eq_some_iff.1 h
    cases heq
    exact runUntil_timely hrun
  | stop =>
    obtain ⟨c₁, hstop, heq⟩ := Option.map_eq_some_iff.1 h
    cases heq
    exact stop_timely hstop
  | connected =>
    cases h
    exact connected_timely c
  | blockingRead room =>
    obtain ⟨⟨r, c₁⟩, hread, heq⟩ := Option.map_eq_some_iff.1 h
    cases heq
    exact blockingRead_timely hread
  | readReady =>
    obtain ⟨⟨r, c₁⟩, hready, heq⟩ := Option.map_eq_some_iff.1 h
    cases heq
    exact readReady_timely hready

/-- **Every call ends, and in time.** Whatever the state of client, engine and socket, if to read the clock takes time at
all: a call settles on an answer within its limit; and a write waits at most once for each full window and once more, no
longer each time than a wait may take. Without a window (`capacity = 0`) that is once. -/
theorem calls_end_in_time (c : Client SimBoard slots) (htick : 0 < c.tick) (request : Request) :
    ∃ reply c', Settles (fun budget => c.perform budget request) (reply, c') ∧
      (∀ ms ∈ c.limit request, c'.now ≤ c.now + ms) ∧
      ∀ data, request = .write data →
        (∀ budget, (c.timedWrite budget data).map Prod.snd = c.write budget data) ∧
          ∃ waits r, Settles (fun budget => c.timedWrite budget data) (waits, r, c') ∧ reply = .count r ∧
            waits.length ≤ 1 + (c.pending + data.length) / c.engine.capacity ∧ ∀ ms ∈ waits, ms ≤ c.waitLimit := by
  obtain ⟨⟨reply, c'⟩, hsettles⟩ := perform_settles htick request
  obtain ⟨budget, hperform⟩ := hsettles.some
  refine ⟨reply, c', hsettles, (perform_timely hperform).within, ?_⟩
  rintro data rfl
  obtain ⟨⟨waits, r, c₁⟩, hwrite⟩ := timedWrite_settles htick data
  refine ⟨fun budget => timedWrite_erase budget data c, waits, r, ?_⟩
  -- the write that notes its waits ends as the call does
  have hsame : (Reply.count r, c₁) = (reply, c') := by
    have hcall : Settles (fun budget => c.perform budget (.write data)) (.count r, c₁) :=
      (hwrite.map fun r => (Reply.count r.2.1, r.2.2)).congr fun budget => by
        rw [perform, ← timedWrite_erase, Option.map_map]
        rfl
    exact hcall.unique hsettles
  obtain ⟨rfl, rfl⟩ := Prod.mk.inj hsame
  obtain ⟨budget, htimed⟩ := hwrite.some
  obtain ⟨-, hwithin, hwaits⟩ := timedWrite_spec htimed
  exact ⟨hwrite, rfl, hwaits, hwithin⟩

/-- nine bytes fill a window of four twice, and the write waits twice: each wait is one pause and two ticks -/
theorem calls_end_in_time_two_windows :
    ∃ c : Client SimBoard 1, c.pending = 0 ∧ c.engine.capacity = 4 ∧ 0 < c.tick ∧
      (c.timedWrite 50 [1, 2, 3, 4, 5, 6, 7, 8, 9]).map Prod.fst = some [12, 12] ∧
      ∃ reply c', Settles (fun budget => c.perform budget (.write [1, 2, 3, 4, 5, 6, 7, 8, 9])) (reply, c') ∧
        ∃ waits r, Settles (fun budget => c.timedWrite budget [1, 2, 3, 4, 5, 6, 7, 8, 9]) (waits, r, c') ∧
          waits.length ≤ 3 ∧ ∀ ms ∈ waits, ms ≤ c.waitLimit := by
  have hplayed :
      (newcomer.undergo 50 [.request (.connect (.name "a") 443 fun _ => [])]).map
          (fun s => (s.2.pending, s.2.engine.capacity, s.2.tick,
            (s.2.timedWrite 50 [1, 2, 3, 4, 5, 6, 7, 8, 9]).map Prod.fst)) = some (0, 4, 1, some [12, 12]) := by
    decide +kernel
  obtain ⟨⟨log, c⟩, hrun, heq⟩ := Option.map_eq_some_iff.1 hplayed
  obtain ⟨hpending, hcapacity, htick, htimed⟩ : c.pending = 0 ∧ c.engine.capacity = 4 ∧ c.tick = 1 ∧
      (c.timedWrite 50 [1, 2, 3, 4, 5, 6, 7, 8, 9]).map Prod.fst = some [12, 12] := by
    simpa using heq
  have hticks : 0 < c.tick := by
    rw [htick]
    decide
  obtain ⟨reply, c', hsettles, -, hwrite⟩ := calls_end_in_time c hticks (.write [1, 2, 3, 4, 5, 6, 7, 8, 9])
  obtain ⟨-, waits, r, htimes, -, hwaits, hwithin⟩ := hwrite _ rfl
  rw [hpending, hcapacity] at hwaits
  exact ⟨c, hpending, hcapacity, hticks, htimed, reply, c', hsettles, waits, r, htimes, hwaits, hwithin⟩

end Client

end TlsClient

/-
To write in two goes leaves the same client as to write in one.

A write stores its data in the window of the engine, and each time the window is full it hands the window over and
waits. How the caller cuts its data does not show: wherever the cut is, inside a window or at its end, before the engine
takes plaintext or right before something fails.
- `storePlaintext_append`: to store in two goes what the window holds;
- `writeMove_append`, `writeTurn_append`: a move and a turn of a write with more left to write;
- `writeTurns_append`: its turns are those of the first part, and then those of the second;
- `write_append`: a write of two parts is a write of the first, and of the second if the first succeeds.
-/
import TlsClient.Proofs.Termination

namespace TlsClient

namespace Bytes

theorem overwrite_overwrite {window a b : Bytes} {start : Nat} (h : start + a.length + b.length ≤ window.length) :
    overwrite (overwrite window start a) (start + a.length) b = overwrite window start (a ++ b) := by
  have ha : start + a.length ≤ window.length := by omega
  have hb : start + a.length + b.length ≤ (overwrite window start a).length := by rwa [length_overwrite]
  have hab : start + (a ++ b).length ≤ window.length := by
    rw [List.length_append]
    omega
  rw [overwrite_eq hb, take_overwrite ha, overwrite_eq hab]
  -- what is left of the window after the second part was not touched by the first
  have hrest : (overwrite window start a).drop (start + a.length + b.length) =
      window.drop (start + (a ++ b).length) := by
    have hfront : (window.take start ++ a).length = start + a.length := by
      rw [List.length_append, List.length_take]
      omega
    rw [overwrite_eq ha, ← List.drop_drop, List.drop_left' hfront, List.drop_drop, List.length_append, Nat.add_assoc]
  rw [hrest]
  simp only [List.append_assoc]

end Bytes

namespace Client

variable {slots : Nat} {c c' : Client SimBoard slots} {a b rest : Bytes} {budget turns turns' : Nat}
  {t : Turn (Bytes × Client SimBoard slots) (Except Error Unit × Client SimBoard slots)}
  {answer : Except Error Unit × Client SimBoard slots}

/-! ## Storing in two goes -/

theorem sendApp_storePlaintext (h : c.engine.state.sendApp = true) (data : Bytes) :
    (c.openWindow.storePlaintext c.window.length data).engine.state.sendApp = true := by
  rw [storePlaintext_eq h]
  exact h

theorem window_storePlaintext (h : c.engine.state.sendApp = true) (data : Bytes) :
    (c.openWindow.storePlaintext c.window.length data).window.length = c.window.length := by
  rw [length_window (sendApp_storePlaintext h data), storePlaintext_eq h, length_window h]

/-- what was stored first is still there when the window is handed out again -/
theorem storePlaintext_append (htake : c.engine.state.sendApp = true) (h : c.pending + a.length ≤ c.engine.capacity)
    (hc' : c' = c.openWindow.storePlaintext c.window.length a) (b : Bytes) :
    c'.openWindow.storePlaintext c'.window.length b = c.openWindow.storePlaintext c.window.length (a ++ b) := by
  have htake' : c'.engine.state.sendApp = true := hc' ▸ sendApp_storePlaintext htake a
  rw [storePlaintext_eq htake, List.take_of_length_le (by omega)] at hc'
  rw [storePlaintext_eq htake', storePlaintext_eq htake]
  -- the part of the second piece that still fits is the same either way
  have hpart : (a ++ b).take (c.engine.capacity - c.pending) =
      a ++ b.take (c.engine.capacity - (c.pending + a.length)) := by
    rw [List.take_append, List.take_of_length_le (by omega), Nat.sub_add_eq]
  have hlength : (Bytes.overwrite c.engine.fitted c.pending a).length = c.engine.capacity := by
    rw [Bytes.length_overwrite, SimEngine.length_fitted]
  have hfitted : c'.engine.fitted = Bytes.overwrite c.engine.fitted c.pending a := by
    rw [hc']
    exact Bytes.resize_of_length hlength
  have hpending : c'.pending = c.pending + a.length := by rw [hc']; rfl
  have hcapacity : c'.engine.capacity = c.engine.capacity := by rw [hc']
  have hfits : c.pending + a.length + (b.take (c.engine.capacity - (c.pending + a.length))).length ≤
      c.engine.fitted.length := by
    rw [List.length_take, SimEngine.length_fitted]
    omega
  have hbacklog : c'.backlog.advance (b.take (c.engine.capacity - (c.pending + a.length))).length =
      c.backlog.advance (a ++ b.take (c.engine.capacity - (c.pending + a.length))).length := by
    rw [hc', List.length_append]
    exact congrArg Backlog.mk (Nat.add_assoc ..)
  rw [hpart, hfitted, hpending, hcapacity, hbacklog, Bytes.overwrite_overwrite hfits, hc']

/-! ## Moves -/

/-- the move of a write that has `more` to write besides -/
def WriteMove.andMore (more : Bytes) : WriteMove SimBoard slots → WriteMove SimBoard slots
  | .ended r => .ended r
  | .more (left, c) => writeMove (left ++ more, c)
  | .wait left c => .wait (left ++ more) c

theorem writeMove_of_room (hrest : rest ≠ []) (hroom : c.pending < c.window.length) :
    writeMove (rest, c) =
      if c.pending + rest.length < c.window.length then
        .more ([], c.openWindow.storePlaintext c.window.length rest)
      else
        .wait (rest.drop (c.window.length - c.pending)) (c.openWindow.storePlaintext c.window.length rest) := by
  have hmove := writeMove_spec c rest
  generalize writeMove (rest, c) = move at hmove
  cases hmove with
  | finished hnone => exact absurd hnone hrest
  | shortWindow h => omega
  | noWindow _ _ h => omega
  | stored _ h => rw [if_pos h]
  | filled _ h => rw [if_neg (Nat.not_lt.2 h)]
  | full _ h => omega

/-- the move of a write into a window without room does not look at what there is to write -/
theorem writeMove_of_full (hrest : rest ≠ []) (hfull : ¬c.pending < c.window.length) :
    writeMove (rest, c) =
      if c.window.length < c.pending then .ended (.error (.status .internal), c.openWindow.fail .internal)
      else if c.window.length = 0 && c.flags.sendApp then
        .ended (.error (.status .engineWrite), c.openWindow.fail .engineWrite)
      else .wait rest c.openWindow := by
  simp only [writeMove, List.isEmpty_iff, if_neg hrest]
  exact if_neg hfull

/-- **A move of a write is the same with more to write**, up to what it leaves to write. -/
theorem writeMove_append (hrest : rest ≠ []) (hb : b ≠ []) :
    writeMove (rest ++ b, c) = (writeMove (rest, c)).andMore b := by
  have hboth : rest ++ b ≠ [] := List.append_ne_nil_of_left_ne_nil hrest b
  by_cases hroom : c.pending < c.window.length
  · have htake : c.engine.state.sendApp = true := sendApp_of_window (by omega)
    have hcapacity := length_window htake
    rw [writeMove_of_room hrest hroom, writeMove_of_room hboth hroom, List.length_append]
    by_cases hmore : c.pending + rest.length < c.window.length
    · -- the window still has room: the second piece goes behind the first
      rw [if_pos hmore]
      generalize hc' : c.openWindow.storePlaintext c.window.length rest = c'
      have hpending : c'.pending = c.pending + rest.length := by
        rw [← hc', pending, pending_store]
        omega
      have hwindow : c'.window.length = c.window.length := hc' ▸ window_storePlaintext htake rest
      have hstore := storePlaintext_append htake (by omega) hc'.symm b
      have hleft : (rest ++ b).drop (c.window.length - c.pending) = b.drop (c'.window.length - c'.pending) := by
        rw [List.drop_append, List.drop_eq_nil_of_le (by omega), hwindow, hpending, Nat.sub_add_eq]
        rfl
      rw [WriteMove.andMore, List.nil_append, writeMove_of_room hb (by omega), hstore, hleft, hwindow, hpending,
        Nat.add_assoc]
    · -- the window is full, and nothing of the second piece goes into it
      have hstore : c.openWindow.storePlaintext c.window.length (rest ++ b) =
          c.openWindow.storePlaintext c.window.length rest := by
        rw [storePlaintext_eq htake, storePlaintext_eq htake, List.take_append_of_le_length (by omega)]
      rw [if_neg hmore, if_neg (by omega), hstore, List.drop_append_of_le_length (by omega)]
      rfl
  · rw [writeMove_of_full hrest hroom, writeMove_of_full hboth hroom]
    split_ifs <;> rfl

/-! ## Turns -/

/-- how a turn of a write that has `rest` left shows in a write that has `b` left besides -/
def Extends (budget : Nat) (c : Client SimBoard slots) (rest b : Bytes) :
    Turn (Bytes × Client SimBoard slots) (Except Error Unit × Client SimBoard slots) → Prop :=
  Turn.All
    (fun job =>
      writeTurn budget (rest ++ b, c) = some (.again (job.1 ++ b, job.2)) ∨
        writeTurn budget (rest ++ b, c) = writeTurn budget (job.1 ++ b, job.2))
    (fun r => writeTurn budget (rest ++ b, c) = some (.done r) ∧ ∃ e, r.1 = .error e)

/-- **A turn of a write is the same with more to write**, or the turn after it is. -/
theorem writeTurn_append (hrest : rest ≠ []) (hb : b ≠ []) (h : writeTurn budget (rest, c) = some t) :
    Extends budget c rest b t := by
  have hmove := writeMove_append (c := c) hrest hb
  have hcases := writeMove_spec c rest
  unfold Extends
  rw [writeTurn_eq] at h
  rw [writeTurn_eq, hmove]
  generalize writeMove (rest, c) = move at h hcases
  cases move with
  | ended r =>
    cases h
    cases hcases with
    | finished hnone => exact absurd hnone hrest
    | shortWindow => exact .done ⟨rfl, _, rfl⟩
    | noWindow => exact .done ⟨rfl, _, rfl⟩
  | more job =>
    cases h
    exact .again (.inr (writeTurn_eq ..).symm)
  | wait left c' =>
    obtain ⟨⟨r, c₁⟩, hdrive, rfl⟩ := Option.map_eq_some_iff.1 h
    simp only [WriteMove.andMore, awaitWindow, hdrive, Option.map_some]
    cases r with
    | ok u => exact .again (.inl rfl)
    | error e => exact .done ⟨rfl, e, rfl⟩

theorem writeTurns_append_nil
    (h : Result.andThen (repeatTurn (writeTurn budget) turns (rest, c))
      (fun _ c' => repeatTurn (writeTurn budget) turns' ([], c')) = some answer) :
    repeatTurn (writeTurn budget) (turns + turns') (rest, c) = some answer := by
  cases hloop : repeatTurn (writeTurn budget) turns (rest, c) with
  | none => simp [hloop, Result.andThen] at h
  | some r =>
    obtain ⟨e | u, c'⟩ := r
    · rw [hloop] at h
      cases h
      exact repeatTurn_mono (fun _ _ ht => ht) (Nat.le_add_right ..) hloop
    · rw [hloop] at h
      cases turns' with
      | zero => simp [Result.andThen, repeatTurn] at h
      | succ turns' =>
        cases h
        exact repeatTurn_mono (fun _ _ ht => ht) (Nat.le_add_right ..) hloop

/-- **The turns of a write with more to write** are those of the first part, and then those of the second. -/
theorem writeTurns_append
    (h : Result.andThen (repeatTurn (writeTurn budget) turns (rest, c))
      (fun _ c' => repeatTurn (writeTurn budget) turns' (b, c')) = some answer) :
    repeatTurn (writeTurn budget) (turns + turns') (rest ++ b, c) = some answer := by
  by_cases hb : b = []
  · subst hb
    rw [List.append_nil]
    exact writeTurns_append_nil h
  induction turns generalizing rest c with
  | zero => simp [repeatTurn, Result.andThen] at h
  | succ turns ih =>
    by_cases hrest : rest = []
    · subst hrest
      exact repeatTurn_mono (fun _ _ ht => ht) (Nat.le_add_left ..) h
    rw [Nat.add_right_comm]
    simp only [repeatTurn] at h ⊢
    cases ht : writeTurn budget (rest, c) with
    | none => simp [ht, Result.andThen] at h
    | some t =>
      have hturn := writeTurn_append hrest hb ht
      simp only [ht] at h
      cases hturn with
      | @done r hlast =>
        obtain ⟨hsame, e, he⟩ := hlast
        obtain ⟨r, c'⟩ := r
        cases he
        rw [hsame]
        exact h
      | again hnext =>
        -- either way the rest of the turns is that of the smaller job
        rcases hnext with hsame | hskip
        · rw [hsame]
          exact ih h
        · rw [hskip]
          exact repeatTurn_mono (fun _ _ ht => ht) (Nat.le_succ _) (ih h)

/-! ## Writes -/

/-- the session of a write that began with `c` is still open -/
def StillOpen (c c' : Client SimBoard slots) : Prop := c'.lifecycle = c.lifecycle ∧ c'.flags.closed = false

theorem awaitWindow_open (c' : Client SimBoard slots) (hok : c.status = .ok) (hlife : c'.lifecycle = c.lifecycle)
    (h : c'.awaitWindow budget rest = some t) :
    t.All (fun job => StillOpen c job.2) (fun r => r.1 = .ok () → r.2 = c) := by
  refine (awaitWindow_cases ((status_of_lifecycle hlife).trans hok) h).imp ?_ ?_
  · rintro ⟨left, c₁⟩ ⟨-, -, hwaited⟩
    cases hwaited with
    | reached hlife₁ _ hopen => exact ⟨(hlife₁.trans (handStored_lifecycle c')).trans hlife, hopen⟩
  · rintro r ⟨e, he⟩ hr
    rw [he] at hr
    cases hr

theorem writeTurn_open (hok : c.status = .ok) (hopen : c.flags.closed = false)
    (h : writeTurn budget (rest, c) = some t) :
    t.All (fun job => StillOpen c job.2) (fun r => r.1 = .ok () → r.2 = c) := by
  have hmove := writeMove_spec c rest
  rw [writeTurn_eq] at h
  generalize writeMove (rest, c) = move at h hmove
  cases hmove with
  | finished => cases h; exact .done fun _ => rfl
  | shortWindow => cases h; exact .done nofun
  | noWindow => cases h; exact .done nofun
  | stored _ hroom =>
    cases h
    have htake : c.engine.state.sendApp = true := sendApp_of_window (by omega)
    rw [storePlaintext_eq htake]
    exact .again ⟨rfl, hopen⟩
  | filled => exact awaitWindow_open (c.openWindow.storePlaintext _ rest) hok rfl h
  | full => exact awaitWindow_open c.openWindow hok rfl h

theorem softConnected_of_writeTurns (hguard : c.lifecycle.softConnected c.flags = .ok ())
    (h : repeatTurn (writeTurn budget) turns (a, c) = some (.ok (), c')) :
    c'.lifecycle.softConnected c'.flags = .ok () := by
  obtain ⟨hok, hup, hopen⟩ := Lifecycle.softConnected_ok hguard
  obtain ⟨hlife, hopen'⟩ : StillOpen c c' := by
    refine repeatTurn_all (I := fun job : Bytes × Client SimBoard slots => StillOpen c job.2)
      (Q := fun r => r.1 = .ok () → StillOpen c r.2) ?_ ⟨rfl, hopen⟩ h rfl
    rintro ⟨rest, c₁⟩ t ⟨hlife, hopen₁⟩ ht
    refine (writeTurn_open ((status_of_lifecycle hlife).trans hok) hopen₁ ht).imp ?_ ?_
    · rintro ⟨left, c₂⟩ ⟨hlife₂, hopen₂⟩
      exact ⟨hlife₂.trans hlife, hopen₂⟩
    · rintro r hsame hr
      rw [hsame hr]
      exact ⟨hlife, hopen₁⟩
  rw [hlife]
  simp [Lifecycle.softConnected, hup, hopen', show c.lifecycle.status = .ok from hok, Status.isOk]

/-- one write of both parts takes no more turns than a write of the first and, if that succeeds, of the second -/
theorem write_andThen_write {m n : Nat} {answer : Except Error Nat × Client SimBoard slots}
    (h : Result.andThen (c.write m a)
      (fun _ c' => (c'.write n b).map fun r => (r.1.map fun _ => a.length + b.length, r.2)) = some answer) :
    c.write (m + n) (a ++ b) = some answer := by
  have hturns {k : Nat} (hk : k ≤ m + n) {job : Bytes × Client SimBoard slots}
      {r : Except Error Unit × Client SimBoard slots} (hloop : repeatTurn (writeTurn k) k job = some r) :
      repeatTurn (writeTurn (m + n)) k job = some r :=
    repeatTurn_mono (fun _ _ => writeTurn_mono hk) (Nat.le_refl _) hloop
  cases hguard : c.lifecycle.softConnected c.flags with
  | error e =>
    rw [write_of_refused hguard] at h ⊢
    exact h
  | ok u =>
    rw [write_of_admitted hguard] at h ⊢
    cases hfirst : repeatTurn (writeTurn m) m (a, c) with
    | none => simp [hfirst, Result.andThen] at h
    | some r =>
      obtain ⟨e | u, c₁⟩ := r
      · rw [hfirst] at h
        have hboth : repeatTurn (writeTurn (m + n)) (m + n) (a ++ b, c) = some (.error e, c₁) :=
          writeTurns_append (by rw [hturns (Nat.le_add_right ..) hfirst]; rfl)
        rw [hboth]
        exact h
      · rw [hfirst] at h
        simp only [Option.map_some, Except.map, Result.andThen] at h
        rw [write_of_admitted (softConnected_of_writeTurns hguard hfirst)] at h
        obtain ⟨r, hwrite, rfl⟩ := Option.map_eq_some_iff.1 h
        obtain ⟨r₂, hsecond, rfl⟩ := Option.map_eq_some_iff.1 hwrite
        have hboth : repeatTurn (writeTurn (m + n)) (m + n) (a ++ b, c) = some r₂ :=
          writeTurns_append (by
            rw [hturns (Nat.le_add_right ..) hfirst]
            exact hturns (Nat.le_add_left ..) hsecond)
        rw [hboth, List.length_append]
        obtain ⟨e | u, c₂⟩ := r₂ <;> rfl

/-- **To write in two goes leaves the same client as to write in one.** -/
theorem write_append (c : Client SimBoard slots) (htick : 0 < c.tick) (a b : Bytes) :
    ∃ r₁ c₁, Settles (fun budget => c.write budget a) (r₁, c₁) ∧
      (∀ e, r₁ = .error e → Settles (fun budget => c.write budget (a ++ b)) (.error e, c₁)) ∧
      ∀ count, r₁ = .ok count → count = a.length ∧
        ∃ r₂ c₂, Settles (fun budget => c₁.write budget b) (r₂, c₂) ∧
          Settles (fun budget => c.write budget (a ++ b)) (r₂.map fun _ => a.length + b.length, c₂) := by
  obtain ⟨⟨r₁, c₁⟩, hfirst⟩ := write_settles htick a
  obtain ⟨m, hm⟩ := hfirst.some
  refine ⟨r₁, c₁, hfirst, ?_, ?_⟩
  · rintro e rfl
    have hboth : c.write (m + 0) (a ++ b) = some (.error e, c₁) := write_andThen_write (by rw [hm]; rfl)
    exact .of_mono write_mono hboth
  · rintro count rfl
    obtain ⟨rfl, htick₁⟩ : count = a.length ∧ 0 < c₁.tick := by
      cases write_spec hm with
      | all hs => exact ⟨rfl, hs.later.tick ▸ htick⟩
    obtain ⟨⟨r₂, c₂⟩, hsecond⟩ := write_settles htick₁ b
    obtain ⟨n, hn⟩ := hsecond.some
    have hboth : c.write (m + n) (a ++ b) = some (r₂.map fun _ => a.length + b.length, c₂) := by
      refine write_andThen_write ?_
      rw [hm, Result.andThen, hn]
      rfl
    exact ⟨rfl, r₂, c₂, hsecond, .of_mono write_mono hboth⟩

/-- nine bytes into windows of four: a first write that leaves room for one byte, and a second that fills two windows
and leaves one byte stored -/
theorem write_append_across_windows :
    ∃ c : Client SimBoard 1, c.engine.capacity = 4 ∧ c.engine.handovers = [] ∧ 0 < c.tick ∧
      ∃ c₁ c₂, Settles (fun budget => c.write budget [1, 2, 3]) (.ok 3, c₁) ∧ c₁.engine.handovers = [] ∧
        c₁.pending = 3 ∧ Settles (fun budget => c₁.write budget [4, 5, 6, 7, 8, 9]) (.ok 6, c₂) ∧
        c₂.engine.handovers = [4, 4] ∧ c₂.engine.plaintext = [1, 2, 3, 4, 5, 6, 7, 8] ∧ c₂.pending = 1 ∧
        Settles (fun budget => c.write budget [1, 2, 3, 4, 5, 6, 7, 8, 9]) (.ok 9, c₂) := by
  have hplayed :
      (newcomer.undergo 50 [.request (.connect (.name "a") 443 fun _ => [])]).bind (fun s =>
        (s.2.write 50 [1, 2, 3]).bind fun r =>
          (r.2.write 50 [4, 5, 6, 7, 8, 9]).map fun r₂ =>
            (r.1.toOption, r₂.1.toOption,
              decide (s.2.engine.capacity = 4 ∧ s.2.engine.handovers = [] ∧ s.2.tick = 1),
              decide (r.2.engine.handovers = [] ∧ r.2.pending = 3),
              decide (r₂.2.engine.handovers = [4, 4] ∧ r₂.2.engine.plaintext = [1, 2, 3, 4, 5, 6, 7, 8] ∧
                r₂.2.pending = 1))) =
        some (some 3, some 6, true, true, true) := by
    decide +kernel
  obtain ⟨⟨log, c⟩, -, hplayed⟩ := Option.bind_eq_some_iff.1 hplayed
  obtain ⟨⟨r₁, c₁⟩, hwrite₁, hplayed⟩ := Option.bind_eq_some_iff.1 hplayed
  obtain ⟨⟨r₂, c₂⟩, hwrite₂, heq⟩ := Option.map_eq_some_iff.1 hplayed
  simp only [Prod.mk.injEq, decide_eq_true_iff] at heq
  obtain ⟨hanswer₁, hanswer₂, ⟨hcapacity, hfresh, htick⟩, ⟨hnone, hpending₁⟩, hhanded, hplaintext, hpending₂⟩ := heq
  obtain rfl : r₁ = .ok 3 := by
    cases r₁ <;> cases hanswer₁
    rfl
  obtain rfl : r₂ = .ok 6 := by
    cases r₂ <;> cases hanswer₂
    rfl
  have hticks : 0 < c.tick := by
    rw [htick]
    decide
  have hfirst : Settles (fun budget => c.write budget [1, 2, 3]) (.ok 3, c₁) := .of_mono write_mono hwrite₁
  have hsecond : Settles (fun budget => c₁.write budget [4, 5, 6, 7, 8, 9]) (.ok 6, c₂) := .of_mono write_mono hwrite₂
  obtain ⟨r, c', hsame, -, hboth⟩ := write_append c hticks [1, 2, 3] [4, 5, 6, 7, 8, 9]
  obtain ⟨rfl, rfl⟩ := Prod.mk.inj (hsame.unique hfirst)
  obtain ⟨-, r, c', hsame, hboth⟩ := hboth 3 rfl
  obtain ⟨rfl, rfl⟩ := Prod.mk.inj (hsame.unique hsecond)
  exact ⟨c, hcapacity, hfresh, hticks, _, _, hfirst, hnone, hpending₁, hsecond, hhanded, hplaintext, hpending₂, hboth⟩

end Client

end TlsClient

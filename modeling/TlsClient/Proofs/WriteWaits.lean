/-
How often a write waits on a simulated board.

A write waits when the engine takes no plaintext yet, and each time the window is full. A wait that succeeds leaves an
engine that takes plaintext and an empty window, so the number of waits is known when the write begins.
- `timedWrite`: a write that notes how long each of its waits took;
- `timedWrite_erase`: it is the write, if one forgets what it noted;
- `waitsLeft`: how many waits are left in a write;
- `timedTurn_spec`: each wait is one less;
- `timedWrite_spec`: how many waits a write has noted, and how long they were.
-/
import TlsClient.Proofs.Deadlines

namespace TlsClient.Client

variable {slots : Nat}

/-! ## A write that notes its waits -/

/-- what a write that notes its waits goes on from: their lengths so far, and the job -/
abbrev TimedJob (slots : Nat) : Type := List Nat × Bytes × Client SimBoard slots

/-- note one more wait, that began at the given time -/
def noteWait (waits : List Nat) (began : Nat) :
    Turn (Bytes × Client SimBoard slots) (Except Error Unit × Client SimBoard slots) →
      Turn (TimedJob slots) (List Nat × Except Error Unit × Client SimBoard slots) :=
  Turn.map (fun job => (waits ++ [job.2.now - began], job)) (fun r => (waits ++ [r.2.now - began], r))

/-- one turn of a write that notes its waits -/
def timedTurn (budget : Nat) (s : TimedJob slots) :
    Option (Turn (TimedJob slots) (List Nat × Except Error Unit × Client SimBoard slots)) :=
  match writeMove s.2 with
  | .ended r => some (.done (s.1, r))
  | .more job => some (.again (s.1, job))
  | .wait rest c => (c.awaitWindow budget rest).map (noteWait s.1 c.now)

/-- a write that notes how long each of its waits took -/
def timedWrite (budget : Nat) (data : Bytes) (c : Client SimBoard slots) :
    Option (List Nat × Except Error Nat × Client SimBoard slots) :=
  match c.lifecycle.softConnected (Engine.state c.board) with
  | .error e => some ([], .error e, c)
  | .ok () =>
    (repeatTurn (timedTurn budget) budget ([], data, c)).map fun r => (r.1, r.2.1.map fun () => data.length, r.2.2)

theorem timedTurn_erase (budget : Nat) (s : TimedJob slots) :
    writeTurn budget s.2 = (timedTurn budget s).map (Turn.map Prod.snd Prod.snd) := by
  rw [writeTurn_eq, timedTurn]
  cases writeMove s.2 with
  | ended r => rfl
  | more job => rfl
  | wait rest c =>
    show c.awaitWindow budget rest =
      ((c.awaitWindow budget rest).map (noteWait s.1 c.now)).map (Turn.map Prod.snd Prod.snd)
    cases c.awaitWindow budget rest with
    | none => rfl
    | some t => cases t <;> rfl

/-- **To forget the waits gives the write.** -/
theorem timedWrite_erase (budget : Nat) (data : Bytes) (c : Client SimBoard slots) :
    (c.timedWrite budget data).map Prod.snd = c.write budget data := by
  unfold timedWrite write
  cases c.lifecycle.softConnected (Engine.state c.board) with
  | error e => rfl
  | ok u =>
    have hloop : repeatTurn (writeTurn budget) budget (data, c) =
        (repeatTurn (timedTurn budget) budget ([], data, c)).map Prod.snd :=
      repeatTurn_map (timedTurn_erase budget) budget ([], data, c)
    simp only
    rw [hloop, Option.map_map, Option.map_map]
    rfl

/-! ## The waits that are left -/

/-- how many waits are left: one if the engine takes no plaintext yet, and one for each full window -/
def waitsLeft (job : Bytes × Client SimBoard slots) : Nat :=
  (if job.2.engine.state.sendApp then 0 else 1) + (job.2.pending + job.1.length) / job.2.engine.capacity

/-- how many turns are left at most: the waits, and one to store the rest -/
def turnsLeft (job : Bytes × Client SimBoard slots) : Nat := waitsLeft job + if job.1 = [] then 0 else 1

theorem waitsLeft_of_sendApp {job : Bytes × Client SimBoard slots} (h : job.2.engine.state.sendApp = true) :
    waitsLeft job = (job.2.pending + job.1.length) / job.2.engine.capacity := by
  rw [waitsLeft, if_pos h, Nat.zero_add]

/-- the waits of a write are fewer than one for each full window, and one more -/
theorem waitsLeft_le (job : Bytes × Client SimBoard slots) :
    waitsLeft job ≤ 1 + (job.2.pending + job.1.length) / job.2.engine.capacity := by
  unfold waitsLeft
  split_ifs <;> omega

theorem waitsLeft_stored {c : Client SimBoard slots} {rest : Bytes}
    (hroom : c.pending + rest.length < c.window.length) :
    waitsLeft ([], c.openWindow.storePlaintext c.window.length rest) = waitsLeft (rest, c) := by
  have htake : c.engine.state.sendApp = true := sendApp_of_window (Nat.zero_lt_of_lt hroom)
  have hsame : waitsLeft (rest, c) = (c.pending + rest.length) / c.engine.capacity := waitsLeft_of_sendApp htake
  rw [length_window htake] at hroom
  rw [storePlaintext_eq htake, List.take_of_length_le (by omega), hsame]
  exact waitsLeft_of_sendApp htake

theorem waitsLeft_filled {c : Client SimBoard slots} {rest : Bytes} (hroom : c.pending < c.window.length)
    (hover : c.window.length ≤ c.pending + rest.length) :
    waitsLeft (rest, c) = (rest.drop (c.window.length - c.pending)).length / c.engine.capacity + 1 := by
  have htake : c.engine.state.sendApp = true := sendApp_of_window (Nat.zero_lt_of_lt hroom)
  rw [length_window htake] at hroom hover ⊢
  have hcapacity : 0 < c.engine.capacity := Nat.zero_lt_of_lt hroom
  have hsplit : c.pending + rest.length = (rest.drop (c.engine.capacity - c.pending)).length + c.engine.capacity := by
    rw [List.length_drop]
    omega
  rw [waitsLeft_of_sendApp htake]
  simp only
  rw [hsplit, Nat.add_div_right _ hcapacity]

theorem waitsLeft_full {c : Client SimBoard slots} {rest : Bytes} (hfull : c.window.length = c.pending)
    (hsome : c.flags.sendApp = true → c.window.length ≠ 0) :
    waitsLeft (rest, c) = rest.length / c.engine.capacity + 1 := by
  cases htake : c.engine.state.sendApp with
  | true =>
    have hnonempty := hsome htake
    rw [length_window htake] at hfull hnonempty
    rw [waitsLeft_of_sendApp htake]
    simp only
    rw [← hfull, Nat.add_comm, Nat.add_div_right _ (Nat.pos_of_ne_zero hnonempty)]
  | false =>
    rw [window_of_not_sendApp htake, List.length_nil] at hfull
    simp only [waitsLeft, htake, ← hfull]
    rw [Nat.zero_add, Nat.add_comm]
    rfl

/-- a wait for the engine to take plaintext that succeeds leaves an empty window -/
theorem Waited.waitsLeft {c c' : Client SimBoard slots} (h : Waited c { sendApp := true } (.ok ()) c') (rest : Bytes) :
    Client.waitsLeft (rest, c') = rest.length / c'.engine.capacity := by
  obtain ⟨htake, hpending⟩ := h.takes
  rw [waitsLeft_of_sendApp htake]
  simp only
  rw [hpending, Nat.zero_add]

/-! ## The turns -/

theorem handStored_time (c : Client SimBoard slots) : c.handStored.board.time = c.board.time := by
  simp only [handStored]
  split_ifs <;> rfl

/-- a turn of a write goes on, with its waits noted and fewer left -/
structure TurnedOn (c : Client SimBoard slots) (waits : List Nat) (rest : Bytes) (s : TimedJob slots) : Prop where
  steps : ∃ f, Steps c f s.2.2
  life : s.2.2.lifecycle = c.lifecycle
  within : ∀ ms ∈ s.1, ms ≤ c.waitLimit
  waits : s.1.length + waitsLeft s.2 = waits.length + waitsLeft (rest, c)
  turns : turnsLeft s.2 < turnsLeft (rest, c)

/-- a turn of a write was the last one -/
structure TurnedOut (c : Client SimBoard slots) (waits : List Nat) (rest : Bytes)
    (r : List Nat × Except Error Unit × Client SimBoard slots) : Prop where
  steps : ∃ f, Steps c f r.2.2
  late : Late c r.2.2
  within : ∀ ms ∈ r.1, ms ≤ c.waitLimit
  waits : r.1.length ≤ waits.length + waitsLeft (rest, c)

/-- a turn that waits -/
theorem awaitWindow_timed {budget : Nat} {c c' : Client SimBoard slots} {f : Flow} {waits : List Nat} {rest left : Bytes}
    {t : Turn (TimedJob slots) (List Nat × Except Error Unit × Client SimBoard slots)} (hok : c.status = .ok)
    (hs : Steps c f c'.handStored) (hlife : c'.lifecycle = c.lifecycle) (htime : c'.now = c.now) (hrest : rest ≠ [])
    (hleft : waitsLeft (rest, c) = left.length / c.engine.capacity + 1) (hwithin : ∀ ms ∈ waits, ms ≤ c.waitLimit)
    (ht : (c'.awaitWindow budget left).map (noteWait waits c'.now) = some t) :
    t.All (TurnedOn c waits rest) (TurnedOut c waits rest) := by
  obtain ⟨t, hwait, rfl⟩ := Option.map_eq_some_iff.1 ht
  obtain ⟨⟨r, c₂⟩, hdrive, rfl⟩ := Option.map_eq_some_iff.1 hwait
  have hhand : c'.handStored.lifecycle = c.lifecycle := (handStored_lifecycle c').trans hlife
  have hok' : c'.handStored.status = .ok := by
    rw [status, hhand]
    exact hok
  obtain ⟨hs₂, hend⟩ := drive_spec hok' hdrive
  have hnow : c'.handStored.now = c'.now := congrArg SimTime.now (handStored_time c')
  obtain ⟨hlimit, hlate⟩ := drive_timed hok' hdrive
  -- the new wait is within the limit, like those before
  have hnew : ∀ ms ∈ waits ++ [c₂.now - c'.now], ms ≤ c.waitLimit := by
    have hlimit := hlimit _ rfl
    rw [hnow, hs.later.waitLimit] at hlimit
    intro ms hms
    rcases List.mem_append.1 hms with hold | hlast
    · exact hwithin ms hold
    · rw [List.mem_singleton.1 hlast]
      omega
  have hcapacity : c₂.engine.capacity = c.engine.capacity := by
    obtain ⟨_, _, _, _, _, _, _, _, _, _, heq⟩ := (hs.trans hs₂).setup.eq
    rw [heq]
  generalize hfull : left.length / c.engine.capacity = full at hleft
  cases r with
  | error e =>
    refine .done ⟨⟨_, hs.trans hs₂⟩, ?_, hnew, ?_⟩
    · exact .trans hs hs₂ (.of_status (by rw [hok', hok])) hlate
    · simp only [List.length_append, List.length_singleton, hleft]
      omega
  | ok u =>
    have hafter := hend.waitsLeft left
    rw [hcapacity, hfull] at hafter
    have hlife₂ : c₂.lifecycle = c'.handStored.lifecycle := by
      cases hend with
      | reached hlife₂ => exact hlife₂
    refine .again ⟨⟨_, hs.trans hs₂⟩, hlife₂.trans hhand, hnew, ?_, ?_⟩
    · simp only [List.length_append, List.length_singleton, hleft, hafter]
      omega
    · simp only [turnsLeft, hleft, hafter, if_neg hrest]
      split_ifs <;> omega

/-- **A turn of a write waits once at most, and each wait is one less.** -/
theorem timedTurn_spec {budget : Nat} {c : Client SimBoard slots} {waits : List Nat} {rest : Bytes}
    {t : Turn (TimedJob slots) (List Nat × Except Error Unit × Client SimBoard slots)} (hok : c.status = .ok)
    (hup : c.lifecycle.engineConnected = true) (hwithin : ∀ ms ∈ waits, ms ≤ c.waitLimit)
    (ht : timedTurn budget (waits, rest, c) = some t) : t.All (TurnedOn c waits rest) (TurnedOut c waits rest) := by
  simp only [timedTurn] at ht
  have hmove := writeMove_spec c rest
  generalize writeMove (rest, c) = move at ht hmove
  cases hmove with
  | finished hrest =>
    cases ht
    exact .done ⟨⟨_, .refl⟩, .of_status rfl, hwithin, Nat.le_add_right _ _⟩
  | shortWindow h =>
    cases ht
    refine .done ⟨⟨_, (Step.failed (.shortWindow hok hup h)).steps⟩, ?_, hwithin, Nat.le_add_right _ _⟩
    intro _ _ hfailed
    rw [status_fail (c := c.openWindow) hok] at hfailed
    cases hfailed
  | noWindow htake hpending h =>
    cases ht
    refine .done ⟨⟨_, (Step.failed (.noWindow hok hup htake hpending h)).steps⟩, ?_, hwithin, Nat.le_add_right _ _⟩
    intro hsound _ _
    rw [length_window htake] at h
    exact absurd h (Nat.ne_of_gt hsound.engine.room)
  | stored hrest hroom =>
    cases ht
    refine .again ⟨⟨_, (Step.store hok hup hroom).steps⟩, rfl, hwithin, ?_, ?_⟩
    · rw [waitsLeft_stored hroom]
    · simp only [turnsLeft, waitsLeft_stored hroom, if_neg hrest, if_true]
      omega
  | filled hroom hover =>
    have hrest : rest ≠ [] := by
      rintro rfl
      simp only [List.length_nil] at hover
      omega
    have hfill := Step.fill hok hup hroom hover
    rw [← handStored_of_filled hroom hover] at hfill
    have htime : (c.openWindow.storePlaintext c.window.length rest).now = c.now := rfl
    exact awaitWindow_timed hok hfill.steps rfl htime hrest (waitsLeft_filled hroom hover) hwithin ht
  | full hrest hfull hsome =>
    have htime : c.openWindow.now = c.now := rfl
    exact awaitWindow_timed hok (Step.full hok hup hfull).steps rfl htime hrest (waitsLeft_full hfull hsome) hwithin ht

/-- **A write waits no more often than it fills a window, and once more**, each time within the limit. -/
theorem timedWrite_spec {budget : Nat} {data : Bytes} {c c' : Client SimBoard slots} {waits : List Nat}
    {r : Except Error Nat} (h : c.timedWrite budget data = some (waits, r, c')) :
    Late c c' ∧ (∀ ms ∈ waits, ms ≤ c.waitLimit) ∧ waits.length ≤ 1 + (c.pending + data.length) / c.engine.capacity := by
  unfold timedWrite at h
  cases hguard : c.lifecycle.softConnected (Engine.state c.board) with
  | error e =>
    rw [hguard] at h
    cases h
    exact ⟨.of_status rfl, nofun, Nat.zero_le _⟩
  | ok u =>
    rw [hguard] at h
    obtain ⟨hok, hup, -⟩ := Lifecycle.softConnected_ok hguard
    obtain ⟨⟨waits₁, r₁, c₁⟩, hloop, heq⟩ := Option.map_eq_some_iff.1 h
    cases heq
    -- the waits noted and the waits left never add up to more than at the start
    have hends := repeatTurn_all
      (I := fun s : TimedJob slots => (∃ f, Steps c f s.2.2) ∧ s.2.2.lifecycle = c.lifecycle ∧
        (∀ ms ∈ s.1, ms ≤ c.waitLimit) ∧ s.1.length + waitsLeft s.2 = waitsLeft (data, c))
      (Q := fun r => Late c r.2.2 ∧ (∀ ms ∈ r.1, ms ≤ c.waitLimit) ∧ r.1.length ≤ waitsLeft (data, c)) ?_
      ⟨⟨_, .refl⟩, rfl, fun _ hms => absurd hms List.not_mem_nil, Nat.zero_add _⟩ hloop
    · exact ⟨hends.1, hends.2.1, Nat.le_trans hends.2.2 (waitsLeft_le (data, c))⟩
    · rintro ⟨waits, rest, c₂⟩ t ⟨⟨f, hs⟩, hlife, hwithin, hwaits⟩ ht
      have hok₂ : c₂.status = .ok := (status_of_lifecycle hlife).trans hok
      have hlimit := hs.later.waitLimit
      rw [← hlimit] at hwithin ⊢
      refine (timedTurn_spec hok₂ (by rw [hlife]; exact hup) hwithin ht).imp ?_ ?_
      · rintro s ⟨⟨_, hs₂⟩, hlife₂, hwithin₂, hwaits₂, -⟩
        exact ⟨⟨_, hs.trans hs₂⟩, hlife₂.trans hlife, hwithin₂, hwaits₂.trans hwaits⟩
      · rintro r ⟨⟨_, hs₂⟩, hlate, hwithin₂, hwaits₂⟩
        exact ⟨.trans hs hs₂ (.of_status (hok₂.trans hok.symm)) hlate, hwithin₂, hwaits ▸ hwaits₂⟩

/-- a write leaves a trace of its waits -/
theorem timedWrite_of_write {budget : Nat} {data : Bytes} {c c' : Client SimBoard slots} {r : Except Error Nat}
    (h : c.write budget data = some (r, c')) : ∃ waits, c.timedWrite budget data = some (waits, r, c') := by
  rw [← timedWrite_erase] at h
  obtain ⟨⟨waits, answer⟩, htimed, rfl⟩ := Option.map_eq_some_iff.1 h
  exact ⟨waits, htimed⟩

theorem write_late {budget : Nat} {data : Bytes} {c c' : Client SimBoard slots} {r : Except Error Nat}
    (h : c.write budget data = some (r, c')) : Late c c' := by
  obtain ⟨_, htimed⟩ := timedWrite_of_write h
  exact (timedWrite_spec htimed).1

theorem writeAll_late {budget : Nat} {data : Bytes} {c c' : Client SimBoard slots} {r : Except Error Unit}
    (h : c.writeAll budget data = some (r, c')) : Late c c' := by
  unfold writeAll at h
  split_ifs at h
  · cases h
    exact .of_status rfl
  · obtain ⟨⟨r₁, c₁⟩, hwrite, heq⟩ := Option.map_eq_some_iff.1 h
    cases heq
    exact write_late hwrite

end TlsClient.Client

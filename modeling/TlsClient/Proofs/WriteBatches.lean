/-
How the plaintext of a write is cut into records.

Plaintext waits in the window of the engine and is handed over window by window. A write that succeeds hands over as
many full windows as there are in what was stored before and what is new, and leaves the rest. The pump runs only while
nothing is stored, and can hand over nothing in between.
- `Batched`: a piece of work that handed over so many full windows and nothing else;
- `Steps.unbatched`: what is done while nothing is stored hands over nothing;
- `writeTurn_batches`: one turn of a write, up to the wait in it and through it;
- `write_of_fits`: a write that leaves room in the window makes no call, on any board;
- `write_batches`: the quotient is handed over, the remainder stays.
-/
import TlsClient.Proofs.Histories
import TlsClient.Proofs.Transcripts

namespace TlsClient.Client

variable {slots : Nat} {c c' c'' : Client SimBoard slots} {data rest : Bytes} {f : Flow} {m n budget count : Nat}
  {t : Turn (Bytes × Client SimBoard slots) (Except Error Unit × Client SimBoard slots)}

/-! ## Full windows -/

/-- `n` full windows were handed over, and nothing else -/
structure Batched (n : Nat) (c c' : Client SimBoard slots) : Prop where
  capacity : c'.engine.capacity = c.engine.capacity
  handovers : c'.engine.handovers = c.engine.handovers ++ List.replicate n c.engine.capacity
  handoffs : c.stats.handoffs + n ≤ maxEvents → c'.stats.handoffs = c.stats.handoffs + n

theorem Batched.none (hcapacity : c'.engine.capacity = c.engine.capacity)
    (hhandovers : c'.engine.handovers = c.engine.handovers) (hhandoffs : c'.stats.handoffs = c.stats.handoffs) :
    Batched 0 c c' :=
  ⟨hcapacity, by rw [hhandovers, List.replicate_zero, List.append_nil], fun _ => hhandoffs⟩

theorem Batched.trans (h : Batched m c c') (h' : Batched n c' c'') : Batched (m + n) c c'' := by
  refine ⟨h'.capacity.trans h.capacity, ?_, fun hlimit => ?_⟩
  · rw [h'.handovers, h.handovers, h.capacity, List.append_assoc, List.replicate_append_replicate]
  · have hfirst := h.handoffs (by omega)
    rw [h'.handoffs (by omega)]
    omega

theorem Batched.hand (hfull : c.pending = c.engine.capacity) : Batched 1 c c.handPending := by
  rw [handPending_eq (Nat.le_of_eq hfull)]
  refine ⟨rfl, ?_, fun hlimit => Nat.min_eq_left hlimit⟩
  show c.engine.handovers ++ [c.pending] = _
  rw [hfull]
  rfl

/-! ## While nothing is stored -/

theorem Move.unbatched (h : Move c f c') (hpending : c.pending = 0) (hstored : f.stored = []) :
    c'.pending = 0 ∧ Batched 0 c c' := by
  cases h with
  | handed _ _ hpos => omega
  | full _ _ _ hpos => omega
  | fill _ _ _ hroom hfull =>
    simp only at hstored
    subst hstored
    simp only [List.length_nil] at hfull
    omega
  | @store data =>
    simp only at hstored
    subst hstored
    exact ⟨hpending, .none rfl rfl rfl⟩
  | @failed s c₁ _ hharm =>
    obtain ⟨plain, cipher, hengine, -⟩ := hharm.engine
    obtain ⟨unread, hdrained⟩ := c₁.engine.drained_frame c₁.engine.state
    have hstats : c₁.stats = c.stats := by rw [hharm.rest]
    rw [fail_eq, hdrained, hengine]
    exact ⟨rfl, .none rfl rfl (congrArg Stats.handoffs hstats)⟩
  | down =>
    obtain ⟨unread, hdrained⟩ := c.engine.drained_frame c.engine.state
    rw [teardown_eq, hdrained]
    exact ⟨rfl, .none rfl rfl rfl⟩
  | drop state =>
    obtain ⟨unread, hdrained⟩ := c.engine.drained_frame state
    rw [hdrained]
    exact ⟨hpending, .none rfl rfl rfl⟩
  | received =>
    obtain ⟨phase, unread, session, handshakes, hreceive⟩ := c.engine.receive_frame _
    rw [hreceive]
    exact ⟨hpending, .none rfl rfl rfl⟩
  | noWindow _ he => rcases he with rfl | rfl <;> exact ⟨hpending, .none rfl rfl rfl⟩
  | discard => exact ⟨rfl, .none rfl rfl rfl⟩
  | _ => exact ⟨hpending, .none rfl rfl rfl⟩

/-- **While nothing is stored, nothing is handed over.** -/
theorem Steps.unbatched (h : Steps c f c') (hpending : c.pending = 0) (hstored : f.stored = []) :
    c'.pending = 0 ∧ Batched 0 c c' := by
  refine h.invariant (I := fun f c' => f.stored = [] → c'.pending = 0 ∧ Batched 0 c c') ?_
    (fun _ => ⟨hpending, .none rfl rfl rfl⟩) hstored
  intro f g c₁ c₂ hkept hstep hnone
  obtain ⟨hf, hg⟩ := List.append_eq_nil_iff.1 hnone
  obtain ⟨hpending₁, hbatched₁⟩ := hkept hf
  obtain ⟨hpending₂, hbatched₂⟩ := hstep.move.unbatched hpending₁ hg
  exact ⟨hpending₂, hbatched₁.trans hbatched₂⟩

/-! ## Turns -/

/-- `rest` is left of `data`: all before it was handed over in `n` full windows, or waits in a window with room -/
structure Batching (n : Nat) (c : Client SimBoard slots) (data : Bytes) (job : Bytes × Client SimBoard slots) :
    Prop where
  total : c.pending + data.length = n * c.engine.capacity + job.2.pending + job.1.length
  room : job.2.pending < c.engine.capacity
  batched : Batched n c job.2
  lifecycle : job.2.lifecycle = c.lifecycle

theorem Batching.trans {job : Bytes × Client SimBoard slots} (h : Batching m c data (rest, c'))
    (h' : Batching n c' rest job) : Batching (m + n) c data job := by
  have hcapacity := h.batched.capacity
  refine ⟨?_, hcapacity ▸ h'.room, h.batched.trans h'.batched, h'.lifecycle.trans h.lifecycle⟩
  have htotal := h'.total
  rw [hcapacity] at htotal
  rw [h.total, Nat.add_mul]
  simp only at htotal ⊢
  omega

/-- a wait with nothing stored takes the write on, and hands over nothing -/
theorem awaitWindow_batches (c' : Client SimBoard slots) (hok : c.status = .ok) (hpos : 0 < c.engine.capacity)
    (hlife : c'.lifecycle = c.lifecycle) (hpending : c'.handStored.pending = 0) (hbatched : Batched n c c'.handStored)
    (htotal : c.pending + data.length = n * c.engine.capacity + rest.length)
    (ht : c'.awaitWindow budget rest = some t) :
    t.All (fun job => ∃ n, Batching n c data job) (fun r => r.1 = .ok () → r.2 = c ∧ data = []) := by
  refine (awaitWindow_cases ((status_of_lifecycle hlife).trans hok) ht).imp ?_ ?_
  · rintro ⟨left, c₁⟩ ⟨rfl, hs, hwaited⟩
    obtain ⟨hpending₁, hbatched₁⟩ := hs.unbatched hpending rfl
    cases hwaited with
    | reached hlife₁ =>
      refine ⟨n, ?_, ?_, hbatched.trans hbatched₁, (hlife₁.trans (handStored_lifecycle c')).trans hlife⟩
      · simp only [hpending₁]
        exact htotal
      · simp only [hpending₁]
        exact hpos
  · rintro r ⟨e, he⟩ hr
    rw [he] at hr
    cases hr

/-- **A turn of a write hands over a full window or none**, and the last one nothing. -/
theorem writeTurn_batches (hok : c.status = .ok) (hroom : c.pending < c.engine.capacity)
    (ht : writeTurn budget (data, c) = some t) :
    t.All (fun job => ∃ n, Batching n c data job) (fun r => r.1 = .ok () → r.2 = c ∧ data = []) := by
  have hpos : 0 < c.engine.capacity := by omega
  rw [writeTurn_eq] at ht
  have hmove := writeMove_spec c data
  generalize writeMove (data, c) = move at ht hmove
  cases hmove with
  | finished hnone =>
    cases ht
    exact .done fun _ => ⟨rfl, hnone⟩
  | shortWindow => cases ht; exact .done nofun
  | noWindow => cases ht; exact .done nofun
  | stored _ hfits =>
    cases ht
    have htake : c.engine.state.sendApp = true := sendApp_of_window (by omega)
    rw [length_window htake] at hfits
    rw [storePlaintext_eq htake, List.take_of_length_le (by omega)]
    exact .again ⟨0, by simp [pending, Backlog.advance], hfits, .none rfl rfl rfl, rfl⟩
  | filled hsome hfull =>
    have htake : c.engine.state.sendApp = true := sendApp_of_window (by omega)
    have hhand := handStored_of_filled hsome hfull
    have hstored := pending_store c data
    have hstore : Batched 0 c (c.openWindow.storePlaintext c.window.length data) := by
      rw [storePlaintext_eq htake]
      exact .none rfl rfl rfl
    rw [length_window htake] at hfull hstored
    have hpending : (c.openWindow.storePlaintext c.window.length data).pending =
        (c.openWindow.storePlaintext c.window.length data).engine.capacity := by
      rw [hstore.capacity, pending, length_window htake, hstored]
      omega
    refine awaitWindow_batches (n := 1) (c.openWindow.storePlaintext _ data) hok hpos rfl ?_ ?_ ?_ ht
    · rw [hhand]; rfl
    · rw [hhand]; exact hstore.trans (.hand hpending)
    · rw [List.length_drop, length_window htake]
      omega
  | full _ hfull =>
    -- a window that is full before anything is stored is none at all
    have htake : c.engine.state.sendApp = false := by
      rw [← Bool.not_eq_true]
      intro htake
      rw [length_window htake] at hfull
      omega
    have hnone : c.pending = 0 := by rw [← hfull, window_of_not_sendApp htake]; rfl
    have hsame : c.openWindow.handStored = c := by
      rw [openWindow_of_not_sendApp htake]
      exact if_neg (by rw [show c.backlog.pending = 0 from hnone]; decide)
    refine awaitWindow_batches (n := 0) c.openWindow hok hpos rfl ?_ ?_ ?_ ht
    · rw [hsame]; exact hnone
    · rw [hsame]; exact .none rfl rfl rfl
    · omega

/-! ## Writes -/

/-- **A write that leaves room in the window makes no call**, on any board: all it does is to store. -/
theorem write_of_fits {β : Type} [Board β] {c c' : Client β slots} (hfits : c.pending + data.length < c.window.length)
    (h : c.write budget data = some (.ok count, c')) :
    c' = if data = [] then c else c.openWindow.storePlaintext c.window.length data := by
  obtain ⟨-, -, hloop⟩ := writeTurns_of_write h
  refine repeatTurn_all
    (I := fun job => job = (data, c) ∨ data ≠ [] ∧ job = ([], c.openWindow.storePlaintext c.window.length data))
    (Q := fun r => r.2 = if data = [] then c else c.openWindow.storePlaintext c.window.length data) ?_ (.inl rfl) hloop
  rintro job t (rfl | ⟨hsome, rfl⟩) ht
  · rw [writeTurn_eq] at ht
    have hmove := writeMove_spec c data
    generalize writeMove (data, c) = move at ht hmove
    cases hmove with
    | finished hnone => cases ht; exact .done (if_pos hnone).symm
    | stored hsome => cases ht; exact .again (.inr ⟨hsome, rfl⟩)
    | shortWindow h => omega
    | noWindow _ _ h => omega
    | filled _ h => omega
    | full _ h => omega
  · cases ht
    exact .done (if_neg hsome).symm

theorem write_batching (hroom : c.pending < c.engine.capacity) (h : c.write budget data = some (.ok count, c')) :
    ∃ n, Batching n c data ([], c') := by
  obtain ⟨hguard, -, hloop⟩ := writeTurns_of_write h
  obtain ⟨hok, -, -⟩ := Lifecycle.softConnected_ok hguard
  refine repeatTurn_all (I := fun job => ∃ n, Batching n c data job)
    (Q := fun r => r.1 = .ok () → ∃ n, Batching n c data ([], r.2)) ?_
    ⟨0, by simp, hroom, .none rfl rfl rfl, rfl⟩ hloop rfl
  rintro ⟨rest, c₁⟩ t ⟨m, hbatching⟩ ht
  have hok₁ : c₁.status = .ok := by rw [status, hbatching.lifecycle]; exact hok
  have hroom₁ : c₁.pending < c₁.engine.capacity := hbatching.batched.capacity ▸ hbatching.room
  refine (writeTurn_batches hok₁ hroom₁ ht).imp ?_ ?_
  · rintro job ⟨n, hjob⟩
    exact ⟨m + n, hbatching.trans hjob⟩
  · rintro r hlast hr
    obtain ⟨hsame, rfl⟩ := hlast hr
    exact ⟨m, hsame ▸ hbatching⟩

/-- **A write hands over as many full windows as there are**, and the remainder stays stored. If there is none to hand
over, and the engine takes plaintext, nothing is said to the board. -/
theorem write_batches (hroom : c.pending < c.engine.capacity)
    (h : c.write budget data = some (.ok count, c')) :
    c'.engine.handovers = c.engine.handovers ++
        List.replicate ((c.pending + data.length) / c.engine.capacity) c.engine.capacity ∧
      c'.engine.violations = c.engine.violations ∧
      (c.stats.handoffs + (c.pending + data.length) / c.engine.capacity ≤ maxEvents →
        c'.stats.handoffs = c.stats.handoffs + (c.pending + data.length) / c.engine.capacity) ∧
      c'.pending = (c.pending + data.length) % c.engine.capacity ∧
      (c.engine.state.sendApp = true → c.pending + data.length < c.engine.capacity →
        ∃ o, c.overhear.write budget data = some (.ok count, o) ∧ o.carry Overheard.forget = c' ∧
          o.board.said = []) := by
  obtain ⟨n, hbatching⟩ := write_batching hroom h
  have hpos : 0 < c.engine.capacity := by omega
  have htotal : c.pending + data.length = c.engine.capacity * n + c'.pending := by
    rw [hbatching.total, Nat.mul_comm]
    rfl
  have hquotient : (c.pending + data.length) / c.engine.capacity = n := by
    rw [htotal, Nat.mul_add_div hpos, Nat.div_eq_of_lt hbatching.room, Nat.add_zero]
  have hremainder : (c.pending + data.length) % c.engine.capacity = c'.pending := by
    rw [htotal, Nat.mul_add_mod, Nat.mod_eq_of_lt hbatching.room]
  have hviolations : c'.engine.violations = c.engine.violations := by
    cases write_spec h with
    | all hs => exact hs.setup.violations
  rw [hquotient]
  refine ⟨hbatching.batched.handovers, hviolations, hbatching.batched.handoffs, hremainder.symm, fun htake hfits => ?_⟩
  have hperform : c.perform budget (.write data) = some (.count (.ok count), c') := by
    rw [perform, h]
    rfl
  obtain ⟨o, hsaid, hcarried⟩ := perform_overhear hperform
  obtain ⟨⟨r, o'⟩, hwrite, heq⟩ := Option.map_eq_some_iff.1 hsaid
  obtain ⟨hr, rfl⟩ := Prod.mk.inj heq
  obtain rfl : r = .ok count := Reply.count.inj hr
  refine ⟨o', hwrite, hcarried, ?_⟩
  have hwindow : c.overhear.window.length = c.engine.capacity := length_window htake
  rw [write_of_fits (by rw [hwindow]; exact hfits) hwrite]
  split_ifs <;> rfl

/-- with two bytes stored in a window of four, seven bytes more make two full windows and one byte; one byte more makes
none, and nothing is said -/
theorem write_batches_two_windows :
    ∃ c : Client SimBoard 1, c.pending = 2 ∧ c.engine.capacity = 4 ∧ c.engine.state.sendApp = true ∧
      (∃ c', c.write 50 [3, 4, 5, 6, 7, 8, 9] = some (.ok 7, c') ∧
        c'.engine.handovers = c.engine.handovers ++ [4, 4] ∧ c'.pending = 1) ∧
      ∃ c' o, c.write 50 [3] = some (.ok 1, c') ∧ c.overhear.write 50 [3] = some (.ok 1, o) ∧ o.board.said = [] := by
  have hplayed :
      (newcomer.undergo 50 [.request (.connect (.name "a") 443 fun _ => []), .request (.write [1, 2])]).map
          (fun s => (s.2.pending, s.2.engine.capacity, s.2.engine.state.sendApp,
            (s.2.write 50 [3, 4, 5, 6, 7, 8, 9]).bind (·.1.toOption), (s.2.write 50 [3]).bind (·.1.toOption))) =
        some (2, 4, true, some 7, some 1) := by
    decide +kernel
  obtain ⟨⟨log, c⟩, -, heq⟩ := Option.map_eq_some_iff.1 hplayed
  obtain ⟨hpending, hcapacity, htake, hlong, hshort⟩ : c.pending = 2 ∧ c.engine.capacity = 4 ∧
      c.engine.state.sendApp = true ∧ (c.write 50 [3, 4, 5, 6, 7, 8, 9]).bind (·.1.toOption) = some 7 ∧
      (c.write 50 [3]).bind (·.1.toOption) = some 1 := by
    simpa using heq
  have hroom : c.pending < c.engine.capacity := by omega
  refine ⟨c, hpending, hcapacity, htake, ?_, ?_⟩
  · obtain ⟨⟨e | count, c'⟩, hwrite, heq⟩ := Option.bind_eq_some_iff.1 hlong
    · cases heq
    cases heq
    obtain ⟨hhandovers, -, -, hleft, -⟩ := write_batches hroom hwrite
    rw [hpending, hcapacity] at hhandovers hleft
    exact ⟨c', hwrite, hhandovers, hleft⟩
  · obtain ⟨⟨e | count, c'⟩, hwrite, heq⟩ := Option.bind_eq_some_iff.1 hshort
    · cases heq
    cases heq
    obtain ⟨-, -, -, -, hquiet⟩ := write_batches hroom hwrite
    obtain ⟨o, hsame, -, hnone⟩ := hquiet htake (by simp [hpending, hcapacity])
    exact ⟨c', o, hwrite, hsame, hnone⟩

end TlsClient.Client

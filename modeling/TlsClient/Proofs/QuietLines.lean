/-
What a write on a quiet line drops.

A write waits once per window, and each wait looks for unread plaintext again. While the peer is silent nothing new can
become unread, so only the first look finds something: what was unread when the write began is dropped as a whole, once,
before the first byte is stored.
- `Resolved`: what is unread was dropped, once, or left alone;
- `Move.resolved`: so it stays in every step, and plaintext is stored only after it;
- `quiet_line_discards_once`: so it is after every write that succeeds, and after every wait to write.
-/
import TlsClient.Proofs.Sessions

namespace TlsClient.Client

variable {slots : Nat} {c c' c₀ : Client SimBoard slots} {f g : Flow} {budget : Nat}

/-- on a line on which nothing comes in, what was unread at `c₀` is left alone, or was dropped as a whole, once -/
structure Resolved (c₀ c : Client SimBoard slots) : Prop where
  quiet : c.socket.incoming = []
  once : (c.engine.unread = c₀.engine.unread ∧ c.stats.discards = c₀.stats.discards ∧
      c.stats.discardedBytes = c₀.stats.discardedBytes) ∨
    c₀.engine.unread ≠ [] ∧ c.engine.unread = [] ∧ c.stats.discards = addUpTo maxEvents c₀.stats.discards 1 ∧
      c.stats.discardedBytes = addUpTo maxBytes c₀.stats.discardedBytes c₀.engine.unread.length

theorem Resolved.frame (h : Resolved c₀ c) (hincoming : c'.socket.incoming = c.socket.incoming)
    (hunread : c'.engine.unread = c.engine.unread)
    (hstats : c'.stats.discards = c.stats.discards ∧ c'.stats.discardedBytes = c.stats.discardedBytes) :
    Resolved c₀ c' := by
  refine ⟨hincoming.trans h.quiet, ?_⟩
  rw [hunread, hstats.1, hstats.2]
  exact h.once

/-- what is dropped is dropped as a whole, and then there is nothing to drop -/
theorem Resolved.discard (h : Resolved c₀ c) (hunread : c.engine.unread ≠ []) :
    Resolved c₀
      { c with
        board.engine.unread := []
        backlog := .empty
        stats := c.stats.discarded c.engine.unread.length } := by
  refine ⟨h.quiet, .inr ?_⟩
  rcases h.once with ⟨hsame, hdiscards, hbytes⟩ | ⟨-, hnone, -⟩
  · refine ⟨hsame ▸ hunread, rfl, ?_, ?_⟩
    · show addUpTo maxEvents c.stats.discards 1 = _
      rw [hdiscards]
    · show addUpTo maxBytes c.stats.discardedBytes c.engine.unread.length = _
      rw [hbytes, hsame]
  · exact absurd hnone hunread

/-- the plaintext of a write is stored only after what was unread is gone, and nothing becomes unread after that -/
structure Silent (c₀ : Client SimBoard slots) (f : Flow) (c : Client SimBoard slots) : Prop extends Resolved c₀ c where
  setup : Setup c₀.engine c.engine
  first : f.stored ≠ [] → c.engine.unread = []

/-- an engine that shares one buffer takes plaintext only if nothing is unread -/
theorem Silent.unread_of_sendApp (h : Silent c₀ f c) (hforced : c₀.engine.forced = none)
    (hshared : c₀.engine.sharedBuffer = true) (htake : c.engine.state.sendApp = true) : c.engine.unread = [] :=
  ((SimEngine.sendApp_iff (h.setup.forced.trans hforced)).1 htake).2.2 (h.setup.sharedBuffer.trans hshared)

theorem Silent.frame (h : Silent c₀ f c) (hsetup : Setup c₀.engine c'.engine) (hstored : g.stored = [])
    (hincoming : c'.socket.incoming = c.socket.incoming) (hunread : c'.engine.unread = c.engine.unread)
    (hstats : c'.stats.discards = c.stats.discards ∧ c'.stats.discardedBytes = c.stats.discardedBytes) :
    Silent c₀ (f ++ g) c' := by
  refine ⟨h.toResolved.frame hincoming hunread hstats, hsetup, ?_⟩
  rw [Flow.stored_append, hstored, List.append_nil, hunread]
  exact h.first

/-- **Every step leaves what is unread alone, or drops it once**, until the connection is torn down. -/
theorem Move.resolved (hmove : Move c g c') (hforced : c₀.engine.forced = none)
    (hshared : c₀.engine.sharedBuffer = true) (hcloses : g.closes = false) (htaken : g.taken = [])
    (hstage : c.lifecycle.stage ≠ .closing) (h : Silent c₀ f c) :
    Gone c c' ∨ Silent c₀ (f ++ g) c' := by
  have hsetup := h.setup.trans hmove.setup
  cases hmove with
  | failed _ hharm => exact .inl (TornDown.of_harmed hharm _).gone
  | down => exact .inl (.teardown c)
  | closing => cases hcloses
  | drop _ hclosing => exact absurd hclosing hstage
  | received _ _ _ _ hpos _ hle =>
    rw [h.quiet, List.length_nil] at hle
    omega
  | take room =>
    have hsame : c.engine.unread.drop room = c.engine.unread := by
      have hsplit := List.take_append_drop room c.engine.unread
      rwa [show c.engine.unread.take room = [] from htaken] at hsplit
    exact .inr (h.frame hsetup rfl rfl hsame ⟨rfl, rfl⟩)
  | discard _ _ _ _ _ _ hunread => exact .inr ⟨h.toResolved.discard hunread, hsetup, fun _ => rfl⟩
  | store _ _ htake | fill _ _ htake =>
    have hnone := h.unread_of_sendApp hforced hshared htake
    exact .inr ⟨h.toResolved.frame rfl rfl ⟨rfl, rfl⟩, hsetup, fun _ => hnone⟩
  | noWindow _ he => rcases he with rfl | rfl <;> exact .inr (h.frame hsetup rfl rfl rfl ⟨rfl, rfl⟩)
  | _ => exact .inr (h.frame hsetup rfl rfl rfl ⟨rfl, rfl⟩)

theorem Steps.resolved (hs : Steps c f c') (hforced : c.engine.forced = none) (hshared : c.engine.sharedBuffer = true)
    (hincoming : c.socket.incoming = []) (hcloses : f.closes = false) (htaken : f.taken = [])
    (hstage : c.lifecycle.stage = .connected) (hlife : c'.lifecycle = c.lifecycle) : Silent c f c' := by
  have hstart : Silent c {} c := ⟨⟨hincoming, .inl ⟨rfl, rfl, rfl⟩⟩, .refl _, fun hsome => absurd rfl hsome⟩
  have hall := hs.upheld (I := fun f c' => f.taken = [] → Silent c f c') hcloses (fun _ => hstart) ?_
  · rcases hall with hgone | ⟨-, hsilent⟩
    · exact absurd hlife (hgone.lifecycle_ne (by rw [hstage]; decide))
    · exact hsilent htaken
  intro f g c₁ c₂ hlife hsilent hmove hcloses
  by_cases htaken : f.taken = [] ∧ g.taken = []
  · have hopen : c₁.lifecycle.stage ≠ .closing := by
      rw [hlife, hstage]
      decide
    exact (hmove.resolved hforced hshared hcloses htaken.2 hopen (hsilent htaken.1)).imp_right fun h _ => h
  · refine .inr fun hnone => absurd ?_ htaken
    exact List.append_eq_nil_iff.1 hnone

/-! ## Writes -/

/-- all that was unread was dropped, once if there was any, and counted, unless a counter stopped at its limit -/
structure DiscardedOnce (c c' : Client SimBoard slots) : Prop where
  unread : c'.engine.unread = []
  discards : c.stats.discards + (if c.engine.unread = [] then 0 else 1) ≤ maxEvents →
    c'.stats.discards = c.stats.discards + if c.engine.unread = [] then 0 else 1
  bytes : c.stats.discardedBytes + c.engine.unread.length ≤ maxBytes →
    c'.stats.discardedBytes = c.stats.discardedBytes + c.engine.unread.length

theorem Resolved.discardedOnce (h : Resolved c c') (hnone : c'.engine.unread = []) : DiscardedOnce c c' := by
  rcases h.once with ⟨hsame, hdiscards, hbytes⟩ | ⟨hunread, -, hdiscards, hbytes⟩
  · have hunread : c.engine.unread = [] := hsame ▸ hnone
    refine ⟨hnone, fun _ => ?_, fun _ => ?_⟩
    · rw [hdiscards, if_pos hunread]
      rfl
    · rw [hbytes, hunread]
      rfl
  · refine ⟨hnone, ?_, ?_⟩
    · rw [if_neg hunread, hdiscards]
      exact fun hlimit => Nat.min_eq_left hlimit
    · rw [hbytes]
      exact fun hlimit => Nat.min_eq_left hlimit

/-- **On a quiet line unread plaintext is dropped at most once per write.** While a connected client shares one buffer
with what it has not read, and the peer is silent: a write of any length that succeeds, and a wait until the engine
takes plaintext, leave nothing unread; they drop what was unread before as a whole, in one go, and count it so. -/
theorem quiet_line_discards_once (hforced : c.engine.forced = none) (hshared : c.engine.sharedBuffer = true)
    (hincoming : c.socket.incoming = []) (hphase : c.phase = .connected) :
    (∀ budget data count c', data ≠ [] → c.write budget data = some (.ok count, c') → DiscardedOnce c c') ∧
    ∀ budget c', c.runUntil budget { sendApp := true } = some (.ok (), c') → DiscardedOnce c c' := by
  obtain ⟨-, hstage⟩ := up_of_connected hphase
  constructor
  · intro budget data count c' hdata hwrite
    cases write_spec hwrite with
    | all hs hlife =>
      have hsilent := hs.resolved hforced hshared hincoming rfl rfl hstage hlife
      exact hsilent.discardedOnce (hsilent.first hdata)
  · intro budget c' hrun
    cases hguard : c.lifecycle.mayPump with
    | error e => simp [runUntil, hguard] at hrun
    | ok u =>
      simp only [runUntil, hguard] at hrun
      obtain ⟨hs, hend⟩ := drive_spec (Lifecycle.mayPump_ok hguard) hrun
      have htake := hend.takes.1
      cases hend with
      | reached hlife =>
        have hsilent := hs.resolved hforced hshared hincoming rfl rfl hstage hlife
        exact hsilent.discardedOnce (hsilent.unread_of_sendApp hforced hshared htake)

/-- three bytes are unread when ten are written through a window of four, or when the engine is waited for: they are
dropped once -/
theorem quiet_line_discards_once_three_windows :
    ∃ c c₁ c₂ : Client SimBoard 1, c.engine.forced = none ∧ c.engine.sharedBuffer = true ∧ c.socket.incoming = [] ∧
      c.phase = .connected ∧ c.engine.unread = [1, 2, 3] ∧ c.stats.discards = 0 ∧ c.stats.discardedBytes = 0 ∧
      (c.write 50 [10, 11, 12, 13, 14, 15, 16, 17, 18, 19] = some (.ok 10, c₁) ∧
        c₁.engine.unread = [] ∧ c₁.stats.discards = 1 ∧ c₁.stats.discardedBytes = 3) ∧
      c.runUntil 50 { sendApp := true } = some (.ok (), c₂) ∧
        c₂.engine.unread = [] ∧ c₂.stats.discards = 1 ∧ c₂.stats.discardedBytes = 3 := by
  have hplayed :
      (sharingNewcomer.undergo 50
        [.request (.connect (.name "a") 443 fun _ => []), .socket (.push [1, 2, 3]), .request .available]).map
          (fun s => (decide (s.2.engine.forced = none ∧ s.2.engine.sharedBuffer = true ∧ s.2.socket.incoming = [] ∧
              s.2.phase = .connected),
            decide (s.2.engine.unread = [1, 2, 3] ∧ s.2.stats.discards = 0 ∧ s.2.stats.discardedBytes = 0),
            (s.2.write 50 [10, 11, 12, 13, 14, 15, 16, 17, 18, 19]).bind fun r => r.1.toOption,
            (s.2.runUntil 50 { sendApp := true }).bind fun r => r.1.toOption)) =
        some (true, true, some 10, some ()) := by
    decide +kernel
  obtain ⟨⟨log, c⟩, hrun, heq⟩ := Option.map_eq_some_iff.1 hplayed
  simp only [Prod.mk.injEq, decide_eq_true_iff] at heq
  obtain ⟨⟨hforced, hshared, hincoming, hphase⟩, ⟨hunread, hdiscards, hbytes⟩, hwritten, hwaited⟩ := heq
  obtain ⟨⟨r₁, c₁⟩, hwrite, hr₁⟩ := Option.bind_eq_some_iff.1 hwritten
  obtain ⟨⟨r₂, c₂⟩, hwait, hr₂⟩ := Option.bind_eq_some_iff.1 hwaited
  obtain rfl : r₁ = .ok 10 := by
    cases r₁ <;> cases hr₁
    rfl
  obtain rfl : r₂ = .ok () := by
    cases r₂ <;> cases hr₂
    rfl
  obtain ⟨hwrites, hwaits⟩ := quiet_line_discards_once hforced hshared hincoming hphase
  -- what was unread was three bytes, and nothing had been dropped before
  have hcounts {c' : Client SimBoard 1} (h : DiscardedOnce c c') :
      c'.engine.unread = [] ∧ c'.stats.discards = 1 ∧ c'.stats.discardedBytes = 3 := by
    obtain ⟨hnone, honce, hall⟩ := h
    rw [hunread, hdiscards, if_neg (by decide)] at honce
    rw [hunread, hbytes] at hall
    exact ⟨hnone, honce (by decide), hall (by decide)⟩
  exact ⟨c, c₁, c₂, hforced, hshared, hincoming, hphase, hunread, hdiscards, hbytes,
    ⟨hwrite, hcounts (hwrites _ _ _ c₁ (by decide) hwrite)⟩, hwait, hcounts (hwaits _ c₂ hwait)⟩

end TlsClient.Client

/-
What holds of a session until it is torn down.

Once the handshake is over, no step changes the phase of the engine, and only a teardown ends the session. So what holds
of a session is proved move by move, for the moves that neither tear down nor begin a shutdown, and then holds at the
end of every run of steps, or the connection is gone.
- `Lived.up`: a connected client has a session up;
- `Established`: the handshake is over, `Established.steps`: and stays so;
- `Gone`: the connection was torn down since;
- `Steps.upheld`: what every move upholds until then holds at the end;
- `blockingRead_of_admitted`, `readExact_of_admitted`: a read that waits brings something, and a buffer that is not
  filled is lost with its connection.
-/
import TlsClient.Proofs.ReadStream
import TlsClient.Proofs.WaitOutcomes

namespace TlsClient.Client

variable {slots : Nat} {c c' c'' : Client SimBoard slots} {f : Flow} {budget room length : Nat}

/-! ## Connected clients -/

/-- a connected client has nothing on record -/
theorem up_of_connected (h : c.phase = .connected) : c.status = .ok ∧ c.lifecycle.stage = .connected := by
  by_cases hok : c.status = .ok
  · exact ⟨hok, phase_of_ok hok ▸ h⟩
  · rw [phase_of_failed hok] at h
    cases h

/-- a stage that says so has a session -/
def Staged (c : Client SimBoard slots) : Prop := c.lifecycle.stage = .connected → c.lifecycle.engineConnected = true

theorem Staged.fail (c : Client SimBoard slots) (s : Status) : Staged (c.fail s) := by
  rw [Staged, fail_eq]
  exact nofun

theorem Staged.move (h : Staged c) (hmove : Move c f c') : Staged c' := by
  cases hmove with
  | failed => exact .fail _ _
  | down =>
    rw [Staged, teardown_eq]
    exact nofun
  | closing => exact nofun
  | _ => exact h

theorem Steps.staged (h : Staged c) (hs : Steps c f c') : Staged c' :=
  hs.invariant (I := fun _ c' => Staged c') (fun h hstep => h.move hstep.move) h

theorem Connects.staged {draw : Nat → Bytes} {host : Host} {portNumber : Nat} {r : Except Error Unit} (h : Staged c)
    (hconnects : Connects draw host portNumber c r c') : Staged c' := by
  cases hconnects with
  | busy => exact h
  | refused => exact h
  | unstarted => exact .fail _ _
  | @waited waited c₁ _ _ _ hs =>
    have hlaunched : Staged (c.launched draw host portNumber) := by
      rw [Staged, launched_clean]
      exact nofun
    cases waited with
    | ok u =>
      rw [concludeHandshake, keepSession_eq]
      exact fun _ => rfl
    | error e =>
      simp only [concludeHandshake]
      split_ifs
      · exact .fail _ _
      · exact hs.staged hlaunched

theorem Lived.staged (h : Lived c) : Staged c := by
  induction h with
  | new => exact nofun
  | request _ hperform ih =>
    rcases perform_cases hperform with ⟨_, _, _, _, -, -, hconnects⟩ | ⟨-, _, hs, -⟩
    · exact hconnects.staged ih
    · exact hs.staged ih
  | outside _ _ ih | forget _ _ ih | setTimeout _ _ ih => exact ih

/-- **A connected client has a session up**, whatever happened to its board. -/
theorem Lived.up (h : Lived c) (hphase : c.phase = .connected) : Up c := by
  obtain ⟨hok, hstage⟩ := up_of_connected hphase
  exact ⟨hstage, h.staged hstage, hok⟩

/-! ## After the handshake -/

/-- an engine that is past its handshake waits for nothing more of the flight -/
theorem settled_of_past {phase : SimPhase} (h : phase = .app ∨ phase = .closed) :
    ∀ remaining, phase ≠ .awaiting remaining := by
  rintro remaining rfl
  rcases h with happ | hclosed
  · cases happ
  · cases hclosed

/-- the handshake is over, the engine shows the flags of its phase, and corrupted memory is on record -/
structure Established (c : Client SimBoard slots) : Prop where
  natural : c.engine.forced = none
  settled : ∀ remaining, c.engine.phase ≠ .awaiting remaining
  blamed : Blamed c

theorem Established.steps (h : Established c) (hs : Steps c f c') : Established c' := by
  refine ⟨hs.setup.forced.trans h.natural, ?_, hs.blamed h.blamed⟩
  rw [hs.phase h.settled]
  exact h.settled

/-- no step closes the engine -/
theorem Established.closed_steps (h : Established c) (hs : Steps c f c') : c'.flags.closed = c.flags.closed := by
  have hiff : c'.flags.closed = true ↔ c.flags.closed = true := by
    rw [flags_eq, flags_eq, SimEngine.closed_iff (h.steps hs).natural, SimEngine.closed_iff h.natural,
      hs.phase h.settled]
  exact Bool.eq_iff_iff.2 hiff

/-! ## Until the teardown -/

/-- the connection was torn down since, and teardowns are counted -/
structure Gone (c c' : Client SimBoard slots) : Prop extends Down c' where
  stops : c.socket.stops < c'.socket.stops

theorem TornDown.gone (h : TornDown c c') : Gone c c' :=
  ⟨h.toDown, Nat.lt_of_lt_of_eq (Nat.lt_succ_self _) h.stops.symm⟩

theorem Gone.teardown (c : Client SimBoard slots) : Gone c c.teardown := by
  refine ⟨.teardown c, ?_⟩
  rw [teardown_eq]
  exact Nat.lt_succ_self _

/-- what is torn down stays so, short of a shutdown -/
theorem Gone.move (h : Gone c c') (hmove : Move c' f c'') (hcloses : f.closes = false) : Gone c c'' := by
  refine ⟨?_, Nat.lt_of_lt_of_le h.stops hmove.stops_le⟩
  rcases hmove.course hcloses with hsteady | hdown
  · exact h.toDown.of_steady hsteady
  · exact hdown

/-- a lifecycle that goes on is not one that was torn down -/
theorem Gone.lifecycle_ne (h : Gone c c') (hlive : c.lifecycle.stage ≠ .closed) : c'.lifecycle ≠ c.lifecycle :=
  fun hlife => hlive (hlife ▸ h.stage)

/-- short of a shutdown, a move leaves the lifecycle alone, or tears the connection down -/
theorem Move.gone_or_kept (hmove : Move c f c') (hcloses : f.closes = false) :
    Gone c c' ∨ c'.lifecycle = c.lifecycle := by
  cases hmove with
  | failed _ hharm => exact .inl (TornDown.of_harmed hharm _).gone
  | down => exact .inl (.teardown c)
  | closing => cases hcloses
  | _ => exact .inr rfl

/-- **What every move upholds until the connection is torn down** holds at the end of a run, or the connection
is gone. -/
theorem Steps.upheld {I : Flow → Client SimBoard slots → Prop} (hs : Steps c f c') (hcloses : f.closes = false)
    (hstart : I {} c)
    (hmove : ∀ {f g c₁ c₂}, c₁.lifecycle = c.lifecycle → I f c₁ → Move c₁ g c₂ → g.closes = false →
      Gone c₁ c₂ ∨ I (f ++ g) c₂) :
    Gone c c' ∨ c'.lifecycle = c.lifecycle ∧ I f c' := by
  suffices hall : c.socket.stops ≤ c'.socket.stops ∧
      (f.closes = false → Gone c c' ∨ c'.lifecycle = c.lifecycle ∧ I f c') from hall.2 hcloses
  refine hs.invariant
    (I := fun f c' => c.socket.stops ≤ c'.socket.stops ∧
      (f.closes = false → Gone c c' ∨ c'.lifecycle = c.lifecycle ∧ I f c'))
    ?_ ⟨Nat.le_refl _, fun _ => .inr ⟨rfl, hstart⟩⟩
  rintro f g c₁ c₂ ⟨hle, hbefore⟩ hstep
  refine ⟨Nat.le_trans hle hstep.move.stops_le, fun hcloses => ?_⟩
  rw [Flow.closes_append, Bool.or_eq_false_iff] at hcloses
  rcases hbefore hcloses.1 with hgone | ⟨hlife, hholds⟩
  · exact .inl (hgone.move hstep.move hcloses.2)
  have hsince {c₃ : Client SimBoard slots} (hgone : Gone c₁ c₃) : Gone c c₃ :=
    ⟨hgone.toDown, Nat.lt_of_le_of_lt hle hgone.stops⟩
  rcases hstep.move.gone_or_kept hcloses.2 with hgone | hkept
  · exact .inl (hsince hgone)
  rcases hmove hlife hholds hstep.move hcloses.2 with hgone | hholds₂
  · exact .inl (hsince hgone)
  · exact .inr ⟨hkept.trans hlife, hholds₂⟩

/-! ## Reads that wait -/

/-- a read that is let in and waits brings something, or the connection was torn down -/
theorem blockingRead_of_admitted {r : Except Error Bytes} (hpast : Established c)
    (hguard : c.lifecycle.softConnected c.flags = .ok ()) (hroom : room ≠ 0)
    (h : c.blockingRead budget room = some (r, c')) :
    (∃ byte more, r = .ok (byte :: more) ∧ c'.lifecycle = c.lifecycle ∧ c'.socket.stops = c.socket.stops) ∨
      c.socket.stops < c'.socket.stops := by
  obtain ⟨hok, -, hopen⟩ := Lifecycle.softConnected_ok hguard
  simp only [blockingRead, if_neg hroom, hguard] at h
  obtain ⟨⟨waited, c₁⟩, hdrive, heq⟩ := Option.map_eq_some_iff.1 h
  have hclosed := hpast.closed_steps (drive_spec hok hdrive).1
  cases drive_outcome hpast.blamed hok hdrive with
  | @reached last hs hkept htarget =>
    have hrecv : last.engine.state.recvApp = true := by
      simpa [EngineState.intersects, EngineState.invalid] using htarget
    obtain ⟨-, -, hunread⟩ := (SimEngine.recvApp_iff (hpast.steps hs).natural).1 hrecv
    simp only [takeUnread_eq] at heq
    cases heq
    obtain ⟨byte, rest, hbytes⟩ := List.exists_cons_of_ne_nil hunread
    obtain ⟨more, rfl⟩ := Nat.exists_eq_succ_of_ne_zero hroom
    refine .inl ⟨byte, rest.take more, ?_, hkept.lifecycle, hkept.stops⟩
    show Except.ok (last.engine.unread.take (more + 1)) = _
    rw [hbytes, List.take_succ_cons]
  | closed _ hshut =>
    rw [flags_eq, hshut, hopen] at hclosed
    cases hclosed
  | timeout _ hdown | failed hdown | aborted hdown =>
    cases heq
    exact .inr hdown.gone.stops

/-- **A buffer that is not filled is lost with its connection**, if the read was let in at all. -/
theorem readExact_of_admitted {e : FillError} (hpast : Established c)
    (hguard : c.lifecycle.softConnected c.flags = .ok ()) (h : c.readExact budget length = some (.error e, c')) :
    c.socket.stops < c'.socket.stops := by
  induction length using Nat.strongRecOn generalizing c e with
  | ind length ih =>
    unfold readExact at h
    split_ifs at h with hlength
    · cases h
    split at h
    · cases h
    · next e₁ c₁ hread =>
      cases h
      rcases blockingRead_of_admitted hpast hguard hlength hread with ⟨_, _, hr, -⟩ | hdown
      · cases hr
      · exact hdown
    · next c₁ hread =>
      cases h
      rcases blockingRead_of_admitted hpast hguard hlength hread with ⟨_, _, hr, -⟩ | hdown
      · cases hr
      · exact hdown
    · next byte more c₁ hread =>
      obtain ⟨⟨r₂, c₂⟩, hrest, heq⟩ := Option.map_eq_some_iff.1 h
      obtain ⟨f, hs⟩ : ∃ f, Steps c f c₁ := by
        cases blockingRead_spec hread with | bytes hs => exact ⟨_, hs⟩
      cases r₂ with
      | ok bytes => cases heq
      | error e₂ =>
        cases heq
        rcases blockingRead_of_admitted hpast hguard hlength hread with ⟨_, _, -, hlife, hstops⟩ | hdown
        · rw [← hstops]
          refine ih _ (by omega) (hpast.steps hs) ?_ hrest
          rw [hlife, Lifecycle.softConnected, hpast.closed_steps hs]
          exact hguard
        · obtain ⟨_, hs₂, -⟩ := readExact_spec hrest
          exact Nat.lt_of_lt_of_le hdown hs₂.stops_le

end TlsClient.Client

/-
What a teardown leaves unread.

A teardown asks the flags of the engine whether there is unread plaintext to discard. The flags report none while
ciphertext is queued, and none in any phase but that of the application, so what the engine holds then survives.
- `SimEngine.hidden`: the unread plaintext that the flags do not report;
- `drained_eq`, `teardown_engine`: a teardown discards the rest, and nothing else;
- `Move.clears`, `Steps.clears`: so does every step that puts a failure on record, and nothing is unread again after;
- `Connects.clears`, `perform_clears`: and every request, but for a connect that is refused;
- `stop_clears`: a stop with nothing stored discards what the flags reported before it, and nothing else;
- `unread_after_teardown`: what is left unread after a stop, and after a failure.
-/
import TlsClient.Proofs.Observers

namespace TlsClient

namespace SimEngine

variable {e : SimEngine}

/-- the unread plaintext that the flags do not report -/
def hidden (e : SimEngine) : Bytes := if e.phase = .app ∧ e.outgoing = [] then [] else e.unread

theorem drained_eq (hforced : e.forced = none) : e.drained e.state = { e with unread := e.hidden } := by
  unfold drained hidden
  by_cases hrecv : e.state.recvApp = true
  · obtain ⟨happ, hqueue, -⟩ := (recvApp_iff hforced).1 hrecv
    rw [if_pos hrecv, if_pos ⟨happ, hqueue⟩]
  · rw [if_neg hrecv]
    split_ifs with hshown
    · have hunread : e.unread = [] := by
        by_contra hsome
        exact hrecv ((recvApp_iff hforced).2 ⟨hshown.1, hshown.2, hsome⟩)
      rw [← hunread]
    · rfl

@[simp] theorem hidden_hidden (e : SimEngine) : { e with unread := e.hidden }.hidden = e.hidden := by
  unfold hidden
  split_ifs <;> rfl

/-- where nothing shows, nothing shows after a part was taken -/
theorem hidden_of_part {unread : Bytes} (h : e.unread = e.hidden) (hpart : e.unread = [] → unread = []) :
    unread = { e with unread }.hidden := by
  unfold hidden at h ⊢
  split_ifs at h ⊢
  · exact hpart h
  · rfl

end SimEngine

namespace Client

variable {slots : Nat} {c c' : Client SimBoard slots} {f : Flow} {budget : Nat}

/-! ## Teardowns -/

/-- **A teardown discards the unread plaintext that the flags report**, and touches nothing else of the engine. -/
theorem teardown_engine (hforced : c.engine.forced = none) :
    c.teardown.engine = { c.engine with unread := c.engine.hidden } := by
  rw [teardown_eq]
  exact SimEngine.drained_eq hforced

theorem teardown_clears (hforced : c.engine.forced = none) :
    c.teardown.engine.unread = c.teardown.engine.hidden := by
  rw [teardown_engine hforced, SimEngine.hidden_hidden]

theorem fail_clears (hforced : c.engine.forced = none) (s : Status) :
    (c.fail s).engine.unread = (c.fail s).engine.hidden :=
  teardown_clears (c := { c with lifecycle := c.lifecycle.fail s }) hforced

/-! ## Steps -/

theorem Harmed.forced (h : Harmed c c') : c'.engine.forced = c.engine.forced := by
  obtain ⟨_, _, hengine, -⟩ := h.engine
  rw [hengine]

/-- **A move that puts a failure on record leaves unread only what is hidden**, and so does every move after it. -/
theorem Move.clears (hforced : c.engine.forced = none) (h : c.status = .ok ∨ c.engine.unread = c.engine.hidden)
    (hmove : Move c f c') : c'.status = .ok ∨ c'.engine.unread = c'.engine.hidden := by
  cases hmove with
  | failed _ hharm => exact .inr (fail_clears (hharm.forced.trans hforced) _)
  | down => exact .inr (teardown_clears hforced)
  | sent hok | handed hok | received hok | waited hok | discard hok | nudge hok | idle hok | store hok | fill hok
  | full hok => exact .inl hok
  | clock | poll | closing => exact h
  | noWindow _ he =>
    rcases he with rfl | rfl
    · exact h
    · exact h
  | take room =>
    refine h.imp_right fun hnone => SimEngine.hidden_of_part hnone fun hunread => ?_
    rw [hunread, List.drop_nil]
  | drop state =>
    refine h.imp_right fun hnone => ?_
    show (c.engine.drained state).unread = (c.engine.drained state).hidden
    unfold SimEngine.drained
    split_ifs
    · exact SimEngine.hidden_of_part hnone fun _ => rfl
    · exact hnone

theorem Steps.clears (hforced : c.engine.forced = none) (hok : c.status = .ok) (hs : Steps c f c') :
    c'.status = .ok ∨ c'.engine.unread = c'.engine.hidden := by
  have hboth : c'.engine.forced = none ∧ (c'.status = .ok ∨ c'.engine.unread = c'.engine.hidden) := by
    refine hs.invariant
      (I := fun _ c' => c'.engine.forced = none ∧ (c'.status = .ok ∨ c'.engine.unread = c'.engine.hidden)) ?_
      ⟨hforced, .inl hok⟩
    rintro f g c₁ c₂ ⟨hforced₁, h⟩ hstep
    exact ⟨hstep.move.setup.forced.trans hforced₁, hstep.move.clears hforced₁ h⟩
  exact hboth.2

/-! ## Requests -/

/-- a connect that fails discards what shows, unless it is refused -/
theorem Connects.clears {draw : Nat → Bytes} {host : Host} {portNumber : Nat} {r : Except Error Unit}
    (hforced : c.engine.forced = none) (hok : c.status = .ok) (h : Connects draw host portNumber c r c') :
    c'.status = .ok ∨ c'.status = .transportConnect ∨ c'.engine.unread = c'.engine.hidden := by
  have hlaunched := (launched_forced draw host portNumber c).trans hforced
  cases h with
  | busy => exact .inl hok
  | refused => exact .inr (.inl rfl)
  | unstarted => exact .inr (.inr (fail_clears hlaunched _))
  | @waited waited c₁ _ _ _ hs hend =>
    have hforced₁ := hs.setup.forced.trans hlaunched
    cases waited with
    | ok u =>
      cases hend with
      | reached hlife =>
        rw [concludeHandshake, keepSession_eq]
        exact .inl ((status_of_lifecycle hlife).trans (status_launched draw host portNumber c))
    | error e =>
      simp only [concludeHandshake]
      split_ifs with hisOk
      · exact .inr (.inr (fail_clears hforced₁ _))
      · have hfailed : c₁.status ≠ .ok := mt (Status.isOk_iff _).2 hisOk
        exact .inr (.inr ((hs.clears hlaunched (status_launched draw host portNumber c)).resolve_left hfailed))

/-- **A request that puts a failure on record leaves unread only what is hidden**, unless it is a connect that is
refused. -/
theorem perform_clears {request : Request} {reply : Reply} (hforced : c.engine.forced = none) (hok : c.status = .ok)
    (h : c.perform budget request = some (reply, c')) :
    c'.status = .ok ∨ c'.status = .transportConnect ∨ c'.engine.unread = c'.engine.hidden := by
  rcases perform_cases h with ⟨_, _, _, _, -, -, hconnects⟩ | ⟨-, _, hs, -⟩
  · exact hconnects.clears hforced hok
  · exact (hs.clears hforced hok).imp_right .inr

theorem flush_of_idle {r : Except Error Unit} (hidle : c.pending = 0) (h : c.flush budget = some (r, c')) : c' = c := by
  unfold flush at h
  cases hguard : c.lifecycle.mayPump with
  | error e =>
    rw [hguard] at h
    cases h
    rfl
  | ok u =>
    have hnone : c.backlog.pending = 0 := hidle
    simp only [hguard, hnone, if_true] at h
    cases h
    rfl

/-- a stop that has begun: what the flags report was discarded -/
def windingDown (c : Client SimBoard slots) : Client SimBoard slots :=
  { c with board.engine := c.engine.drained c.engine.state, lifecycle := c.lifecycle.closing }

theorem stop_eq (budget : Nat) (c : Client SimBoard slots) :
    c.stop budget =
      if c.lifecycle.engineConnected && !c.engine.state.closed && !c.engine.state.isInvalid && c.socket.isConnected then
        (c.windingDown.flush budget).map fun r => r.2.teardown
      else some c.teardown := by
  have hsocket : (Transport.connected c.board).1 = c.socket.isConnected := rfl
  have hstate : Engine.state c.board = c.engine.state := rfl
  simp only [stop, hsocket, hstate, closeGracefully, dropUnread_eq, Option.map_map]
  -- the socket is asked only if the session is open
  by_cases hopen : (c.lifecycle.engineConnected && !c.engine.state.closed && !c.engine.state.isInvalid) = true
  · rw [if_pos hopen, hopen, Bool.true_and]
    rfl
  · rw [if_neg hopen, if_neg fun hboth => hopen (Bool.and_eq_true_iff.1 hboth).1]

/-- **A stop leaves unread only what is hidden**; with nothing stored, that is what was hidden before. -/
theorem stop_clears (hforced : c.engine.forced = none) (h : c.stop budget = some c') :
    c'.engine.unread = c'.engine.hidden ∧ (c.pending = 0 → c'.engine.unread = c.engine.hidden) := by
  refine ⟨?_, fun hidle => ?_⟩
  · obtain ⟨_, c₁, hs, -, -, rfl⟩ := stop_spec h
    exact teardown_clears (hs.setup.forced.trans hforced)
  · rw [stop_eq] at h
    split_ifs at h
    · obtain ⟨⟨r, c₁⟩, hflush, rfl⟩ := Option.map_eq_some_iff.1 h
      obtain rfl := flush_of_idle (c := c.windingDown) hidle hflush
      have hdrained : c.windingDown.engine = { c.engine with unread := c.engine.hidden } :=
        SimEngine.drained_eq hforced
      have hforced₁ : c.windingDown.engine.forced = none := by
        rw [hdrained]
        exact hforced
      rw [teardown_engine hforced₁, hdrained, SimEngine.hidden_hidden]
    · cases h
      rw [teardown_engine hforced]

/-- **What is left unread after a teardown.** On an engine whose flags are not forced, in whatever state:
- a teardown discards the unread plaintext that the flags report, and changes nothing else of the engine;
- after a stop, nothing is unread but what the flags do not report, because ciphertext is queued or the engine is not in
  its application phase; with nothing stored, that is exactly what they did not report before;
- nor is anything else after a request that finds no failure on record and leaves one, be it any but that of a refused
  connect. -/
theorem unread_after_teardown (hforced : c.engine.forced = none) :
    c.teardown.engine = { c.engine with unread := c.engine.hidden } ∧
      (∀ budget c', c.stop budget = some c' →
        c'.engine.unread = c'.engine.hidden ∧ (c.pending = 0 → c'.engine.unread = c.engine.hidden)) ∧
      ∀ budget request reply c', c.perform budget request = some (reply, c') → c.status = .ok → c'.status ≠ .ok →
        c'.status ≠ .transportConnect → c'.engine.unread = c'.engine.hidden := by
  refine ⟨teardown_engine hforced, fun _ _ => stop_clears hforced, ?_⟩
  intro budget request reply c' hperform hok hfailed hrefused
  exact ((perform_clears hforced hok hperform).resolve_left hfailed).resolve_left hrefused

/-- three bytes are unread: they are gone after a stop, and when the socket is found to have vanished -/
theorem unread_after_teardown_peer_drop :
    ∃ c : Client SimBoard 1, Lived c ∧ c.engine.forced = none ∧ c.engine.unread = [7, 8, 9] ∧
      (∃ c', c.stop 50 = some c' ∧ c'.engine.unread = []) ∧
      c.connected.2.status = .transportWrite ∧ c.connected.2.engine.unread = [] := by
  have hplayed :
      (newcomer.undergo 50 [.request (.connect (.name "a") 443 fun _ => []), .socket (.push [7, 8, 9]),
        .request .available, .socket (.isConnected false)]).bind
          (fun s => (s.2.stop 50).map fun _ =>
            (decide (s.2.engine.forced = none ∧ s.2.pending = 0 ∧ s.2.status = .ok ∧
                s.2.connected.2.status = .transportWrite),
              s.2.engine.unread, s.2.engine.hidden, s.2.connected.2.engine.hidden)) =
        some (true, [7, 8, 9], [], []) := by
    decide +kernel
  obtain ⟨⟨log, c⟩, hrun, hstops⟩ := Option.bind_eq_some_iff.1 hplayed
  obtain ⟨c', hstop, heq⟩ := Option.map_eq_some_iff.1 hstops
  simp only [Prod.mk.injEq, decide_eq_true_iff] at heq
  obtain ⟨⟨hforced, hidle, hok, hstatus⟩, hunread, hhidden, hleft⟩ := heq
  obtain ⟨-, hstopped, hrequest⟩ := unread_after_teardown hforced
  refine ⟨c, .of_undergo (.new _ _) hrun, hforced, hunread, ⟨c', hstop, ?_⟩, hstatus, ?_⟩
  · rw [(hstopped 50 c' hstop).2 hidle, hhidden]
  · have hasked := hrequest 50 .connected _ _ rfl hok (by rw [hstatus]; decide) (by rw [hstatus]; decide)
    rw [hasked, hleft]

/-- a write fails while its record is queued, and an engine is closed before a stop: what was unread still is -/
theorem unread_survives_teardown :
    (newcomer.undergo 50 [.request (.connect (.name "a") 443 fun _ => []), .socket (.push [7, 8, 9]),
      .request .available, .socket (.failWrites true), .request (.write [1, 2, 3, 4])]).map
        (fun s => (s.2.engine.forced, s.2.status, s.2.phase, s.2.engine.unread)) =
      some (none, .transportWrite, .errored, [7, 8, 9]) ∧
    (newcomer.undergo 50 [.request (.connect (.name "a") 443 fun _ => []), .socket (.push [7, 8, 9]),
      .request .available, .engine .close, .request .stop]).map
        (fun s => (s.2.engine.forced, s.2.status, s.2.phase, s.2.engine.unread)) =
      some (none, .ok, .closed, [7, 8, 9]) := by
  decide +kernel

end Client

end TlsClient

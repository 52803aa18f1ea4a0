/-
Where the byte stream ends.

No bytes is how a read of the byte stream tells its end, and a closed engine is what it means by that. But it also takes
what the engine has once the engine reports unread plaintext, and does not look whether there is any.
- `SimEngine.Pretends`: the flags report unread plaintext, and there is none; only forced flags do that;
- `Waited.unread_or_pretends`: what a wait for plaintext leaves;
- `blockingRead_ends`: a read of no bytes is the end, or the engine pretends;
- `blockingRead_of_pretends`: and an engine that pretends ends the stream while it is open;
- `stream_ends`: both.
-/
import TlsClient.Proofs.Observers

namespace TlsClient

/-- the flags are forced to report unread plaintext on an open engine, and there is none -/
def SimEngine.Pretends (e : SimEngine) : Prop :=
  ∃ flags, e.forced = some flags ∧ flags.recvApp = true ∧ flags.closed = false ∧ e.unread = []

theorem SimEngine.state_of_forced {e : SimEngine} {flags : EngineState} (h : e.forced = some flags) :
    e.state = flags := by
  simp [state, h]

theorem SimEngine.unread_or_pretends {e : SimEngine} (hrecv : e.state.recvApp = true)
    (hopen : e.state.closed = false) : e.unread ≠ [] ∨ e.Pretends := by
  cases hforced : e.forced with
  | none => exact .inl ((recvApp_iff hforced).1 hrecv).2.2
  | some flags =>
    have hstate := state_of_forced hforced
    rw [or_iff_not_imp_left, not_not]
    intro hunread
    exact ⟨flags, hforced, hstate ▸ hrecv, hstate ▸ hopen, hunread⟩

theorem Lifecycle.closed_of_refused {l : Lifecycle} {engine : EngineState}
    (h : l.softConnected engine = .error .engineClosed) : engine.closed = true := by
  unfold softConnected at h
  split_ifs at h with hok hup hclosed
  · cases h
  · cases h
  · exact hclosed

namespace Client

variable {slots : Nat} {c c' : Client SimBoard slots} {budget room : Nat} {bytes : Bytes}

theorem Waited.unread_or_pretends {start : Client SimBoard slots} (h : Waited start { recvApp := true } (.ok ()) c) :
    c.engine.unread ≠ [] ∨ c.engine.Pretends := by
  cases h with
  | reached _ _ hopen _ _ hreached =>
    refine SimEngine.unread_or_pretends ?_ hopen
    simpa [Client.reached, EngineState.intersects, EngineState.isInvalid, EngineState.invalid, flags_eq] using hreached

/-- **A read of the byte stream returns a byte, or the engine is closed, or it pretends.** -/
theorem blockingRead_ends (hroom : room ≠ 0) (h : c.blockingRead budget room = some (.ok bytes, c')) :
    bytes ≠ [] ∨ c'.engine.state.closed = true ∨ c'.engine.Pretends := by
  simp only [blockingRead, if_neg hroom] at h
  cases hguard : c.lifecycle.softConnected (Engine.state c.board) with
  | error e =>
    rw [hguard] at h
    cases e with
    | engineClosed =>
      cases h
      exact .inr (.inl (Lifecycle.closed_of_refused hguard))
    | _ => cases h
  | ok u =>
    rw [hguard] at h
    obtain ⟨⟨waited, c₁⟩, hdrive, heq⟩ := Option.map_eq_some_iff.1 h
    obtain ⟨-, hend⟩ := drive_spec (Lifecycle.softConnected_ok hguard).1 hdrive
    cases waited with
    | ok u =>
      simp only [takeUnread_eq] at heq
      cases heq
      rcases hend.unread_or_pretends with hunread | ⟨flags, hforced, hrecv, hopen, hunread⟩
      · refine .inl ?_
        rw [Ne, List.take_eq_nil_iff]
        exact not_or_intro hroom hunread
      · refine .inr (.inr ⟨flags, hforced, hrecv, hopen, ?_⟩)
        show c₁.engine.unread.drop room = []
        rw [hunread, List.drop_nil]
    | error e =>
      cases hend with
      | closed _ _ hclosed =>
        cases heq
        exact .inr (.inl hclosed)
      | aborted => cases heq
      | failed _ he =>
        rcases he with rfl | rfl
        · cases heq
        · cases heq

theorem pumpTurn_of_idle (hopen : c.engine.state.closed = false) (hsend : c.engine.state.sendRec = false)
    (hpending : c.pending = 0) (hrecv : c.engine.state.recvRec = false) : c.pumpTurn = .done (c.engine.state, c) := by
  have hidle : ¬0 < c.backlog.pending := Nat.not_lt.2 (Nat.le_of_eq hpending)
  have hstate : Engine.state c.board = c.engine.state := rfl
  simp [pumpTurn, hstate, hopen, hsend, hidle, hrecv]

/-- **An engine that pretends ends the stream while it is open.** -/
theorem blockingRead_of_pretends (h : c.engine.Pretends) (hguard : c.lifecycle.softConnected c.flags = .ok ())
    (hsane : c.abort = false) (hpending : c.pending = 0) (hsend : c.engine.state.sendRec = false)
    (hrecv : c.engine.state.recvRec = false) (htick : c.tick ≤ c.config.timeoutMs) (hroom : room ≠ 0) (budget : Nat) :
    ∃ c', c.blockingRead (budget + 1) room = some (.ok [], c') ∧ c'.engine.state.closed = false := by
  obtain ⟨hok, -, hopen⟩ := Lifecycle.softConnected_ok hguard
  obtain ⟨flags, hforced, hshows, hshut, hunread⟩ := h
  have hstate : c.clocked.engine.state = flags := SimEngine.state_of_forced hforced
  have hpump := pump_of_done (pumpTurn_of_idle (c := c.clocked) hopen hsend hpending hrecv) budget
  have htarget : c.clocked.engine.state.intersects { recvApp := true } = true := by
    simp [hstate, EngineState.intersects, hshows]
  have hintime : c.tick + (c.clocked.now - c.clocked.now) ≤ c.config.timeoutMs := by
    rw [Nat.sub_self]
    exact htick
  obtain ⟨hdrive, -⟩ := drive_of_first_run (.of_sane hsane) hok hpump htarget hopen hintime
  have htaken : c.clocked.clocked.engine.unread.take room = [] := by
    rw [show c.clocked.clocked.engine.unread = [] from hunread, List.take_nil]
  refine ⟨{ c.clocked.clocked with board.engine.unread := c.engine.unread.drop room }, ?_, ?_⟩
  · simp only [blockingRead, if_neg hroom, hguard, hdrive, Option.map_some, takeUnread_eq, htaken]
    rfl
  · have hleft : { c.engine with unread := c.engine.unread.drop room }.state = flags :=
      SimEngine.state_of_forced (e := { c.engine with unread := c.engine.unread.drop room }) hforced
    exact (congrArg EngineState.closed hleft).trans hshut

/-- **Where the byte stream ends.** Whatever the state of client, engine and socket, a read of the byte stream that has
room and is answered without an error returns at least one byte, unless the engine is closed then, or its flags are forced
to report unread plaintext and there is none. In the latter case, on a session with nothing to do, it does return no byte,
with the engine open. A read comes to an end, if to read the clock takes time at all. -/
theorem stream_ends (hroom : 0 < room) :
    (∀ budget bytes c', c.blockingRead budget room = some (.ok bytes, c') →
      bytes ≠ [] ∨ c'.engine.state.closed = true ∨ c'.engine.Pretends) ∧
    (c.engine.Pretends → c.lifecycle.softConnected c.flags = .ok () → c.abort = false → c.pending = 0 →
      c.engine.state.sendRec = false → c.engine.state.recvRec = false → c.tick ≤ c.config.timeoutMs →
      ∃ budget c', c.blockingRead budget room = some (.ok [], c') ∧ c'.engine.state.closed = false) ∧
    (0 < c.tick → ∃ r, Settles (fun budget => c.blockingRead budget room) r) := by
  have hroom : room ≠ 0 := Nat.ne_of_gt hroom
  refine ⟨fun _ _ _ => blockingRead_ends hroom, ?_, fun htick => blockingRead_settles htick room⟩
  intro hpretends hguard hsane hpending hsend hrecv htick
  exact ⟨_, blockingRead_of_pretends hpretends hguard hsane hpending hsend hrecv htick hroom 0⟩

/-- the peer has sent two bytes, and the flags are not forced: a read of the byte stream returns some -/
theorem stream_ends_bytes_there :
    ∃ (c c' : Client SimBoard 1) (bytes : Bytes), Lived c ∧ c.blockingRead 50 4 = some (.ok bytes, c') ∧
      c'.engine.state.closed = false ∧ c'.engine.forced = none ∧ bytes ≠ [] := by
  have hplayed :
      (newcomer.undergo 50 [.request (.connect (.name "a") 443 fun _ => []), .socket (.push [7, 8])]).bind
          (fun s => (s.2.blockingRead 50 4).map fun r =>
            (r.1.toOption.isSome, r.2.engine.state.closed, r.2.engine.forced)) =
        some (true, false, none) := by
    decide +kernel
  obtain ⟨⟨log, c⟩, hrun, hread⟩ := Option.bind_eq_some_iff.1 hplayed
  obtain ⟨⟨r, c'⟩, hread, heq⟩ := Option.map_eq_some_iff.1 hread
  simp only [Prod.mk.injEq] at heq
  obtain ⟨hanswer, hopen, hforced⟩ := heq
  cases r with
  | error e => cases hanswer
  | ok bytes =>
    have hroom : 0 < 4 := by decide
    obtain ⟨hends, -⟩ := stream_ends (c := c) hroom
    refine ⟨c, c', bytes, .of_undergo (.new _ _) hrun, hread, hopen, hforced, ?_⟩
    rcases hends 50 bytes c' hread with hsome | hclosed | ⟨flags, hflags, -⟩
    · exact hsome
    · rw [hopen] at hclosed
      cases hclosed
    · rw [hforced] at hflags
      cases hflags

/-- the flags are forced to report unread plaintext: the stream ends on a session that is up -/
theorem stream_ends_early :
    (newcomer.undergo 50 [.request (.connect (.name "a") 443 fun _ => []),
      .engine (.forced (some { recvApp := true }))]).bind
        (fun s => (s.2.blockingRead 50 4).map fun r =>
          (r.1.toOption, r.2.engine.state.closed, r.2.status, r.2.phase)) =
      some (some [], false, .ok, .connected) := by
  decide +kernel

end Client

end TlsClient

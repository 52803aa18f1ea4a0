/-
Sessions that outlive a failure.

Whatever fails tears the connection down, but for one thing: a connect that the peer refuses only puts its failure on
record. If the socket of an earlier session had vanished unnoticed, that session counts as up from then on, and is torn
down a second time when somebody asks for it.
- `Stranded`: a failure is on record, and a session counts as up all the same;
- `Strands`: the requests that leave a session stranded;
- `stranded_iff`: there are no others;
- `Lived.stranded`: the failure on record is then that of a refused connect;
- `session_after_failure`: both, and what is asked of such a session afterwards.
-/
import TlsClient.Proofs.LifecycleStates
import TlsClient.Proofs.Reports

namespace TlsClient.Client

variable {slots : Nat} {c c' : Client SimBoard slots}

/-- a failure is on record, and a session counts as up all the same -/
structure Stranded (c : Client SimBoard slots) : Prop where
  failed : c.status ≠ .ok
  session : c.lifecycle.engineConnected = true

/-- is a session that counts as up stranded after the request? it is by a connect that is refused, and it stays so for as
long as no request tears it down -/
def Strands (c : Client SimBoard slots) : Request → Prop
  | .connect .. => if c.socket.isConnected then c.status ≠ .ok else c.socket.acceptsConnect = false
  | .stop => False
  | .connected => c.status ≠ .ok ∧ (c.socket.isConnected = true ∨ c.engine.state.closed = true)
  | _ => c.status ≠ .ok

theorem Up.not_stranded (h : Up c) : ¬Stranded c := fun hstranded => hstranded.failed h.status

theorem Down.not_stranded (h : Down c) : ¬Stranded c := by
  intro hstranded
  have hup := hstranded.session
  rw [h.session] at hup
  cases hup

/-! ## One request -/

theorem Connects.stranded_iff {draw : Nat → Bytes} {host : Host} {portNumber : Nat} {r : Except Error Unit}
    (h : Connects draw host portNumber c r c') :
    Stranded c' ↔ c.lifecycle.engineConnected = true ∧ Strands c (.connect host portNumber draw) := by
  simp only [Strands]
  rcases h.course with ⟨hopen, rfl⟩ | ⟨hdown, hrefuses, -, hlife⟩ | ⟨hdown, haccepts, hend⟩
  · rw [if_pos hopen]
    exact ⟨fun hstranded => ⟨hstranded.session, hstranded.failed⟩, fun ⟨hup, hfailed⟩ => ⟨hfailed, hup⟩⟩
  · rw [if_neg (by simp [hdown])]
    constructor
    · rintro ⟨-, hup⟩
      rw [hlife] at hup
      exact ⟨hup, hrefuses⟩
    · rintro ⟨hup, -⟩
      refine ⟨?_, ?_⟩
      · rw [status, hlife]
        rintro ⟨⟩
      · rw [hlife]
        exact hup
  · rw [if_neg (by simp [hdown])]
    refine iff_of_false ?_ ?_
    · rcases hend with hup | htorn
      · exact hup.not_stranded
      · exact htorn.not_stranded
    · rintro ⟨-, hrefuses⟩
      rw [haccepts] at hrefuses
      cases hrefuses

/-- to ask whether a session is usable tears one down whose socket has vanished, unless its engine is closed -/
theorem connected_eq (c : Client SimBoard slots) :
    c.connected =
      if c.lifecycle.engineConnected && !c.engine.state.closed && !c.socket.isConnected then
        (false, c.fail .transportWrite)
      else (c.lifecycle.verdict c.socket.isConnected c.engine.state, c) := rfl

theorem connected_stranded_iff : Stranded c.connected.2 ↔ c.lifecycle.engineConnected = true ∧ Strands c .connected := by
  simp only [Strands]
  rw [connected_eq]
  split_ifs with hgone
  · simp only [Bool.and_eq_true, Bool.not_eq_true'] at hgone
    obtain ⟨⟨-, hopen⟩, hdown⟩ := hgone
    refine iff_of_false (Down.fail c .transportWrite).not_stranded ?_
    rintro ⟨-, -, hup | hclosed⟩
    · rw [hdown] at hup
      cases hup
    · rw [hopen] at hclosed
      cases hclosed
  · constructor
    · rintro ⟨hfailed, hup⟩
      have hup : c.lifecycle.engineConnected = true := hup
      refine ⟨hup, hfailed, ?_⟩
      cases hsocket : c.socket.isConnected with
      | true => exact .inl rfl
      | false => exact .inr (by simpa [hup, hsocket] using hgone)
    · rintro ⟨hup, hfailed, -⟩
      exact ⟨hfailed, hup⟩

theorem perform_eq_of_failed {budget : Nat} {r : Request} {reply : Reply} (hfailed : c.status ≠ .ok)
    (hguarded : r.guarded = true) (h : c.perform budget r = some (reply, c')) : c' = c := by
  cases hasks : r.asks with
  | false => exact perform_asks_nothing hasks h
  | true =>
    rw [perform_of_failed hfailed hguarded hasks] at h
    cases h
    rfl

/-- a call that has a guard leaves nothing stranded but what was stranded before -/
theorem guarded_stranded_iff {budget : Nat} {r : Request} {reply : Reply} (hguarded : r.guarded = true)
    (h : c.perform budget r = some (reply, c')) : Stranded c' ↔ Stranded c := by
  by_cases hok : c.status = .ok
  · -- what fails now is torn down
    obtain ⟨flow, hs, hfits⟩ := perform_steps (Request.opens_of_guarded hguarded) h
    have hcloses : flow.closes = false := by
      rw [← Bool.not_eq_true]
      intro hcloses
      rw [hfits.closes hcloses] at hguarded
      cases hguarded
    refine iff_of_false ?_ fun hstranded => hstranded.failed hok
    rcases hs.course hcloses with hsteady | hdown
    · intro hstranded
      exact hstranded.failed ((status_of_lifecycle hsteady.lifecycle).trans hok)
    · exact hdown.not_stranded
  · rw [perform_eq_of_failed hok hguarded h]

/-- **A request leaves a session stranded exactly if it was up before, and the request is a connect that is refused, or
does not touch a session that was stranded before.** -/
theorem stranded_iff {budget : Nat} {r : Request} {reply : Reply} (h : c.perform budget r = some (reply, c')) :
    Stranded c' ↔ c.lifecycle.engineConnected = true ∧ Strands c r := by
  cases r with
  | connect host portNumber draw =>
    obtain ⟨⟨r, c₁⟩, hconnect, heq⟩ := Option.map_eq_some_iff.1 h
    cases heq
    exact (connect_spec hconnect).stranded_iff
  | connected =>
    cases h
    exact connected_stranded_iff
  | stop =>
    obtain ⟨c₁, hstop, heq⟩ := Option.map_eq_some_iff.1 h
    cases heq
    obtain ⟨_, c₂, -, -, -, rfl⟩ := stop_spec hstop
    exact iff_of_false (Down.teardown c₂).not_stranded fun h => h.2
  | _ =>
    rw [guarded_stranded_iff rfl h]
    exact ⟨fun hstranded => ⟨hstranded.session, hstranded.failed⟩, fun ⟨hup, hfailed⟩ => ⟨hfailed, hup⟩⟩

/-! ## Every state -/

theorem perform_stranded {budget : Nat} {r : Request} {reply : Reply} (h : c.perform budget r = some (reply, c'))
    (hstranded : Stranded c') : c'.status = .transportConnect ∨ Stranded c ∧ c'.status = c.status := by
  obtain ⟨hup, hstrands⟩ := (stranded_iff h).1 hstranded
  cases r with
  | connect host portNumber draw =>
    obtain ⟨⟨r, c₁⟩, hconnect, heq⟩ := Option.map_eq_some_iff.1 h
    cases heq
    rcases (connect_spec hconnect).course with ⟨hopen, rfl⟩ | ⟨-, -, -, hlife⟩ | ⟨-, -, hend⟩
    · exact .inr ⟨hstranded, rfl⟩
    · exact .inl (congrArg Lifecycle.status hlife)
    · rcases hend with hup | hdown
      · exact absurd hstranded hup.not_stranded
      · exact absurd hstranded hdown.not_stranded
  | connected =>
    cases h
    have hkept : c.connected.2 = c := by
      rw [connected_eq] at hstranded ⊢
      split_ifs at hstranded ⊢
      · exact absurd hstranded (Down.fail c .transportWrite).not_stranded
      · rfl
    exact .inr ⟨⟨hstrands.1, hup⟩, by rw [hkept]⟩
  | stop => exact hstrands.elim
  | _ => exact .inr ⟨⟨hstrands, hup⟩, by rw [perform_eq_of_failed hstrands rfl h]⟩

/-- **Wherever a client is led, a stranded session has the failure of a refused connect on record.** -/
theorem Lived.stranded (h : Lived c) (hstranded : Stranded c) : c.status = .transportConnect := by
  induction h with
  | new => exact absurd rfl hstranded.failed
  | request _ hperform ih =>
    rcases perform_stranded hperform hstranded with hstatus | ⟨hbefore, hstatus⟩
    · exact hstatus
    · exact hstatus.trans (ih hbefore)
  | outside _ board ih => exact ih ⟨hstranded.failed, hstranded.session⟩
  | forget _ name ih => exact ih ⟨hstranded.failed, hstranded.session⟩
  | setTimeout _ ms ih => exact ih ⟨hstranded.failed, hstranded.session⟩

theorem stop_of_closed_socket (hdown : c.socket.isConnected = false) (budget : Nat) :
    c.stop budget = some c.teardown := by
  have hsocket : (Transport.connected c.board).1 = false := hdown
  simp only [stop, hsocket]
  split_ifs
  · contradiction
  · rfl
  · rfl

/-- with a failure on record and the socket closed, nothing is left to do, unless a session with a live engine counts as
up: then it is torn down again -/
theorem connected_of_failed (hfailed : c.status ≠ .ok) (hdown : c.socket.isConnected = false) :
    c.connected = (false, if c.lifecycle.engineConnected && !c.engine.state.closed then c.teardown else c) := by
  have hfail : c.fail .transportWrite = c.teardown := by rw [fail, Lifecycle.fail_of_status hfailed]
  rw [connected_eq, hdown, hfail]
  simp only [Bool.not_false, Bool.and_true, Lifecycle.verdict, Bool.false_and]
  split_ifs
  · rfl
  · rfl

/-- **What becomes of a session when something fails.** Whatever requests have led to a client, and whatever was changed
on its board in between:
- a session counts as up next to a failure only if that is the failure of a refused connect;
- a request leaves one in that state exactly if it is a connect that is refused while a session counts as up, or does not
  touch a session that was in that state before;
- over a closed socket with a failure on record, a stop is a teardown, and the question whether the session is usable
  changes nothing, unless a session with a live engine counts as up, which is then torn down once more. -/
theorem session_after_failure (h : Lived c) :
    (Stranded c → c.status = .transportConnect) ∧
      (∀ {budget r reply c'}, c.perform budget r = some (reply, c') →
        (Stranded c' ↔ c.lifecycle.engineConnected = true ∧ Strands c r)) ∧
      (c.status ≠ .ok → c.socket.isConnected = false →
        (∀ budget, c.stop budget = some c.teardown) ∧
          c.connected =
            (false, if c.lifecycle.engineConnected && !c.engine.state.closed then c.teardown else c)) :=
  ⟨h.stranded, stranded_iff, fun hfailed hdown => ⟨stop_of_closed_socket hdown, connected_of_failed hfailed hdown⟩⟩

/-- the socket vanishes unnoticed, and the peer refuses to be called again -/
theorem session_after_failure_refused_connect :
    ∃ c : Client SimBoard 1, Lived c ∧ Stranded c ∧ c.status = .transportConnect ∧
      c.connected = (false, c.teardown) ∧ c.teardown ≠ c := by
  have hplayed :
      (newcomer.undergo 50 [.request (.connect (.name "a") 443 fun _ => []), .socket (.isConnected false),
        .socket (.acceptsConnect false), .request (.connect (.name "b") 443 fun _ => [])]).map
          (fun s => (s.2.status.isOk, s.2.lifecycle.engineConnected, s.2.socket.isConnected, s.2.engine.state.closed)) =
        some (false, true, false, false) := by
    decide +kernel
  obtain ⟨⟨log, c⟩, hrun, heq⟩ := Option.map_eq_some_iff.1 hplayed
  obtain ⟨hstatus, hup, hdown, hopen⟩ : c.status.isOk = false ∧ c.lifecycle.engineConnected = true ∧
      c.socket.isConnected = false ∧ c.engine.state.closed = false := by simpa using heq
  have hfailed : c.status ≠ .ok := mt (Status.isOk_iff _).2 (by simp [hstatus])
  have hlived : Lived c := .of_undergo (.new _ _) hrun
  obtain ⟨hblame, -, hafter⟩ := session_after_failure hlived
  obtain ⟨-, hconnected⟩ := hafter hfailed hdown
  rw [hup, hopen] at hconnected
  have hchanged : c.teardown ≠ c := by
    intro hsame
    have hstops := congrArg (fun c : Client SimBoard 1 => c.socket.stops) hsame
    rw [teardown_eq] at hstops
    exact Nat.succ_ne_self _ hstops
  exact ⟨c, hlived, ⟨hfailed, hup⟩, hblame ⟨hfailed, hup⟩, hconnected, hchanged⟩

/-- after the refused connect, the question whether the session is usable flushes and closes the socket once more -/
theorem session_survives_refused_connect :
    (newcomer.undergo 50 [.request (.connect (.name "a") 443 fun _ => []), .socket (.isConnected false),
      .socket (.acceptsConnect false), .request (.connect (.name "b") 443 fun _ => [])]).map
        (fun s => (s.2.status, s.2.lifecycle.engineConnected, s.2.socket.flushes, s.2.socket.stops,
          s.2.connected.2.socket.flushes, s.2.connected.2.socket.stops)) =
      some (.transportConnect, true, 1, 0, 2, 1) := by
  decide +kernel

end TlsClient.Client

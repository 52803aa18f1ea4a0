/-
What a connect leaves in the session cache of a client.

Only the end of a handshake that succeeds touches the cache; whatever comes before it, on whatever board, leaves it
alone (`Steps.sessions`).
- `Lived`: the clients that requests lead to, with the board changed at will in between;
- `Lived.orderly`: their caches are in order;
- `Learned`: a cache that was told the parameters of a host, and the one before it;
- `connect_learns`: a connect to a name that succeeds leaves such a cache, and any other connect leaves the cache alone.
-/
import TlsClient.Proofs.CacheLaws
import TlsClient.Proofs.Histories

namespace TlsClient.Client

variable {β : Type} [Board β] {slots : Nat} {c c' : Client β slots}

/-! ## Steps leave the sessions alone -/

theorem sendRecord_sessions (c : Client β slots) : c.sendRecord.2.sessions = c.sessions := by
  simp only [sendRecord]
  repeat' split
  all_goals rfl

theorem handOver_sessions (c : Client β slots) (state : EngineState) : (c.handOver state).2.sessions = c.sessions := by
  simp only [handOver]
  repeat' split
  all_goals rfl

theorem receiveRecord_sessions (c : Client β slots) : c.receiveRecord.2.sessions = c.sessions := by
  simp only [receiveRecord, awaitPeer, fillWindow]
  repeat' split
  all_goals rfl

theorem dropUnread_sessions (c : Client β slots) (state : EngineState) :
    (c.dropUnread state).sessions = c.sessions := by
  simp only [dropUnread]
  split_ifs <;> rfl

theorem teardown_sessions (c : Client β slots) : c.teardown.sessions = c.sessions :=
  dropUnread_sessions c (Engine.state c.board)

theorem fail_sessions (c : Client β slots) (s : Status) : (c.fail s).sessions = c.sessions := teardown_sessions _

theorem takeUnread_sessions (c : Client β slots) (room : Nat) : (c.takeUnread room).2.sessions = c.sessions := by
  simp only [takeUnread]
  split_ifs <;> rfl

theorem Fault.sessions {s : Status} (h : Fault c s c') : c'.sessions = c.sessions := by
  cases h with
  | send _ _ _ h =>
    rw [← sendRecord_sessions c, h]
  | handOver _ _ _ _ h =>
    rw [← handOver_sessions c c.flags, h]
  | receive _ _ _ _ _ h =>
    rw [← receiveRecord_sessions c, h]
  | _ => rfl

/-- a step leaves the sessions alone -/
theorem Step.sessions {f : Flow} (h : Step c f c') : c'.sessions = c.sessions := by
  cases h with
  | sent _ _ _ h =>
    rw [← sendRecord_sessions c, h]
  | handed _ _ _ _ h =>
    rw [← handOver_sessions c c.flags, h]
  | received _ _ _ _ _ h =>
    rw [← receiveRecord_sessions c, h]
  | failed h => exact (fail_sessions _ _).trans h.sessions
  | full =>
    simp only [handStored]
    split_ifs <;> rfl
  | take room => exact takeUnread_sessions c room
  | drop state => exact dropUnread_sessions c state
  | down => exact teardown_sessions c
  | _ => rfl

theorem Steps.sessions {f : Flow} (h : Steps c f c') : c'.sessions = c.sessions := by
  induction h with
  | refl => rfl
  | snoc _ hstep ih => exact hstep.sessions.trans ih

/-! ## Connects -/

theorem launched_sessions (draw : Nat → Bytes) (host : Host) (portNumber : Nat) (c : Client β slots) :
    (c.launched draw host portNumber).sessions = c.sessions := by
  simp only [launched, started, prepared, offerSession]
  split <;> rfl

/-- the cache after a handshake that succeeded -/
def keptSessions (server : Option String) (p : SessionParameters) (sessions : SessionCache slots) :
    SessionCache slots :=
  match server with
  | some name => (sessions.remember name p).2
  | none => sessions

theorem keepSession_board (server : Option String) (c : Client β slots) : (keepSession server c).board = c.board := by
  cases server <;> rfl

theorem keepSession_sessions (server : Option String) (c : Client β slots) :
    (keepSession server c).sessions = keptSessions server (Engine.sessionParameters c.board) c.sessions := by
  cases server <;> rfl

/-- a connect that fails leaves the sessions alone; one that succeeds has the cache keep what the engine ended up with -/
theorem Connects.sessions {draw : Nat → Bytes} {host : Host} {portNumber : Nat} {r : Except Error Unit}
    (h : Connects draw host portNumber c r c') :
    c'.sessions = match r with
      | .ok () => keptSessions host.name? (Engine.sessionParameters c'.board) c.sessions
      | .error _ => c.sessions := by
  cases h with
  | busy => rfl
  | refused => rfl
  | unstarted => exact (fail_sessions _ _).trans (launched_sessions draw host portNumber c)
  | @waited waited c₁ _ _ _ hs =>
    have hsessions : c₁.sessions = c.sessions := hs.sessions.trans (launched_sessions draw host portNumber c)
    cases waited with
    | ok u =>
      simp only [concludeHandshake]
      rw [keepSession_sessions, keepSession_board, ← hsessions]
    | error e =>
      simp only [concludeHandshake]
      split_ifs
      · exact (fail_sessions _ _).trans hsessions
      · exact hsessions

/-! ## The clients that requests lead to -/

/-- a client that was new once, and that requests have led to; its board may be changed from outside at any time -/
inductive Lived : Client β slots → Prop
  | new (board : β) (config : Config) : Lived (new board config)
  | request {budget request reply} {c c' : Client β slots} (h : Lived c)
      (hperform : c.perform budget request = some (reply, c')) : Lived c'
  | outside {c : Client β slots} (h : Lived c) (board : β) : Lived { c with board }
  | forget {c : Client β slots} (h : Lived c) (name : String) : Lived (c.forgetSession name)
  | setTimeout {c : Client β slots} (h : Lived c) (ms : Nat) : Lived (c.setTimeout ms)

/-- **The cache of a client stays in order.** -/
theorem Lived.orderly [Separate β] (h : Lived c) : c.sessions.Orderly := by
  induction h with
  | new => exact .empty
  | request _ hperform ih =>
    rcases perform_cases hperform with ⟨host, portNumber, draw, r, rfl, rfl, hconnects⟩ | ⟨-, flow, hs, -⟩
    · rw [hconnects.sessions]
      cases r with
      | error e => exact ih
      | ok u =>
        cases host with
        | name name => exact ih.remember name _
        | ip address => exact ih
    · rw [hs.sessions]
      exact ih
  | outside _ _ ih => exact ih
  | forget _ name ih => exact ih.apply (.remove (some name))
  | setTimeout _ _ ih => exact ih

/-- a cache `after` that was told the parameters `p` of a host, and the cache before it -/
structure Learned (name : String) (p : SessionParameters) (before after : SessionCache slots) : Prop where
  /-- a look-up finds exactly what the cache was told, if it can keep it at all -/
  found : after.find? (some name) = if Keepable slots name p then some ⟨some name, true, p⟩ else none
  /-- entries of other hosts stay as they are and in order; only the oldest goes, if an entry of a new host comes to a
  full cache -/
  others : after.others (some name) =
    if (Keepable slots name p ∧ ¬before.Holds name) ∧ before.size = slots then before.entries.tail
    else before.others (some name)
  /-- parameters that cannot be resumed take the entry of the host away, and nothing else -/
  forgotten : p.resumable = false → after.entries = before.others (some name)

theorem Learned.of_remember {sessions : SessionCache slots} (h : sessions.Orderly) (name : String)
    (p : SessionParameters) : Learned name p sessions (sessions.remember name p).2 where
  found := h.find?_remember name p
  others := h.others_remember name p
  forgotten hspent := by
    rw [h.remember_eq, if_neg]
    intro hkeep
    rw [SessionParameters.resumable_iff.2 hkeep.2.1] at hspent
    cases hspent

/-- **What a connect leaves in the session cache.** A connect to a name that succeeds leaves a cache that was told what
the engine ended up with. A connect that fails, or that has no name to go by, leaves the cache as it was. -/
theorem connect_learns [Separate β] (hlived : Lived c) {budget : Nat} {draw : Nat → Bytes} {host : Host}
    {portNumber : Nat} {r : Except Error Unit} (h : c.connect budget draw host portNumber = some (r, c')) :
    (∀ name, host = .name name → r = .ok () →
      Learned name (Engine.sessionParameters c'.board) c.sessions c'.sessions) ∧
    ((∃ e, r = .error e) ∨ host.name? = none → c'.sessions = c.sessions) := by
  have hsessions := (connect_spec h).sessions
  constructor
  · rintro name rfl rfl
    rw [hsessions]
    exact .of_remember hlived.orderly name _
  · rintro (⟨e, rfl⟩ | hnone)
    · exact hsessions
    · cases r with
      | error e => exact hsessions
      | ok u => simpa [hnone, keptSessions] using hsessions

/-- what happens on a simulated board is what may happen to a client -/
theorem Lived.of_undergo {c c' : Client SimBoard slots} (h : Lived c) {budget : Nat} {events : List Event}
    {log : List Exchange} (hrun : c.undergo budget events = some (log, c')) : Lived c' := by
  refine undergo_invariant (P := fun _ => True) (I := fun _ _ c => Lived c) ?_ ?_ (fun _ _ => trivial) [] [] h hrun
  · intro budget past done c c' r reply _ h hperform
    exact h.request hperform
  · intro past done c event _ h
    cases event with
    | request => exact h
    | forget name => exact h.forget name
    | setTimeout ms => exact h.setTimeout ms
    | _ => exact h.outside _

/-- with one slot, the session of a second host takes the place of the first one -/
theorem connect_learns_second_host :
    ∃ c c' log,
      newcomer.undergo 50 [.request (.connect (.name "a") 443 fun _ => []), .request .stop, .socket (.push [9])] =
        some (log, c) ∧
      Lived c ∧ c.connect 50 (fun _ => []) (.name "b") 443 = some (.ok (), c') ∧
      Learned "b" (Engine.sessionParameters c'.board) c.sessions c'.sessions ∧
      c.sessions.hosts = [some "a"] ∧ c'.sessions.hosts = [some "b"] := by
  have hplayed :
      ((newcomer.undergo 50
        [.request (.connect (.name "a") 443 fun _ => []), .request .stop, .socket (.push [9])]).bind fun s =>
          (s.2.connect 50 (fun _ => []) (.name "b") 443).map fun t =>
            (s.2.sessions.hosts, (Reply.done t.1).error?, t.2.sessions.hosts)) =
        some ([some "a"], none, [some "b"]) := by
    decide +kernel
  obtain ⟨⟨log, c⟩, hrun, hrest⟩ := Option.bind_eq_some_iff.1 hplayed
  obtain ⟨⟨r, c'⟩, hconnect, hfacts⟩ := Option.map_eq_some_iff.1 hrest
  simp only [Prod.mk.injEq] at hfacts
  obtain ⟨hbefore, hr, hafter⟩ := hfacts
  obtain rfl := Reply.ok_of_done hr
  have hlived : Lived c := (Lived.new _ _).of_undergo hrun
  obtain ⟨hlearned, -⟩ := connect_learns hlived hconnect
  exact ⟨c, c', log, hrun, hlived, hconnect, hlearned "b" rfl rfl, hbefore, hafter⟩

end TlsClient.Client

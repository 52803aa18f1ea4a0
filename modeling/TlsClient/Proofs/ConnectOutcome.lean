/-
A connect on a simulated board opens a connection, or leaves nothing open.

The socket, the engine, the work of the pump, the deadline and the memory probe may each end a connect, and each has a
cleanup of its own.
- `Trying`: what holds while the handshake is waited for: as long as nothing is on record, the socket is open and memory
  is in order; as soon as something is, the socket is closed and nothing is stored;
- `Opened`, `Abandoned`, `Decided`: the two ways a connect that was begun may end;
- `connect_all_or_nothing`: there is no other way, and a connect that was not begun changes nothing.
-/
import TlsClient.Proofs.Termination

namespace TlsClient.Client

variable {slots : Nat} {c c' : Client SimBoard slots}

/-! ## While the handshake is waited for -/

/-- as long as nothing is on record, the socket is open and memory is in order; later the connection is torn down -/
structure Trying (sessions : SessionCache slots) (c : Client SimBoard slots) : Prop where
  up : c.status = .ok → c.lifecycle.stage = .handshaking → c.socket.isConnected = true
  sane : c.status = .ok → c.abort = false
  down : c.status ≠ .ok → c.socket.isConnected = false ∧ c.pending = 0
  sessions : c.sessions = sessions

theorem Trying.fail {sessions : SessionCache slots} {s : Status} (hs : s ≠ .ok) (hsessions : c.sessions = sessions) :
    Trying sessions (c.fail s) := by
  have hstatus : (c.fail s).status ≠ .ok := by
    by_cases hok : c.status = .ok
    · rw [status_fail hok]
      exact hs
    · have hlife : c.lifecycle.status ≠ .ok := hok
      rw [Client.fail, status_teardown, status, Lifecycle.fail_of_status hlife]
      exact hok
  refine ⟨fun hok => absurd hok hstatus, fun hok => absurd hok hstatus, fun _ => ?_, ?_⟩
  · rw [fail_eq]
    exact ⟨rfl, rfl⟩
  · rw [fail_eq]
    exact hsessions

theorem Trying.move {sessions : SessionCache slots} {f : Flow} (h : Trying sessions c) (hmove : Move c f c') :
    Trying sessions c' := by
  cases hmove with
  | failed hs hharm => exact .fail hs ((congrArg Client.sessions hharm.rest).trans h.sessions)
  | store hok => exact ⟨h.up, h.sane, fun hfailed => absurd hok hfailed, h.sessions⟩
  | closing => exact ⟨(fun _ hstage => nomatch hstage), h.sane, h.down, h.sessions⟩
  | down =>
    rw [teardown_eq]
    exact ⟨(fun _ hstage => nomatch hstage), h.sane, fun _ => ⟨rfl, rfl⟩, h.sessions⟩
  | handed hok | discard hok | fill hok | full hok =>
    exact ⟨h.up, h.sane, fun hfailed => absurd hok hfailed, h.sessions⟩
  | _ => exact ⟨h.up, h.sane, h.down, h.sessions⟩

theorem Steps.trying {sessions : SessionCache slots} {f : Flow} (h : Trying sessions c) (hs : Steps c f c') :
    Trying sessions c' :=
  hs.invariant (I := fun _ c' => Trying sessions c') (fun h hstep => h.move hstep.move) h

theorem Trying.launched (haccepts : c.socket.acceptsConnect = true) (draw : Nat → Bytes) (host : Host)
    (portNumber : Nat) : Trying c.sessions (c.launched draw host portNumber) := by
  have hup : (c.launched draw host portNumber).socket.isConnected = true := by
    rw [launched_dialled, dialled_socket, haccepts]
    rfl
  have hok := status_launched draw host portNumber c
  refine ⟨fun _ _ => hup, fun _ => ?_, fun hfailed => absurd hok hfailed, ?_⟩
  · rw [launched_clean]
  · rw [launched_clean]

/-! ## How a connect ends -/

/-- the connection is open and usable -/
structure Opened (c : Client SimBoard slots) : Prop where
  phase : c.phase = .connected
  status : c.status = .ok
  sane : c.abort = false
  pending : c.pending = 0
  usable : c.connected.1 = true

/-- nothing is open, the reason is on record, and the sessions are as they were -/
structure Abandoned (sessions : SessionCache slots) (c : Client SimBoard slots) : Prop where
  status : c.status ≠ .ok
  phase : c.phase = .errored
  pending : c.pending = 0
  down : c.socket.isConnected = false
  sessions : c.sessions = sessions
  unusable : c.connected.1 = false

theorem connected_of_down (h : c.socket.isConnected = false) : c.connected.1 = false := by
  have hdown : (Transport.connected c.board).1 = false := h
  simp only [connected, hdown]
  split_ifs
  · rfl
  · simp [Lifecycle.verdict]

/-- an engine that takes plaintext over an open socket makes a usable session -/
theorem connected_of_up (hup : c.socket.isConnected = true) (hengine : c.lifecycle.engineConnected = true)
    (hopen : c.flags.closed = false) (hok : c.status = .ok) : c.connected.1 = true := by
  have htransport : (Transport.connected c.board).1 = true := hup
  have hflags : (Engine.state (Transport.connected c.board).2).closed = false := hopen
  have hisOk : c.lifecycle.status.isOk = true := (Status.isOk_iff _).2 hok
  simp [connected, Lifecycle.verdict, htransport, hflags, hengine, hisOk]

theorem Abandoned.of_trying {sessions : SessionCache slots} (h : Trying sessions c) (hfailed : c.status ≠ .ok) :
    Abandoned sessions c := by
  obtain ⟨hdown, hpending⟩ := h.down hfailed
  have hnotOk : ¬c.lifecycle.status.isOk = true := mt (Status.isOk_iff _).1 hfailed
  exact ⟨hfailed, if_neg hnotOk, hpending, hdown, h.sessions, connected_of_down hdown⟩

/-- the two ways a connect that was begun may end -/
inductive Decided (sessions : SessionCache slots) : Except Error Unit → Client SimBoard slots → Prop
  | opened {c : Client SimBoard slots} : Opened c → Decided sessions (.ok ()) c
  | abandoned {c : Client SimBoard slots} {e : Error} :
    e ≠ .alreadyConnected → Abandoned sessions c → Decided sessions (.error e) c

/-- a wait that failed abandons the connect, also where it left no reason on record -/
theorem Trying.decided {sessions : SessionCache slots} {e : Error} (h : Trying sessions c) (he : e ≠ .alreadyConnected)
    (server : Option String) :
    Decided sessions (concludeHandshake server (.error e, c)).1 (concludeHandshake server (.error e, c)).2 := by
  by_cases hok : c.status = .ok
  · have hisOk : c.lifecycle.status.isOk = true := (Status.isOk_iff _).2 hok
    have hfailed : (c.fail .engineConnect).status ≠ .ok := by
      rw [status_fail hok]
      decide
    have htrying : Trying sessions (c.fail .engineConnect) := .fail (by decide) h.sessions
    simp only [concludeHandshake, if_pos hisOk]
    refine .abandoned ?_ (.of_trying htrying hfailed)
    split_ifs
    · simp
    · exact he
  · have hnotOk : ¬c.lifecycle.status.isOk = true := mt (Status.isOk_iff _).1 hok
    simp only [concludeHandshake, if_neg hnotOk]
    refine .abandoned ?_ (.of_trying h hok)
    split_ifs
    · simp
    · exact he

/-- the end of a handshake that was waited for -/
theorem Waited.outcome {sessions : SessionCache slots} {start : Client SimBoard slots} {r : Except Error Unit}
    (hstage : start.lifecycle.stage = .handshaking) (hok : start.status = .ok) (htrying : Trying sessions c)
    (h : Waited start { sendApp := true } r c) (server : Option String) :
    Decided sessions (concludeHandshake server (r, c)).1 (concludeHandshake server (r, c)).2 := by
  cases h with
  | reached hlife habort hopen _ hpending =>
    have hok : c.status = .ok := (status_of_lifecycle hlife).trans hok
    have hup : c.socket.isConnected = true := htrying.up hok (by rw [hlife]; exact hstage)
    have hisOk : c.lifecycle.status.isOk = true := (Status.isOk_iff _).2 hok
    rw [concludeHandshake, keepSession_eq]
    exact .opened ⟨if_pos hisOk, hok, habort, hpending, connected_of_up hup rfl hopen hok⟩
  | closed => exact htrying.decided (by simp) server
  | aborted => exact htrying.decided (by simp) server
  | failed _ he =>
    refine htrying.decided ?_ server
    rcases he with rfl | rfl <;> simp

/-- a connect that was begun opens a connection, or abandons it -/
theorem Connects.outcome {draw : Nat → Bytes} {host : Host} {portNumber : Nat} {r : Except Error Unit}
    (hdown : c.socket.isConnected = false) (h : Connects draw host portNumber c r c') : Decided c.sessions r c' := by
  cases h with
  | busy hup =>
    have hup : c.socket.isConnected = true := hup
    rw [hdown] at hup
    cases hup
  | refused _ hdial =>
    have hrefuses : c.socket.acceptsConnect = false := by
      cases haccepts : c.socket.acceptsConnect with
      | false => rfl
      | true =>
        rw [(dial_ok_iff host portNumber c).2 haccepts] at hdial
        cases hdial
    have hclosed : (c.dialled host portNumber).socket.isConnected = false := by
      rw [dialled_socket, hrefuses, hdown]
      rfl
    exact .abandoned (by simp) ⟨nofun, rfl, rfl, hclosed, rfl, connected_of_down hclosed⟩
  | unstarted =>
    have hsessions : (c.launched draw host portNumber).sessions = c.sessions := by rw [launched_clean]
    have hfailed : ((c.launched draw host portNumber).fail .engineConnect).status ≠ .ok := by
      rw [status_fail (status_launched draw host portNumber c)]
      decide
    exact .abandoned (by simp) (.of_trying (.fail (by decide) hsessions) hfailed)
  | waited _ hdial _ hs hend =>
    have hstage : (c.launched draw host portNumber).lifecycle.stage = .handshaking := by rw [launched_clean]
    have htrying := hs.trying (.launched ((dial_ok_iff host portNumber c).1 hdial) draw host portNumber)
    exact hend.outcome hstage (status_launched draw host portNumber c) htrying host.name?

/-- **A connect is all or nothing.** Whatever the state of client, engine and socket, if to read the clock takes time at
all, a connect ends. Over an open socket it is refused, and changes nothing. Else it opens a connection that is usable at
once and clear of all that was before, or it fails, and then nothing is open, the reason is on record, and the sessions
are as they were. -/
theorem connect_all_or_nothing (c : Client SimBoard slots) (htick : 0 < c.tick) (draw : Nat → Bytes) (host : Host)
    (portNumber : Nat) :
    (∃ answer, Settles (fun budget => c.connect budget draw host portNumber) answer) ∧
      ∀ budget r c', c.connect budget draw host portNumber = some (r, c') →
        (c.socket.isConnected = true ↔ r = .error .alreadyConnected) ∧
        (r = .error .alreadyConnected → c' = c) ∧
        (r = .ok () → Opened c') ∧
        ∀ e, r = .error e → e ≠ .alreadyConnected → Abandoned c.sessions c' := by
  refine ⟨connect_settles htick draw host portNumber, fun budget r c' hconnect => ?_⟩
  cases hup : c.socket.isConnected with
  | true =>
    have hup : (Transport.connected c.board).1 = true := hup
    rw [connect_eq, if_pos hup] at hconnect
    cases hconnect
    refine ⟨⟨fun _ => rfl, fun _ => rfl⟩, fun _ => rfl, nofun, fun e he hother => ?_⟩
    cases he
    exact absurd rfl hother
  | false =>
    cases (connect_spec hconnect).outcome hup with
    | opened hopened => exact ⟨⟨nofun, nofun⟩, nofun, fun _ => hopened, nofun⟩
    | abandoned hbegun habandoned =>
      have hr : ∀ {e : Error}, (.error e : Except Error Unit) = .error .alreadyConnected → e = .alreadyConnected :=
        Except.error.inj
      exact ⟨⟨nofun, fun h => absurd (hr h) hbegun⟩, fun h => absurd (hr h) hbegun, nofun, fun _ _ _ => habandoned⟩

/-- a peer that answers opens a connection; on a device whose memory is corrupted the same peer opens none -/
theorem connect_all_or_nothing_corrupted_memory :
    0 < newcomer.tick ∧ (∃ c, newcomer.connect 50 (fun _ => []) (.name "a") 443 = some (.ok (), c) ∧ Opened c) ∧
      ∃ c, connect 50 (fun _ => []) (.name "a") 443 { newcomer with board.probe := .always .corrupted } =
          some (.error .abort, c) ∧ Abandoned newcomer.sessions c := by
  have hopens :
      (newcomer.connect 50 (fun _ => []) (.name "a") 443).map (fun s => (Reply.done s.1).error?) = some none := by
    decide +kernel
  have hfails :
      (connect 50 (fun _ => []) (.name "a") 443 { newcomer with board.probe := .always .corrupted }).map
          (fun s => (Reply.done s.1).error?) = some (some .abort) := by
    decide +kernel
  obtain ⟨⟨r, c⟩, hconnect, hr⟩ := Option.map_eq_some_iff.1 hopens
  obtain ⟨⟨r', c'⟩, hconnect', hr'⟩ := Option.map_eq_some_iff.1 hfails
  obtain rfl : r = .ok () := by
    cases r with
    | ok u => rfl
    | error e => cases hr
  obtain rfl : r' = .error .abort := by
    cases r' with
    | ok u => cases hr'
    | error e => cases hr'; rfl
  have htick : 0 < newcomer.tick := by decide
  obtain ⟨-, houtcome⟩ := connect_all_or_nothing newcomer htick (fun _ => []) (.name "a") 443
  obtain ⟨-, -, hopened, -⟩ := houtcome 50 _ c hconnect
  obtain ⟨-, houtcome'⟩ :=
    connect_all_or_nothing { newcomer with board.probe := .always .corrupted } htick (fun _ => []) (.name "a") 443
  obtain ⟨-, -, -, habandoned⟩ := houtcome' 50 _ c' hconnect'
  exact ⟨htick, ⟨c, hconnect, hopened rfl⟩, c', hconnect', habandoned .abort rfl nofun⟩

end TlsClient.Client

/-
The calls that look at what is unread agree with the next read.

`available`, `peek`, `readReady`, `read` and the read of the byte stream each run the pump, the last one inside a wait.
A first run that counts what is unread leaves nothing for a second one to do, except to poll a silent peer once more. So
from then on they all see the same bytes.
- `Grounded`: a session is up only on an engine that is past its handshake, and so it is in every state that is reached;
- `AtRest`: what the pump leaves when it has counted, `available_at_rest`: it always does;
- `AtRest.available`, `AtRest.blockingRead`: what a second run comes to, on either path of reading;
- `observers_agree`: what every look and every read answers after a count.
-/
import TlsClient.Proofs.ReadTurns
import TlsClient.Proofs.Sessions

namespace TlsClient

/-- does the event force flags on the engine? -/
def Event.forces : Event → Bool
  | .engine (.forced (some _)) => true
  | _ => false

namespace Client

variable {slots : Nat} {c c' : Client SimBoard slots} {f : Flow} {budget n : Nat}

/-! ## Sessions and their engines -/

/-- flags are never forced, and a session is up only on an engine that is past its handshake -/
structure Grounded (c : Client SimBoard slots) : Prop where
  natural : c.engine.forced = none
  past : c.status = .ok → c.lifecycle.engineConnected = true → c.engine.phase = .app ∨ c.engine.phase = .closed

theorem Grounded.new {board : SimBoard} (hforced : board.engine.forced = none) (config : Config) :
    Grounded (new board config : Client SimBoard slots) := ⟨hforced, fun _ hup => by cases hup⟩

theorem Grounded.of_down (hforced : c.engine.forced = none)
    (hdown : c.status = .ok → c.lifecycle.engineConnected = false) : Grounded c := by
  refine ⟨hforced, fun hok hup => ?_⟩
  rw [hdown hok] at hup
  cases hup

theorem Grounded.settled (h : Grounded c) (hok : c.status = .ok) (hup : c.lifecycle.engineConnected = true) :
    ∀ remaining, c.engine.phase ≠ .awaiting remaining := settled_of_past (h.past hok hup)

/-- a session that is open for reads is on an engine in the application phase -/
theorem Grounded.app (h : Grounded c) (hguard : c.lifecycle.softConnected c.flags = .ok ()) :
    c.engine.phase = .app := by
  obtain ⟨hok, hup, hopen⟩ := Lifecycle.softConnected_ok hguard
  refine (h.past hok hup).resolve_right fun hclosed => ?_
  rw [flags_eq, (SimEngine.closed_iff h.natural).2 hclosed] at hopen
  cases hopen

/-- no step opens a session -/
theorem Move.session (hmove : Move c f c') (hok : c'.status = .ok) (hup : c'.lifecycle.engineConnected = true) :
    c.status = .ok ∧ c.lifecycle.engineConnected = true := by
  cases hmove with
  | failed =>
    rw [fail_eq] at hup
    cases hup
  | down =>
    rw [teardown_eq] at hup
    cases hup
  | _ => exact ⟨hok, hup⟩

theorem Grounded.move (h : Grounded c) (hmove : Move c f c') : Grounded c' := by
  refine ⟨hmove.setup.forced.trans h.natural, fun hok hup => ?_⟩
  obtain ⟨hok₀, hup₀⟩ := hmove.session hok hup
  rw [hmove.phase (h.settled hok₀ hup₀)]
  exact h.past hok₀ hup₀

theorem Steps.grounded (h : Grounded c) (hs : Steps c f c') : Grounded c' :=
  hs.invariant (I := fun _ c' => Grounded c') (fun h hstep => h.move hstep.move) h

theorem launched_forced (draw : Nat → Bytes) (host : Host) (portNumber : Nat) (c : Client SimBoard slots) :
    (c.launched draw host portNumber).engine.forced = c.engine.forced := by
  cases hreset : c.engine.resetError with
  | none =>
    obtain ⟨_, _, _, _, hengine, -⟩ := launched_engine draw host portNumber hreset
    rw [hengine]
  | some code =>
    obtain ⟨_, hengine⟩ := launched_engine_of_error draw host portNumber hreset
    rw [hengine]

/-- a connect that succeeds leaves an engine in the application phase, and one that fails leaves no session -/
theorem Connects.grounded {draw : Nat → Bytes} {host : Host} {portNumber : Nat} {r : Except Error Unit}
    (h : Grounded c) (hconnects : Connects draw host portNumber c r c') : Grounded c' := by
  have hforced := (launched_forced draw host portNumber c).trans h.natural
  cases hconnects with
  | busy => exact ⟨h.natural, h.past⟩
  | refused => exact .of_down h.natural fun hok => by cases hok
  | unstarted =>
    refine .of_down ((fail_setup _ _).forced.trans hforced) fun _ => ?_
    rw [fail_eq]
    rfl
  | @waited waited c₁ _ _ _ hs hend =>
    have hforced₁ := hs.setup.forced.trans hforced
    cases waited with
    | ok u =>
      obtain ⟨happ, -⟩ := hend.app hforced₁
      rw [concludeHandshake, keepSession_eq]
      exact ⟨hforced₁, fun _ _ => .inl happ⟩
    | error e =>
      refine .of_down ((concludeHandshake_setup host.name? _ c₁).forced.trans hforced₁) fun _ => ?_
      simp only [concludeHandshake]
      split_ifs
      · rw [fail_eq]
        rfl
      · rcases hs.course rfl with hsteady | hdown
        · rw [hsteady.lifecycle, launched_clean]
        · exact hdown.session

theorem Grounded.disturb {event : Event} (h : Grounded c) (hevent : event.forces = false) :
    Grounded (c.disturb event) := by
  obtain ⟨hlife, -⟩ := disturb_lifecycle c event
  have hphase : (c.disturb event).engine.forced = none ∧ ((c.disturb event).engine.phase = c.engine.phase ∨
      (c.disturb event).engine.phase = .closed) := by
    cases event with
    | engine edit =>
      cases edit with
      | forced state =>
        cases state with
        | none => exact ⟨rfl, .inl rfl⟩
        | some flags => cases hevent
      | close => exact ⟨h.natural, .inr rfl⟩
      | _ => exact ⟨h.natural, .inl rfl⟩
    | _ => exact ⟨h.natural, .inl rfl⟩
  refine ⟨hphase.1, ?_⟩
  rw [status, hlife]
  intro hok hup
  rcases hphase.2 with hsame | hclosed
  · exact hsame ▸ h.past hok hup
  · exact .inr hclosed

/-- **In every state that is reached, a session is up only on an engine that is past its handshake.** -/
theorem Reaches.grounded {c₀ : Client SimBoard slots} (h₀ : Grounded c₀)
    (h : Reaches (fun _ event => event.forces = false) c₀ c) : Grounded c := by
  induction h with
  | start => exact h₀
  | request _ hperform ih =>
    rcases perform_cases hperform with ⟨_, _, _, _, -, -, hconnects⟩ | ⟨-, _, hs, -⟩
    · exact hconnects.grounded ih
    · exact hs.grounded ih
  | outside _ hevent ih => exact ih.disturb hevent

/-! ## Rest -/

/-- a session in which the pump has just found nothing to do; if nothing is unread, the peer is there and silent -/
structure AtRest (c : Client SimBoard slots) : Prop extends Listening c where
  status : c.status = .ok
  session : c.lifecycle.engineConnected = true
  sane : c.abort = false
  silent : c.engine.unread = [] →
    c.socket.isConnected = true ∧ capAt c.socket.availableChunk c.socket.incoming.length = 0

/-- what another count leaves: with nothing unread, a poll in vain and a flush -/
def recounted (c : Client SimBoard slots) : Client SimBoard slots :=
  if c.engine.unread = [] then { c.paused with board.engine.flushes := c.engine.flushes + 1 } else c

theorem unread_recounted (c : Client SimBoard slots) : c.recounted.engine.unread = c.engine.unread := by
  unfold recounted
  split_ifs <;> rfl

/-- **A count at rest counts what is unread**, and changes none of it. -/
theorem AtRest.available (h : AtRest c) (budget : Nat) :
    c.available (budget + 1) = some (.ok c.engine.unread.length, c.recounted) := by
  have hguard := h.admitted h.status h.session
  unfold recounted
  split_ifs with hunread
  · obtain ⟨hup, hnone⟩ := h.silent hunread
    have hpaused : Listening c.paused := ⟨h.natural, h.app, h.queue, h.pending⟩
    rw [available_of_pump hguard (pump_of_done (h.pumpTurn_silent hunread hnone hup) budget), hunread]
    exact congrArg some (hpaused.countUnread_empty h.sane hunread)
  · rw [available_of_pump hguard (pump_of_done (h.pumpTurn_unread hunread) budget)]
    exact congrArg some (h.countUnread_unread h.sane hunread)

/-- a wait for what is unread is over at once: it only reads the clock -/
theorem AtRest.drive (h : AtRest c) (hunread : c.engine.unread ≠ []) (htick : c.tick ≤ c.config.timeoutMs)
    (budget : Nat) : c.drive (budget + 1) { recvApp := true } = some (.ok (), c.clocked.clocked) := by
  have hclocked : Listening c.clocked := ⟨h.natural, h.app, h.queue, h.pending⟩
  have hpump := pump_of_done (hclocked.pumpTurn_unread hunread) budget
  have hflags : c.clocked.engine.state = c.engine.appState := hclocked.flags
  have htarget : c.clocked.engine.state.intersects { recvApp := true } = true := by
    have hempty : c.engine.unread.isEmpty = false := by simpa using hunread
    simp [hflags, EngineState.intersects, SimEngine.appState, hempty]
  have hopen : c.clocked.engine.state.closed = false := by
    rw [hflags]
    rfl
  refine (drive_of_first_run (.of_sane h.sane) h.status hpump htarget hopen ?_).1
  rw [Nat.sub_self]
  exact htick

/-- **A read of the byte stream at rest** takes what another read would take, and has only read the clock. -/
theorem AtRest.blockingRead {room : Nat} (h : AtRest c) (hunread : c.engine.unread ≠ []) (hroom : room ≠ 0)
    (htick : c.tick ≤ c.config.timeoutMs) (budget : Nat) :
    c.blockingRead (budget + 1) room =
      some (.ok (c.engine.unread.take room),
        { c.clocked.clocked with board.engine.unread := c.engine.unread.drop room }) := by
  have hguard := h.admitted h.status h.session
  simp only [Client.blockingRead, if_neg hroom, hguard, h.drive hunread htick budget, Option.map_some, takeUnread_eq]
  rfl

/-- what the pump leaves when it has counted is at rest -/
theorem available_at_rest (hgrounded : Grounded c) (h : c.available budget = some (.ok n, c')) :
    AtRest c' ∧ n = c'.engine.unread.length := by
  unfold Client.available at h
  cases hguard : c.lifecycle.softConnected (Engine.state c.board) with
  | error e =>
    rw [hguard] at h
    cases h
  | ok u =>
    rw [hguard] at h
    obtain ⟨hok, hup, -⟩ := Lifecycle.softConnected_ok hguard
    obtain ⟨⟨state, c₁⟩, hpump, hcount⟩ := Option.map_eq_some_iff.1 h
    have hs := (pump_spec hok hpump).1
    have hforced : c₁.engine.forced = none := (hs.grounded hgrounded).natural
    have happ : c₁.engine.phase = .app := (hs.phase (hgrounded.settled hok hup)).trans (hgrounded.app hguard)
    have hsane : c₁.abort = false := sane_of_countUnread hcount
    cases pump_outcome hok hpump with
    | failed hfailed =>
      cases (countUnread_failed hsane hfailed).symm.trans hcount
    | closed _ _ hclosed =>
      rw [SimEngine.closed_iff hforced, happ] at hclosed
      cases hclosed
    | rested hpumps hok₁ _ hsend hpending hrecv =>
      have hlistening : Listening c₁ := .of_rest hforced happ hsend hpending
      have hunread : c₁.engine.unread ≠ [] := fun hnone => by
        rw [hlistening.recvRec_iff.2 hnone] at hrecv
        cases hrecv
      cases (hlistening.countUnread_unread hsane hunread).symm.trans hcount
      have hup₁ := hpumps.served.1.lifecycle ▸ hup
      exact ⟨⟨hlistening, hok₁, hup₁, hsane, fun hnone => absurd hnone hunread⟩, rfl⟩
    | @waited last hpumps hok₁ _ hsend hpending hrecv hpeer hnone =>
      have hlistening : Listening last.paused := .of_rest hforced happ hsend hpending
      have hunread : last.paused.engine.unread = [] := hlistening.recvRec_iff.1 hrecv
      cases (hlistening.countUnread_empty hsane hunread).symm.trans hcount
      have hup₁ := hpumps.served.1.lifecycle ▸ hup
      have hcap : capAt last.socket.availableChunk last.socket.incoming.length = 0 := by
        rw [capAt_eq_zero, List.length_eq_zero_iff]
        exact hnone
      exact ⟨⟨⟨hforced, happ, hlistening.queue, hpending⟩, hok₁, hup₁, hsane, fun _ => ⟨hpeer, hcap⟩⟩,
        (congrArg List.length hunread).symm⟩

/-! ## What the calls answer -/

theorem AtRest.read {room : Nat} (h : AtRest c) (hroom : room ≠ 0) (budget : Nat) :
    c.read (budget + 1) room =
      some (.ok (c.engine.unread.take room),
        { c.recounted with board.engine.unread := c.engine.unread.drop room }) := by
  have havail := h.available budget
  rw [← unread_recounted] at havail
  rw [read_of_available hroom havail, unread_recounted]

theorem AtRest.peek (h : AtRest c) (budget : Nat) :
    c.peek (budget + 1) = some (.ok c.engine.unread.head?, c.recounted) := by
  have hhead : (if c.engine.unread.length = 0 then none else (Engine.recvAppBuf c.recounted.board).head?) =
      c.engine.unread.head? := by
    rw [show Engine.recvAppBuf c.recounted.board = c.engine.unread from unread_recounted c]
    split_ifs with hnone
    · rw [List.length_eq_zero_iff.1 hnone, List.head?_nil]
    · rfl
  simp only [Client.peek, h.available budget, Result.andThen, hhead]

theorem AtRest.readReady (h : AtRest c) (budget : Nat) :
    c.readReady (budget + 1) = some (.ok (decide (0 < c.engine.unread.length)), c.recounted) := by
  simp only [Client.readReady, h.available budget, Option.map_some]

/-- **All who look at what is unread agree with the next read.** In every state that a client reaches, whatever happens
to its board short of flags that are forced: if `available` counts `n` bytes, then, as long as nothing else happens, so
does a second `available`; `peek` shows the first of them, if there is one; `readReady` tells whether there is one; and
`read` takes as many of them as there is room for, in order, and no others. If there is one, and to read the clock takes
no longer than the deadline allows, a read of the byte stream takes the same bytes and leaves the same client, but for
the time; it does not poll the socket. -/
theorem observers_agree {board : SimBoard} {config : Config} (hforced : board.engine.forced = none)
    (hreaches : Reaches (fun _ event => event.forces = false) (new board config) c)
    (havail : c.available budget = some (.ok n, c')) :
    n = c'.engine.unread.length ∧
    (∃ c₁, Settles (fun budget => c'.available budget) (.ok n, c₁)) ∧
    (∃ c₁, Settles (fun budget => c'.peek budget) (.ok c'.engine.unread.head?, c₁)) ∧
    (c'.engine.unread.head? = none ↔ n = 0) ∧
    (∃ c₁, Settles (fun budget => c'.readReady budget) (.ok (decide (0 < n)), c₁)) ∧
    ∀ room, 0 < room → ∃ taken c₁, Settles (fun budget => c'.read budget room) (.ok taken, c₁) ∧
      taken.length = min room n ∧ c'.engine.unread = taken ++ c₁.engine.unread ∧
      (0 < n → c'.tick ≤ c'.config.timeoutMs →
        ∃ c₂, Settles (fun budget => c'.blockingRead budget room) (.ok taken, c₂) ∧
          c₂ = { c₁ with board.time := c₂.board.time } ∧ c₂.socket.polls = c'.socket.polls) := by
  obtain ⟨hrest, rfl⟩ := available_at_rest (hreaches.grounded (.new hforced config)) havail
  refine ⟨rfl, ⟨_, .of_add 1 hrest.available⟩, ⟨_, .of_add 1 hrest.peek⟩, ?_, ⟨_, .of_add 1 hrest.readReady⟩, ?_⟩
  · rw [List.head?_eq_none_iff, List.length_eq_zero_iff]
  intro room hroom
  have hroom : room ≠ 0 := Nat.ne_of_gt hroom
  refine ⟨_, _, .of_add 1 (hrest.read hroom), List.length_take, (List.take_append_drop room _).symm, ?_⟩
  intro hsome htick
  have hunread : c'.engine.unread ≠ [] := List.length_pos_iff.1 hsome
  refine ⟨_, .of_add 1 (hrest.blockingRead hunread hroom htick), ?_, rfl⟩
  rw [recounted, if_neg hunread]
  rfl

/-- the peer sends more than the window takes: two bytes of four are read, on either path -/
theorem observers_agree_full_window :
    ∃ (c c' : Client SimBoard 1) (taken : Bytes), newcomer.board.engine.forced = none ∧
      Reaches (fun _ event => event.forces = false) newcomer c ∧ c.available 50 = some (.ok 4, c') ∧
      c'.engine.unread = [1, 2, 3, 4] ∧ (∃ c₁, Settles (fun budget => c'.peek budget) (.ok (some 1), c₁)) ∧
      taken = [1, 2] ∧ (∃ c₁, Settles (fun budget => c'.read budget 2) (.ok taken, c₁) ∧ c₁.engine.unread = [3, 4]) ∧
      ∃ c₂, Settles (fun budget => c'.blockingRead budget 2) (.ok taken, c₂) ∧ c₂.engine.unread = [3, 4] := by
  have hplayed :
      (newcomer.undergo 50
        [.request (.connect (.name "a") 443 fun _ => []), .socket (.push [1, 2, 3, 4, 5, 6])]).bind
          (fun s => (s.2.available 50).map fun r =>
            (r.1.toOption, r.2.engine.unread, decide (r.2.tick ≤ r.2.config.timeoutMs))) =
        some (some 4, [1, 2, 3, 4], true) := by
    decide +kernel
  obtain ⟨⟨log, c⟩, hrun, hcounted⟩ := Option.bind_eq_some_iff.1 hplayed
  obtain ⟨⟨r, c'⟩, havail, heq⟩ := Option.map_eq_some_iff.1 hcounted
  simp only [Prod.mk.injEq, decide_eq_true_iff] at heq
  obtain ⟨hcount, hunread, htick⟩ := heq
  cases r with
  | error e => cases hcount
  | ok count =>
    cases hcount
    have hreaches : Reaches (fun _ event => event.forces = false) newcomer c :=
      .of_undergo (by simp [Event.forces]) hrun
    obtain ⟨-, -, hpeek, -, -, hreads⟩ := observers_agree rfl hreaches havail
    obtain ⟨taken, c₁, hread, hlength, hsplit, hblocking⟩ := hreads 2 (by decide)
    obtain ⟨c₂, hsame, hc₂, -⟩ := hblocking (by decide) htick
    rw [hunread] at hpeek hsplit
    obtain ⟨rfl, hleft⟩ := List.append_inj (show [1, 2] ++ [3, 4] = taken ++ c₁.engine.unread from hsplit) hlength.symm
    have hleft₂ : c₂.engine.unread = c₁.engine.unread := by rw [hc₂]
    exact ⟨c, c', [1, 2], rfl, hreaches, havail, hunread, hpeek, rfl, ⟨c₁, hread, hleft.symm⟩,
      ⟨c₂, hsame, hleft₂.trans hleft.symm⟩⟩

end Client

end TlsClient

/-
What cannot happen on a board that behaves, whatever its user and its peer do.

The engine is never forced to flags that are not its own, nor given or relieved of bytes behind the client's back, its
window has room and keeps its length, and the socket is honest. Everything else may change between any two calls, except
that unread plaintext and the window begin or cease to share memory only while no session is open.
- `Quiet`: no session is open, or the engine is closed; until the next connect no call can fail in a new way;
- `Permits`: the changes that such a board makes;
- `Upright`: a state of a client on such a board is quiet or sound;
- `conforming_board`: no client on such a board finds itself or its engine at fault, short of a deadline.
-/
import TlsClient.Proofs.ShutSessions
import TlsClient.Proofs.Termination

namespace TlsClient

theorem Lifecycle.softConnected_of_closed (l : Lifecycle) {engine : EngineState} (h : engine.closed = true) :
    ∃ e, l.softConnected engine = .error e := by
  unfold softConnected
  rw [if_pos h]
  split_ifs
  · exact ⟨_, rfl⟩
  · exact ⟨_, rfl⟩
  · exact ⟨_, rfl⟩

namespace Client

variable {slots : Nat} {c c' : Client SimBoard slots}

/-! ## Calls that change nothing -/

/-- a request that asks for nothing makes no call -/
theorem perform_asks_nothing {budget : Nat} {request : Request} {reply : Reply} (hasks : request.asks = false)
    (h : c.perform budget request = some (reply, c')) : c' = c := by
  cases request with
  | read room =>
    have hroom : room = 0 := by simpa [Request.asks] using hasks
    rw [perform, read, if_pos hroom] at h
    cases h
    rfl
  | blockingRead room =>
    have hroom : room = 0 := by simpa [Request.asks] using hasks
    rw [perform, blockingRead, if_pos hroom] at h
    cases h
    rfl
  | readExact length =>
    have hlength : length = 0 := by simpa [Request.asks] using hasks
    rw [perform, readExact, if_pos hlength] at h
    cases h
    rfl
  | writeAll data =>
    have hdata : data.isEmpty = true := by simpa [Request.asks] using hasks
    rw [perform, writeAll, if_pos hdata] at h
    cases h
    rfl
  | _ => simp [Request.asks] at hasks

theorem pump_closed {budget : Nat} {state : EngineState} (hclosed : c.flags.closed = true)
    (h : c.pump budget = some (state, c')) : state = c.flags ∧ c' = c := by
  cases budget with
  | zero => simp [pump, repeatTurn] at h
  | succ budget =>
    have hturn : c.pumpTurn = .done (c.flags, c) := by
      unfold pumpTurn
      exact if_pos hclosed
    simp only [pump, repeatTurn, hturn] at h
    cases h
    exact ⟨rfl, rfl⟩

/-- to wait for a closed engine only takes a look at the clock -/
theorem drive_closed {budget : Nat} {target : EngineState} {r : Except Error Unit} (hclosed : c.flags.closed = true)
    (h : c.drive budget target = some (r, c')) : c' = c.clocked := by
  have hclosed : c.clocked.flags.closed = true := hclosed
  refine repeatTurn_all (I := fun c₁ => c₁ = c.clocked) (Q := fun r => r.2 = c.clocked) ?_ rfl h
  rintro c₁ t rfl ht
  obtain ⟨⟨state, c₂⟩, hpump, rfl⟩ := Option.map_eq_some_iff.1 ht
  obtain ⟨rfl, rfl⟩ := pump_closed hclosed hpump
  simp only [judge, hclosed, if_true]
  split_ifs
  · exact .done rfl
  · exact .done rfl

theorem update_closed {budget : Nat} {r : Except Error EngineState} (hclosed : c.flags.closed = true)
    (h : c.update budget = some (r, c')) : c' = c := by
  unfold update at h
  split at h
  · cases h
    rfl
  · obtain ⟨⟨state, c₁⟩, hpump, heq⟩ := Option.map_eq_some_iff.1 h
    obtain ⟨-, rfl⟩ := pump_closed hclosed hpump
    simp only at heq
    split_ifs at heq <;> exact (congrArg Prod.snd heq).symm

theorem runUntil_closed {budget : Nat} {target : EngineState} {r : Except Error Unit} (hclosed : c.flags.closed = true)
    (h : c.runUntil budget target = some (r, c')) : c' = c ∨ c' = c.clocked := by
  unfold runUntil at h
  split at h
  · cases h
    exact .inl rfl
  · exact .inr (drive_closed hclosed h)

theorem flush_closed {budget : Nat} {r : Except Error Unit} (hclosed : c.flags.closed = true)
    (h : c.flush budget = some (r, c')) : c' = c ∨ c' = c.clocked := by
  unfold flush at h
  split at h
  · cases h
    exact .inl rfl
  · split_ifs at h
    · cases h
      exact .inl rfl
    · exact .inr (drive_closed hclosed h)

theorem stop_closed (hclosed : c.flags.closed = true) (budget : Nat) : c.stop budget = some c.teardown := by
  have hclosed : (Engine.state c.board).closed = true := hclosed
  simp [stop, hclosed]

/-- to look whether a session is usable that the engine has closed is only a look -/
theorem connected_closed (hclosed : c.flags.closed = true) : c.connected.2 = c.polled := by
  have hclosed : (Engine.state c.polled.board).closed = true := hclosed
  simp only [connected, hclosed, Bool.not_true, Bool.and_false, Bool.false_and, Bool.false_eq_true, if_false]

/-- the record is what it was, and the engine is in the same phase -/
structure Frozen (c c' : Client SimBoard slots) : Prop where
  status : c'.status = c.status
  phase : c'.engine.phase = c.engine.phase

theorem Frozen.of_clocked (h : c' = c ∨ c' = c.clocked) : Frozen c c' := by
  rcases h with rfl | rfl
  · exact ⟨rfl, rfl⟩
  · exact ⟨rfl, rfl⟩

/-- **A closed engine is left alone.** Until the next connect, no call puts a failure on record, and the engine stays
closed. -/
theorem perform_closed {budget : Nat} {request : Request} {reply : Reply} (hclosed : c.flags.closed = true)
    (hopens : request.opens = false) (h : c.perform budget request = some (reply, c')) : Frozen c c' := by
  cases hasks : request.asks with
  | false => exact .of_clocked (.inl (perform_asks_nothing hasks h))
  | true =>
    cases request with
    | connect => cases hopens
    | update =>
      obtain ⟨⟨r, c₁⟩, hupdate, heq⟩ := Option.map_eq_some_iff.1 h
      cases heq
      exact .of_clocked (.inl (update_closed hclosed hupdate))
    | runUntil target =>
      obtain ⟨⟨r, c₁⟩, hrun, heq⟩ := Option.map_eq_some_iff.1 h
      cases heq
      exact .of_clocked (runUntil_closed hclosed hrun)
    | flush =>
      obtain ⟨⟨r, c₁⟩, hflush, heq⟩ := Option.map_eq_some_iff.1 h
      cases heq
      exact .of_clocked (flush_closed hclosed hflush)
    | stop =>
      obtain ⟨c₁, hstop, heq⟩ := Option.map_eq_some_iff.1 h
      cases heq
      rw [stop_closed hclosed] at hstop
      cases hstop
      refine ⟨status_teardown c, ?_⟩
      obtain ⟨unread, hdrained⟩ := c.engine.drained_frame c.engine.state
      rw [teardown_eq, hdrained]
    | connected =>
      cases h
      rw [connected_closed hclosed]
      exact ⟨rfl, rfl⟩
    | _ =>
      -- every other call moves plaintext, and is refused before it does anything
      obtain ⟨e, hrefused⟩ := c.lifecycle.softConnected_of_closed hclosed
      obtain ⟨reply', hperform, -⟩ := perform_refused rfl hasks hrefused budget
      rw [hperform] at h
      cases h
      exact ⟨rfl, rfl⟩

/-- no session is open, or the engine is closed -/
def Quiet (c : Client SimBoard slots) : Prop := c.Shut ∨ c.engine.phase = .closed

/-- in a quiet state no call but a connect fails in a new way -/
theorem Quiet.perform {budget : Nat} {request : Request} {reply : Reply} (h : Quiet c) (hcoherent : Coherent c)
    (hforced : c.engine.forced = none) (hopens : request.opens = false)
    (hperform : c.perform budget request = some (reply, c')) : c'.status = c.status ∧ Quiet c' := by
  rcases h with hshut | hclosed
  · cases hasks : request.asks with
    | false =>
      obtain rfl := perform_asks_nothing hasks hperform
      exact ⟨rfl, .inl hshut⟩
    | true =>
      obtain ⟨c₁, hrefused, hstill, hshut'⟩ := perform_shut hshut hcoherent hopens hasks budget
      rw [hrefused] at hperform
      cases hperform
      exact ⟨hstill.status, .inl hshut'⟩
  · have hflags : c.flags.closed = true := (SimEngine.closed_iff hforced).2 hclosed
    have hfrozen := perform_closed hflags hopens hperform
    exact ⟨hfrozen.status, .inr (hfrozen.phase.trans hclosed)⟩

/-! ## Steps on a conforming board -/

theorem Harmed.overreport (h : Harmed c c') : c'.socket.overreport = c.socket.overreport := by
  obtain ⟨written, incoming, calls, polls, hsocket, -⟩ := h.socket
  rw [hsocket]

theorem Move.overreport {f : Flow} (h : Move c f c') : c'.socket.overreport = c.socket.overreport := by
  cases h with
  | failed _ hharm =>
    rw [fail_eq]
    exact hharm.overreport
  | down => rw [teardown_eq]; rfl
  | _ => rfl

theorem Conforming.of_setup (h : Conforming c) (hsetup : Setup c.engine c'.engine)
    (hover : c'.socket.overreport = c.socket.overreport) : Conforming c' := by
  obtain ⟨_, _, _, _, _, _, _, _, _, _, heq⟩ := hsetup.eq
  refine ⟨?_, ?_, hover.trans h.honest⟩
  · rw [heq]
    exact h.natural
  · rw [heq]
    exact h.room

theorem Steps.conforming {f : Flow} (h : Conforming c) (hs : Steps c f c') : Conforming c' := by
  have hover := hs.invariant (I := fun _ c' => c'.socket.overreport = c.socket.overreport)
    (fun hover hstep => hstep.move.overreport.trans hover) rfl
  exact h.of_setup hs.setup hover

theorem Conforming.fail (h : Conforming c) (s : Status) : Conforming (c.fail s) :=
  h.of_setup (fail_setup c s) (by rw [fail_eq]; rfl)

theorem Conforming.launched (h : Conforming c) (draw : Nat → Bytes) (host : Host) (portNumber : Nat) :
    Conforming (c.launched draw host portNumber) := by
  obtain ⟨up, hsocket⟩ := launched_socket draw host portNumber c
  have honest : (c.launched draw host portNumber).socket.overreport = 0 := by
    rw [hsocket]
    exact h.honest
  cases hreset : c.engine.resetError with
  | none => exact (Sound.launched h hreset draw host portNumber).conforming
  | some code =>
    obtain ⟨entropy, hengine⟩ := launched_engine_of_error draw host portNumber hreset
    refine ⟨?_, ?_, honest⟩
    · rw [hengine]
      exact h.natural
    · rw [hengine]
      exact h.room

/-- a step that is no failure leaves the record alone -/
theorem Step.status_cases {f : Flow} (h : Step c f c') :
    (∃ s c₁, Fault c s c₁ ∧ c' = c₁.fail s) ∨ c'.status = c.status := by
  cases h with
  | failed h => exact .inl ⟨_, _, h, rfl⟩
  | sent _ _ _ h =>
    have hlife := sendRecord_lifecycle c
    rw [h] at hlife
    exact .inr (status_of_lifecycle hlife)
  | handed _ _ _ _ h =>
    have hlife := handOver_lifecycle c c.flags
    rw [h] at hlife
    exact .inr (status_of_lifecycle hlife)
  | received _ _ _ _ _ h =>
    have hlife := receiveRecord_lifecycle c
    rw [h] at hlife
    exact .inr (status_of_lifecycle hlife)
  | full => exact .inr (status_of_lifecycle (handStored_lifecycle c.openWindow))
  | take => exact .inr (by rw [takeUnread_eq]; rfl)
  | drop => exact .inr (by rw [dropUnread_eq]; rfl)
  | down => exact .inr (status_teardown c)
  | _ => exact .inr rfl

/-- a failure in a sound state is no fault of the client -/
theorem Sound.blameless {f : Flow} (h : Sound c) (hstatus : c.status ≠ .internal) (hs : Steps c f c') :
    c'.status ≠ .internal := by
  have hinvariant := hs.invariant (I := fun _ c => Sound c ∧ c.status ≠ .internal) ?_ ⟨h, hstatus⟩
  · exact hinvariant.2
  · intro f g c₁ c₂ ⟨hsound, hstatus⟩ hstep
    refine ⟨hsound.move hstep.move, ?_⟩
    rcases hstep.status_cases with ⟨s, c₃, hfault, rfl⟩ | hkept
    · obtain ⟨hblame, hharm⟩ := hfault.outcome
      have hkept : c₃.status = c₁.status := by rw [hharm.rest]; rfl
      by_cases hok : c₃.status = .ok
      · rw [status_fail hok]
        rcases hblame with hcause | rfl
        · rcases hsound.blame hcause with rfl | rfl
          · decide
          · decide
        · decide
      · rw [(Still.fail hok s).status, hkept]
        exact hstatus
    · rw [hkept]
      exact hstatus

/-! ## Upright states -/

/-- the changes from outside that a conforming board makes -/
def Permits (c : Client SimBoard slots) : Event → Prop
  | .engine (.capacity _) | .engine (.deliver _) | .engine (.queue _) => False
  | .engine (.forced flags) => flags = none
  | .engine (.sharedBuffer _) => c.Quiet
  | .socket (.overreport count) => count = 0
  | _ => True

/-- a client on a conforming board is in a quiet state or in a sound one, and has found no fault with itself -/
structure Upright (c : Client SimBoard slots) : Prop where
  conforming : Conforming c
  coherent : Coherent c
  blameless : c.status ≠ .internal
  calm : Quiet c ∨ Sound c

/-- with a failure on record, it does not matter what the engine is doing -/
theorem Upright.of_failed {s : Status} (hconforms : Conforming c) (hcoherent : Coherent c) (hstatus : c.status = s)
    (hfailed : s ≠ .ok) (hblameless : s ≠ .internal) : Upright c := by
  subst hstatus
  exact ⟨hconforms, hcoherent, hblameless, .inl (.inl (.inl hfailed))⟩

/-- to dial leaves the engine alone, and the socket as honest as it was -/
theorem Conforming.dialled (h : Conforming c) (host : Host) (portNumber : Nat) :
    Conforming (c.dialled host portNumber) := by
  refine ⟨h.natural, h.room, ?_⟩
  rw [dialled_socket]
  exact h.honest

/-- the end of a handshake leads out of no sound state -/
theorem Sound.concludeHandshake (h : Sound c) (server : Option String) (waited : Except Error Unit) :
    Sound (concludeHandshake server (waited, c)).2 := by
  cases waited with
  | ok u =>
    rw [Client.concludeHandshake, keepSession_eq]
    exact ⟨h.engine, h.honest, h.stored⟩
  | error e =>
    simp only [Client.concludeHandshake]
    split_ifs
    · exact h.fail (.refl c) _
    · exact h

/-- **A connect leads to a quiet state or to a sound one**, whatever the state before. -/
theorem Connects.upright {draw : Nat → Bytes} {host : Host} {portNumber : Nat} {r : Except Error Unit}
    (h : Upright c) (hconnects : Connects draw host portNumber c r c') : Upright c' := by
  have hcoherent := hconnects.coherent h.coherent
  have hlaunched := h.conforming.launched draw host portNumber
  have hok := status_launched draw host portNumber c
  cases hconnects with
  | busy => exact ⟨h.conforming, hcoherent, h.blameless, h.calm⟩
  | refused =>
    have hdialled := h.conforming.dialled host portNumber
    exact .of_failed (s := .transportConnect) ⟨hdialled.natural, hdialled.room, hdialled.honest⟩ hcoherent rfl
      (by decide) (by decide)
  | unstarted => exact .of_failed (hlaunched.fail _) hcoherent (status_fail hok _) (by decide) (by decide)
  | @waited waited c₁ _ _ hreset hs =>
    have hstart := Sound.launched h.conforming ((reset_prepared_iff draw host portNumber c).1 hreset) draw host portNumber
    have hblameless := hstart.blameless (by rw [hok]; decide) hs
    have hsound := (hs.sound hstart).concludeHandshake host.name? waited
    refine ⟨hsound.conforming, hcoherent, ?_, .inr hsound⟩
    rcases concludeHandshake_status host.name? waited c₁ with hkept | hconnect
    · rw [hkept]
      exact hblameless
    · rw [hconnect]
      decide

theorem Upright.perform {budget : Nat} {request : Request} {reply : Reply} (h : Upright c)
    (hperform : c.perform budget request = some (reply, c')) : Upright c' := by
  have hcoherent := perform_coherent h.coherent hperform
  rcases perform_cases hperform with ⟨_, _, _, _, -, -, hconnects⟩ | ⟨hopens, _, hs, -⟩
  · exact hconnects.upright h
  · have hconforms := hs.conforming h.conforming
    rcases h.calm with hquiet | hsound
    · obtain ⟨hstatus, hquiet'⟩ := hquiet.perform h.coherent h.conforming.natural hopens hperform
      exact ⟨hconforms, hcoherent, hstatus ▸ h.blameless, .inl hquiet'⟩
    · exact ⟨hconforms, hcoherent, hsound.blameless h.blameless hs, .inr (hs.sound hsound)⟩

/-- a change from outside leaves the record and the session alone -/
theorem shut_disturb (h : c.Shut) (event : Event) : (c.disturb event).Shut := by
  rw [Shut, status, phase, (disturb_lifecycle c event).1]
  exact h

theorem Conforming.disturb {event : Event} (h : Conforming c) (hevent : Permits c event) :
    Conforming (c.disturb event) := by
  cases event with
  | socket edit =>
    cases edit with
    | overreport count => exact ⟨h.natural, h.room, hevent⟩
    | _ => exact ⟨h.natural, h.room, h.honest⟩
  | engine edit =>
    cases edit with
    | capacity | deliver | queue => exact hevent.elim
    | forced flags => exact ⟨hevent, h.room, h.honest⟩
    | _ => exact ⟨h.natural, h.room, h.honest⟩
  | _ => exact ⟨h.natural, h.room, h.honest⟩

/-- an engine that is closed stays closed, whatever is changed -/
theorem Quiet.disturb (h : Quiet c) (event : Event) : Quiet (c.disturb event) := by
  rcases h with hshut | hclosed
  · exact .inl (shut_disturb hshut event)
  · refine .inr ?_
    cases event with
    | engine edit => cases edit <;> first | exact hclosed | rfl
    | _ => exact hclosed

/-- a change from outside leads from a sound state to a sound one, or to a quiet one if it closes the engine -/
theorem Sound.disturb {event : Event} (h : Sound c) (hevent : Permits c event) :
    Quiet (c.disturb event) ∨ Sound (c.disturb event) := by
  have hrunning := h.engine
  cases event with
  | request => exact .inr h
  | socket edit =>
    cases edit with
    | overreport count => exact .inr ⟨hrunning, hevent, h.stored⟩
    | _ => exact .inr ⟨hrunning, h.honest, h.stored⟩
  | engine edit =>
    cases edit with
    | capacity | deliver | queue => exact hevent.elim
    | close => exact .inl (.inr rfl)
    | sharedBuffer yes => exact .inl (Quiet.disturb hevent _)
    | forced flags =>
      -- the flags were the engine's own before
      refine .inr ⟨⟨hevent, hrunning.room, hrunning.live⟩, h.honest, fun hpos => ?_⟩
      obtain ⟨htake, hfits⟩ := h.stored hpos
      have hown := (SimEngine.sendApp_iff hrunning.natural).1 htake
      have hforced : (c.engine.edit (.forced flags)).forced = none := hevent
      exact ⟨(SimEngine.sendApp_iff hforced).2 hown, hfits⟩
    | _ => exact .inr ⟨⟨hrunning.natural, hrunning.room, hrunning.live⟩, h.honest, h.stored⟩
  | _ => exact .inr ⟨hrunning, h.honest, h.stored⟩

theorem Upright.disturb {event : Event} (h : Upright c) (hevent : Permits c event) : Upright (c.disturb event) := by
  obtain ⟨hlife, hbacklog⟩ := disturb_lifecycle c event
  have hstatus : (c.disturb event).status = c.status := status_of_lifecycle hlife
  refine ⟨h.conforming.disturb hevent, h.coherent.of_lifecycle hlife hbacklog, hstatus ▸ h.blameless, ?_⟩
  rcases h.calm with hquiet | hsound
  · exact .inl (hquiet.disturb event)
  · exact hsound.disturb hevent

theorem Reaches.upright {c₀ : Client SimBoard slots} (h₀ : Upright c₀) (h : Reaches Permits c₀ c) : Upright c := by
  induction h with
  | start => exact h₀
  | request _ hperform ih => exact ih.perform hperform
  | outside _ hevent ih => exact ih.disturb hevent

theorem Upright.new {board : SimBoard} {config : Config} (hforced : board.engine.forced = none)
    (hroom : 0 < board.engine.capacity) (honest : board.socket.overreport = 0) :
    Upright (new board config : Client SimBoard slots) :=
  ⟨⟨hforced, hroom, honest⟩, .new board config, nofun, .inl (.inl (.inr (.inl rfl)))⟩

/-- what is stored can be handed over, as long as the engine is not closed -/
theorem Upright.stored (h : Upright c) (hpos : 0 < c.pending) (hopen : c.engine.state.closed = false) :
    c.engine.state.sendApp = true ∧ c.pending < c.engine.capacity := by
  rcases h.calm with (hshut | hclosed) | hsound
  · obtain ⟨hok, hup⟩ := h.coherent.stored hpos
    rw [(hshut.of_ok h.coherent hok).2] at hup
    cases hup
  · rw [(SimEngine.closed_iff h.conforming.natural).2 hclosed] at hopen
    cases hopen
  · exact hsound.stored hpos

/-- the engine is given up only after the deadline, by whatever call -/
theorem Upright.late {budget : Nat} {request : Request} {reply : Reply} (h : Upright c)
    (hperform : c.perform budget request = some (reply, c')) (hfresh : c.status ≠ .engineWrite)
    (hfailed : c'.status = .engineWrite) : c.now + c.config.timeoutMs < c'.now := by
  cases hopens : request.opens with
  | true =>
    cases request with
    | connect host portNumber draw =>
      obtain ⟨⟨r, c₁⟩, hconnect, heq⟩ := Option.map_eq_some_iff.1 hperform
      cases heq
      exact (connect_timed hconnect).2 h.conforming hfresh hfailed
    | _ => cases hopens
  | false =>
    rcases h.calm with hquiet | hsound
    · obtain ⟨hstatus, -⟩ := hquiet.perform h.coherent h.conforming.natural hopens hperform
      exact absurd (hstatus ▸ hfailed) hfresh
    · exact (perform_timely hperform).late hsound hfresh hfailed

/-- **On a board that behaves, the codes that blame client or engine mean what they say.** In every state that a new client
on such a board reaches: the client has found no fault with itself; what is stored can be handed over, as long as the
engine is not closed; and a call that gives up on the engine has taken longer than the deadline. -/
theorem conforming_board {board : SimBoard} {config : Config} (hforced : board.engine.forced = none)
    (hroom : 0 < board.engine.capacity) (honest : board.socket.overreport = 0)
    (hreaches : Reaches Permits (new board config) c) :
    c.status ≠ .internal ∧
      (0 < c.pending → c.engine.state.closed = false →
        c.engine.state.sendApp = true ∧ c.pending < c.engine.capacity) ∧
      ∀ budget request reply c', c.perform budget request = some (reply, c') → c.status ≠ .engineWrite →
        c'.status = .engineWrite → c.now + c.config.timeoutMs < c'.now := by
  have hupright := hreaches.upright (.new hforced hroom honest)
  refine ⟨hupright.blameless, hupright.stored, ?_⟩
  intro budget request reply c' hperform hfresh hfailed
  exact hupright.late hperform hfresh hfailed

/-- three bytes are stored; the peer never answers, and after more than five milliseconds the client gives up -/
theorem conforming_board_silent_peer :
    ∃ c : Client SimBoard 1, Reaches Permits newcomer c ∧ c.status ≠ .internal ∧ c.pending = 3 ∧
      c.engine.state.closed = false ∧ c.engine.state.sendApp = true ∧ c.pending < c.engine.capacity ∧
      ∃ reply c', c.perform 50 (.runUntil { recvApp := true }) = some (reply, c') ∧ c'.status = .engineWrite ∧
        c.config.timeoutMs = 5 ∧ c.now + c.config.timeoutMs < c'.now := by
  have hplayed :
      (newcomer.undergo 50 [.request (.connect (.name "a") 443 fun _ => []), .request (.write [1, 2, 3]),
        .setTimeout 5]).map (fun s => (s.2.status, s.2.pending, s.2.engine.state.closed, s.2.config.timeoutMs,
          (s.2.perform 50 (.runUntil { recvApp := true })).map fun r => r.2.status)) =
        some (.ok, 3, false, 5, some .engineWrite) := by
    decide +kernel
  obtain ⟨⟨log, c⟩, hrun, heq⟩ := Option.map_eq_some_iff.1 hplayed
  obtain ⟨hok, hpending, hopen, htimeout, hwaited⟩ : c.status = .ok ∧ c.pending = 3 ∧ c.engine.state.closed = false ∧
      c.config.timeoutMs = 5 ∧
      (c.perform 50 (.runUntil { recvApp := true })).map (fun r => r.2.status) = some .engineWrite := by
    simpa using heq
  obtain ⟨⟨reply, c'⟩, hperform, hfailed⟩ := Option.map_eq_some_iff.1 hwaited
  have hreaches : Reaches Permits newcomer c := by
    refine .of_undergo ?_ hrun
    intro event hevent c
    simp only [List.mem_cons, List.not_mem_nil, or_false] at hevent
    rcases hevent with rfl | rfl | rfl <;> trivial
  obtain ⟨hblameless, hstored, hlate⟩ := conforming_board rfl (by decide) rfl hreaches
  obtain ⟨htake, hfits⟩ := hstored (by rw [hpending]; decide) hopen
  have hpassed := hlate 50 _ reply c' hperform (by rw [hok]; decide) hfailed
  exact ⟨c, hreaches, hblameless, hpending, hopen, htake, hfits, reply, c', hperform, hfailed, htimeout, hpassed⟩

end Client

end TlsClient

/-
The lifecycle of a client between two requests.

Stage, session, status, backlog and the note of corrupted memory are stored apart and changed by different functions.
Between two requests they agree all the same. From outside the board may be changed at will, but for one thing: only a
connect opens the socket.
- `Sheltered`: the clients that requests lead to in such surroundings;
- `Steady`, `Down`: the two courses that a piece of work can take, short of a shutdown;
- `Steps.course`, `Connects.course`: every sequence of steps takes one of them, and what a connect comes to;
- `Settled`: what the lifecycle is between two requests, `perform_settled`: and it is so after every request;
- `lifecycle_in_order`: what a caller sees of it.
-/
import TlsClient.Proofs.CorruptedMemory
import TlsClient.Proofs.Reachability

namespace TlsClient.Client

variable {slots : Nat} {c c' c'' : Client SimBoard slots}

/-- a client that was new once, and that requests have led to; its board may be changed from outside at any time, but
its socket is never opened that way -/
inductive Sheltered : Client SimBoard slots → Prop
  | new (board : SimBoard) (config : Config) : Sheltered (new board config)
  | request {budget request reply} {c c' : Client SimBoard slots} (h : Sheltered c)
      (hperform : c.perform budget request = some (reply, c')) : Sheltered c'
  | outside {c : Client SimBoard slots} (h : Sheltered c) (board : SimBoard)
      (hsocket : board.socket.isConnected = true → c.socket.isConnected = true) : Sheltered { c with board }
  | forget {c : Client SimBoard slots} (h : Sheltered c) (name : String) : Sheltered (c.forgetSession name)
  | setTimeout {c : Client SimBoard slots} (h : Sheltered c) (ms : Nat) : Sheltered (c.setTimeout ms)

/-- a history in which nobody else opens the socket -/
theorem Sheltered.of_undergo {budget : Nat} {events : List Event} {log : List Exchange} (h : Sheltered c)
    (hevents : ∀ event ∈ events, event ≠ .socket (.isConnected true))
    (hrun : c.undergo budget events = some (log, c')) : Sheltered c' := by
  refine undergo_invariant (P := fun event => event ≠ .socket (.isConnected true)) (I := fun _ _ c => Sheltered c)
    ?_ ?_ hevents [] [] h hrun
  · intro budget past done c c' r reply _ h hperform
    exact h.request hperform
  · intro past done c event hevent h
    cases event with
    | request r => exact h
    | socket edit =>
      refine h.outside _ ?_
      intro hup
      cases edit with
      | isConnected yes =>
        cases yes with
        | true => exact absurd rfl hevent
        | false => cases hup
      | _ => exact hup
    | forget name => exact h.forget name
    | setTimeout ms => exact h.setTimeout ms
    | _ => exact h.outside _ id

/-! ## The course of a piece of work -/

/-- lifecycle and socket are what they were -/
structure Steady (c c' : Client SimBoard slots) : Prop where
  lifecycle : c'.lifecycle = c.lifecycle
  socket : c'.socket.isConnected = c.socket.isConnected

/-- a session is up, and nothing is on record -/
structure Up (c : Client SimBoard slots) : Prop where
  stage : c.lifecycle.stage = .connected
  session : c.lifecycle.engineConnected = true
  status : c.status = .ok

/-- the connection was torn down -/
structure Down (c : Client SimBoard slots) : Prop where
  stage : c.lifecycle.stage = .closed
  session : c.lifecycle.engineConnected = false
  socket : c.socket.isConnected = false

theorem Down.teardown (c : Client SimBoard slots) : Down c.teardown := by
  rw [teardown_eq]
  exact ⟨rfl, rfl, rfl⟩

theorem Down.fail (c : Client SimBoard slots) (s : Status) : Down (c.fail s) := by
  rw [fail_eq]
  exact ⟨rfl, rfl, rfl⟩

theorem Steady.trans (h : Steady c c') (h' : Steady c' c'') : Steady c c'' :=
  ⟨h'.lifecycle.trans h.lifecycle, h'.socket.trans h.socket⟩

/-- a connection that is down stays down -/
theorem Down.of_steady (h : Down c) (hsteady : Steady c c') : Down c' := by
  obtain ⟨hlife, hsocket⟩ := hsteady
  exact ⟨hlife ▸ h.stage, hlife ▸ h.session, hsocket.trans h.socket⟩

/-- a move that does not begin a shutdown -/
theorem Move.course {f : Flow} (h : Move c f c') (hcloses : f.closes = false) : Steady c c' ∨ Down c' := by
  cases h with
  | failed => exact .inr (.fail _ _)
  | down => exact .inr (.teardown c)
  | closing => cases hcloses
  | _ => exact .inl ⟨rfl, rfl⟩

/-- **Short of a shutdown, lifecycle and socket stay what they were, or the connection is torn down.** -/
theorem Steps.course {f : Flow} (hs : Steps c f c') (hcloses : f.closes = false) : Steady c c' ∨ Down c' := by
  refine hs.invariant (I := fun f c' => f.closes = false → Steady c c' ∨ Down c') ?_ (fun _ => .inl ⟨rfl, rfl⟩) hcloses
  intro f g c₁ c₂ ih hstep hcloses
  rw [Flow.closes_append, Bool.or_eq_false_iff] at hcloses
  obtain ⟨hbefore, hthen⟩ := hcloses
  rcases hstep.move.course hthen with hsteady | hdown
  · rcases ih hbefore with hsteady₁ | hdown₁
    · exact .inl (hsteady₁.trans hsteady)
    · exact .inr (hdown₁.of_steady hsteady)
  · exact .inr hdown

/-- a handshake that is over has a session up, or the connection was torn down -/
theorem concludeHandshake_course {start : Client SimBoard slots} {target : EngineState} {r : Except Error Unit}
    (hok : start.status = .ok) (hcourse : Steady start c ∨ Down c) (hwaited : Waited start target r c)
    (server : Option String) :
    Up (concludeHandshake server (r, c)).2 ∨ Down (concludeHandshake server (r, c)).2 := by
  cases r with
  | ok u =>
    cases hwaited with
    | reached hlife =>
      have hstatus : c.status = .ok := (status_of_lifecycle hlife).trans hok
      rw [concludeHandshake, keepSession_eq]
      exact .inl ⟨rfl, rfl, hstatus⟩
  | error e =>
    simp only [concludeHandshake]
    split_ifs with hisOk
    · exact .inr (.fail c .engineConnect)
    · -- with a failure on record the lifecycle is not the one that the handshake began with
      have hfailed : c.status ≠ .ok := mt (Status.isOk_iff _).2 hisOk
      refine .inr (hcourse.resolve_left ?_)
      intro hsteady
      exact hfailed ((status_of_lifecycle hsteady.lifecycle).trans hok)

/-- over a closed socket, a connect is refused if the peer does not accept -/
theorem not_accepts_of_refused {host : Host} {portNumber : Nat} {e : SocketError}
    (hdial : (Transport.connect host portNumber c.polled.board).1 = .error e) : c.socket.acceptsConnect = false := by
  rw [← Bool.not_eq_true, ← dial_ok_iff host portNumber c, hdial]
  exact nofun

/-- the four ways a connect can end, by their course: it does nothing, it only puts a failure on record, a session is up,
or the connection was torn down -/
theorem Connects.course {draw : Nat → Bytes} {host : Host} {portNumber : Nat} {r : Except Error Unit}
    (h : Connects draw host portNumber c r c') :
    (c.socket.isConnected = true ∧ c' = c) ∨
      (c.socket.isConnected = false ∧ c.socket.acceptsConnect = false ∧ c'.socket.isConnected = false ∧
        c'.lifecycle = { c.lifecycle with status := .transportConnect }) ∨
      (c.socket.isConnected = false ∧ c.socket.acceptsConnect = true ∧ (Up c' ∨ Down c')) := by
  cases h with
  | busy hup => exact .inl ⟨hup, rfl⟩
  | refused hdown hdial =>
    have haccepts := not_accepts_of_refused hdial
    have hsocket := congrArg SimSocket.isConnected (dialled_socket host portNumber c)
    rw [haccepts, Bool.false_or] at hsocket
    exact .inr (.inl ⟨hdown, haccepts, hsocket.trans hdown, rfl⟩)
  | unstarted hdown hdial => exact .inr (.inr ⟨hdown, (dial_ok_iff host portNumber c).1 hdial, .inr (.fail _ _)⟩)
  | waited hdown hdial _ hs hend =>
    have hok := status_launched draw host portNumber c
    exact .inr (.inr ⟨hdown, (dial_ok_iff host portNumber c).1 hdial,
      concludeHandshake_course hok (hs.course rfl) hend host.name?⟩)

/-! ## Between two requests -/

/-- a session is up, or there is none; with a failure on record the socket is closed -/
structure Settled (c : Client SimBoard slots) : Prop where
  stage : c.lifecycle.stage = .connected ∧ c.lifecycle.engineConnected = true ∨
    (c.lifecycle.stage = .idle ∨ c.lifecycle.stage = .closed) ∧ c.lifecycle.engineConnected = false
  failed : c.status ≠ .ok → c.socket.isConnected = false

theorem Settled.new (board : SimBoard) (config : Config) : Settled (new board config : Client SimBoard slots) :=
  ⟨.inr ⟨.inl rfl, rfl⟩, fun hfailed => absurd rfl hfailed⟩

theorem Settled.of_up (h : Up c) : Settled c := ⟨.inl ⟨h.stage, h.session⟩, fun hfailed => absurd h.status hfailed⟩

theorem Settled.of_down (h : Down c) : Settled c := ⟨.inr ⟨.inr h.stage, h.session⟩, fun _ => h.socket⟩

/-- the lifecycle is the same, and nobody has opened the socket -/
theorem Settled.of_lifecycle (h : Settled c) (hlife : c'.lifecycle = c.lifecycle)
    (hsocket : c'.socket.isConnected = true → c.socket.isConnected = true) : Settled c' := by
  refine ⟨hlife ▸ h.stage, ?_⟩
  intro hfailed
  rw [status, hlife] at hfailed
  cases hup : c'.socket.isConnected with
  | false => rfl
  | true =>
    have hdown := h.failed hfailed
    rw [hsocket hup] at hdown
    cases hdown

/-- what short of a shutdown is steady or down settles -/
theorem Settled.of_course (h : Settled c) (hcourse : Steady c c' ∨ Down c') : Settled c' := by
  rcases hcourse with hsteady | hdown
  · exact h.of_lifecycle hsteady.lifecycle fun hup => hsteady.socket ▸ hup
  · exact .of_down hdown

/-- whatever a connect comes to, it is over when it returns -/
theorem Connects.settled {draw : Nat → Bytes} {host : Host} {portNumber : Nat} {r : Except Error Unit}
    (h : Settled c) (hconnects : Connects draw host portNumber c r c') : Settled c' := by
  rcases hconnects.course with ⟨-, rfl⟩ | ⟨-, -, hsocket, hlife⟩ | ⟨-, -, hup | hdown⟩
  · exact h
  · -- a refusal touches neither stage nor session
    refine ⟨?_, fun _ => hsocket⟩
    rw [hlife]
    exact h.stage
  · exact .of_up hup
  · exact .of_down hdown

/-- **Every request leaves a settled client settled.** -/
theorem perform_settled {budget : Nat} {r : Request} {reply : Reply} (h : Settled c)
    (hperform : c.perform budget r = some (reply, c')) : Settled c' := by
  rcases perform_cases hperform with ⟨_, _, _, _, -, -, hconnects⟩ | ⟨-, flow, hs, hfits⟩
  · exact hconnects.settled h
  cases hcloses : flow.closes with
  | false => exact h.of_course (hs.course hcloses)
  | true =>
    -- a shutdown is only ever begun by a stop, which ends in a teardown
    obtain rfl := hfits.closes hcloses
    obtain ⟨c₁, hstop, heq⟩ := Option.map_eq_some_iff.1 hperform
    cases heq
    obtain ⟨_, c₂, -, -, -, rfl⟩ := stop_spec hstop
    exact .of_down (.teardown c₂)

theorem Sheltered.settled (h : Sheltered c) : Settled c := by
  induction h with
  | new board config => exact .new board config
  | request _ hperform ih => exact perform_settled ih hperform
  | outside _ board hsocket ih => exact ih.of_lifecycle rfl hsocket
  | forget _ name ih => exact ih.of_lifecycle rfl id
  | setTimeout _ ms ih => exact ih.of_lifecycle rfl id

theorem Sheltered.lived (h : Sheltered c) : Lived c := by
  induction h with
  | new board config => exact .new board config
  | request _ hperform ih => exact ih.request hperform
  | outside _ board _ ih => exact ih.outside board
  | forget _ name ih => exact ih.forget name
  | setTimeout _ ms ih => exact ih.setTimeout ms

theorem Lived.coherent (h : Lived c) : Coherent c := by
  induction h with
  | new board config => exact .new board config
  | request _ hperform ih => exact perform_coherent ih hperform
  | outside _ board ih => exact ih.of_lifecycle rfl rfl
  | forget _ name ih => exact ih.of_lifecycle rfl rfl
  | setTimeout _ ms ih => exact ih.of_lifecycle rfl rfl

/-! ## What a caller sees -/

/-- phase, session, status, backlog, socket and the note of corrupted memory agree -/
structure InOrder (c : Client SimBoard slots) : Prop where
  phase : c.phase = .idle ∨ c.phase = .connected ∨ c.phase = .closed ∨ c.phase = .errored
  connected : c.phase = .connected ↔ c.lifecycle.engineConnected = true ∧ c.status = .ok
  failed : c.status ≠ .ok → c.pending = 0 ∧ c.socket.isConnected = false
  stored : 0 < c.pending → c.phase = .connected
  abort : c.abort = true → c.status = .outOfMemory

theorem phase_of_ok (h : c.status = .ok) : c.phase = c.lifecycle.stage := if_pos ((Status.isOk_iff _).2 h)

theorem phase_of_failed (h : c.status ≠ .ok) : c.phase = .errored := if_neg (mt (Status.isOk_iff _).1 h)

/-- a settled client is connected exactly if a session is up and nothing is on record -/
theorem Settled.connected_iff (h : Settled c) :
    c.phase = .connected ↔ c.lifecycle.engineConnected = true ∧ c.status = .ok := by
  by_cases hok : c.status = .ok
  · rw [phase_of_ok hok, and_iff_left hok]
    rcases h.stage with ⟨hstage, hup⟩ | ⟨hstage | hstage, hdown⟩
    · exact iff_of_true hstage hup
    · rw [hstage, hdown]
      exact iff_of_false nofun nofun
    · rw [hstage, hdown]
      exact iff_of_false nofun nofun
  · rw [phase_of_failed hok]
    exact iff_of_false nofun fun h => hok h.2

theorem Settled.phase_cases (h : Settled c) :
    c.phase = .idle ∨ c.phase = .connected ∨ c.phase = .closed ∨ c.phase = .errored := by
  by_cases hok : c.status = .ok
  · rw [phase_of_ok hok]
    rcases h.stage with ⟨hstage, -⟩ | ⟨hstage | hstage, -⟩
    · exact .inr (.inl hstage)
    · exact .inl hstage
    · exact .inr (.inr (.inl hstage))
  · exact .inr (.inr (.inr (phase_of_failed hok)))

/-- **Between two requests the lifecycle is in order.** Whatever requests have led to a client, and whatever was changed
on its board in between, as long as nobody else opened its socket: no handshake and no shutdown is in progress; it is
connected exactly if a session is up and nothing is on record; with a failure on record nothing is stored and the socket
is closed; plaintext is stored only while it is connected; and corrupted memory is on record as a lack of memory. -/
theorem lifecycle_in_order (h : Sheltered c) : InOrder c := by
  have hsettled := h.settled
  have hcoherent := h.lived.coherent
  refine ⟨hsettled.phase_cases, hsettled.connected_iff, ?_, ?_, h.lived.blamed⟩
  · intro hfailed
    have hnone : ¬0 < c.pending := fun hpos => hfailed (hcoherent.stored hpos).1
    exact ⟨Nat.eq_zero_of_not_pos hnone, hsettled.failed hfailed⟩
  · intro hpos
    obtain ⟨hok, hup⟩ := hcoherent.stored hpos
    exact hsettled.connected_iff.2 ⟨hup, hok⟩

/-- plaintext is stored on a session, and is gone when its memory turns out to be corrupted -/
theorem lifecycle_in_order_corrupted_memory :
    ∃ c c' : Client SimBoard 1, Sheltered c ∧ c.phase = .connected ∧ c.pending = 3 ∧ InOrder c ∧
      Sheltered c' ∧ c'.abort = true ∧ c'.phase = .errored ∧ InOrder c' := by
  have hstored : (newcomer.undergo 50 [.request (.connect (.name "a") 443 fun _ => []), .request (.write [1, 2, 3])]).map
      (fun s => (s.2.phase, s.2.pending)) = some (.connected, 3) := by
    decide +kernel
  have hfailed : (newcomer.undergo 50 [.request (.connect (.name "a") 443 fun _ => []), .request (.write [1, 2, 3]),
      .socket (.push [5]), .probe (.always .corrupted), .request .update]).map
      (fun s => (s.2.abort, s.2.phase)) = some (true, .errored) := by
    decide +kernel
  obtain ⟨⟨_, c⟩, hrun, heq⟩ := Option.map_eq_some_iff.1 hstored
  obtain ⟨⟨_, c'⟩, hrun', heq'⟩ := Option.map_eq_some_iff.1 hfailed
  obtain ⟨hphase, hpending⟩ : c.phase = .connected ∧ c.pending = 3 := by simpa using heq
  obtain ⟨habort, hphase'⟩ : c'.abort = true ∧ c'.phase = .errored := by simpa using heq'
  have hnew : Sheltered newcomer := .new _ _
  have hc : Sheltered c := hnew.of_undergo (by simp) hrun
  have hc' : Sheltered c' := hnew.of_undergo (by simp) hrun'
  exact ⟨c, c', hc, hphase, hpending, lifecycle_in_order hc, hc', habort, hphase', lifecycle_in_order hc'⟩

end TlsClient.Client

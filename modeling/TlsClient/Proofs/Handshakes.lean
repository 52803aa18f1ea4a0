/-
How a connect ends, and what a handshake starts from.

- `Connects`: the four ways a connect can end, on any board;
- `connect_spec`: there is no other way;
- `perform_cases`: so a request is a connect that ends in one of them, or made of steps;
- `launched_engine`: on a simulated board, the engine that a handshake starts from. Whatever happens until the connect
  returns is made of steps that begin there.
-/
import TlsClient.Proofs.Moves

namespace TlsClient

namespace Client

/-! ## The four ways a connect can end -/

section AnyBoard

variable {β : Type} [Board β] {slots : Nat}

/-- the socket was asked to open a connection -/
def dialled (host : Host) (portNumber : Nat) (c : Client β slots) : Client β slots :=
  { c.polled.startAfresh with board := (Transport.connect host portNumber c.polled.board).2 }

/-- the engine has its entropy, and the session to resume if there is one -/
def prepared (entropy : Bytes) (server : Option String) (c : Client β slots) : Client β slots :=
  { c with
    lifecycle := c.lifecycle.beginHandshake
    board := Engine.injectEntropy entropy c.board }.offerSession server

/-- the engine was asked to start a handshake -/
def started (server : Option String) (c : Client β slots) : Client β slots :=
  { c with board := (Engine.reset server c.board).2 }

/-- the client from which the wait for a handshake begins -/
def launched (draw : Nat → Bytes) (host : Host) (portNumber : Nat) (c : Client β slots) : Client β slots :=
  ((c.dialled host portNumber).prepared (draw entropyLength) host.name?).started host.name?

/-- how a connect that began with `c` ends -/
inductive Connects (draw : Nat → Bytes) (host : Host) (portNumber : Nat) (c : Client β slots) :
    Except Error Unit → Client β slots → Prop
  /-- the socket is open already -/
  | busy (hup : (Transport.connected c.board).1 = true) :
      Connects draw host portNumber c (.error .alreadyConnected) c.polled
  /-- the socket did not open -/
  | refused {e} (hdown : (Transport.connected c.board).1 = false)
      (hdial : (Transport.connect host portNumber c.polled.board).1 = .error e) :
      Connects draw host portNumber c (.error (.status .transportConnect))
        { c.dialled host portNumber with lifecycle := (c.dialled host portNumber).lifecycle.fail .transportConnect }
  /-- the engine did not start -/
  | unstarted {e} (hdown : (Transport.connected c.board).1 = false)
      (hdial : (Transport.connect host portNumber c.polled.board).1 = .ok ())
      (hreset : (Engine.reset host.name?
        ((c.dialled host portNumber).prepared (draw entropyLength) host.name?).board).1 = .error e) :
      Connects draw host portNumber c (.error (.status .engineConnect))
        ((c.launched draw host portNumber).fail .engineConnect)
  /-- the handshake was waited for -/
  | waited {r c'} (hdown : (Transport.connected c.board).1 = false)
      (hdial : (Transport.connect host portNumber c.polled.board).1 = .ok ())
      (hreset : (Engine.reset host.name?
        ((c.dialled host portNumber).prepared (draw entropyLength) host.name?).board).1 = .ok ())
      (hs : Steps (c.launched draw host portNumber) {} c')
      (hend : Waited (c.launched draw host portNumber) { sendApp := true } r c') :
      Connects draw host portNumber c (concludeHandshake host.name? (r, c')).1 (concludeHandshake host.name? (r, c')).2

theorem status_launched (draw : Nat → Bytes) (host : Host) (portNumber : Nat) (c : Client β slots) :
    (c.launched draw host portNumber).status = .ok := by
  simp only [launched, started, prepared, offerSession, status]
  split <;> rfl

/-- a connect asks the socket whether it is open, opens it, starts the engine, and waits -/
theorem connect_eq (budget : Nat) (draw : Nat → Bytes) (host : Host) (portNumber : Nat) (c : Client β slots) :
    c.connect budget draw host portNumber =
      if (Transport.connected c.board).1 then some (.error .alreadyConnected, c.polled)
      else
        match (Transport.connect host portNumber c.polled.board).1 with
        | .error _ =>
          some (.error (.status .transportConnect),
            { c.dialled host portNumber with
              lifecycle := (c.dialled host portNumber).lifecycle.fail .transportConnect })
        | .ok () =>
          match (Engine.reset host.name?
            ((c.dialled host portNumber).prepared (draw entropyLength) host.name?).board).1 with
          | .error _ =>
            some (.error (.status .engineConnect), (c.launched draw host portNumber).fail .engineConnect)
          | .ok () =>
            ((c.launched draw host portNumber).drive budget { sendApp := true }).map
              (concludeHandshake host.name?) := rfl

/-- **A connect ends in one of four ways.** -/
theorem connect_spec [Separate β] {budget : Nat} {draw : Nat → Bytes} {host : Host} {portNumber : Nat}
    {c c' : Client β slots} {r : Except Error Unit} (h : c.connect budget draw host portNumber = some (r, c')) :
    Connects draw host portNumber c r c' := by
  rw [connect_eq] at h
  split_ifs at h with hup
  · cases h
    exact .busy hup
  rw [Bool.not_eq_true] at hup
  split at h
  · next e hdial =>
    cases h
    exact .refused hup hdial
  · next hdial =>
    split at h
    · next e hreset =>
      cases h
      exact .unstarted hup hdial hreset
    · next hreset =>
      obtain ⟨⟨waited, c₁⟩, hdrive, heq⟩ := Option.map_eq_some_iff.1 h
      obtain ⟨hs, hend⟩ := drive_spec (status_launched draw host portNumber c) hdrive
      have hends := Connects.waited hup hdial hreset hs hend
      rw [heq] at hends
      exact hends

/-- a connect that succeeds has waited for a handshake, and then keeps the session -/
theorem Connects.of_ok {draw : Nat → Bytes} {host : Host} {portNumber : Nat} {c c' : Client β slots}
    (h : Connects draw host portNumber c (.ok ()) c') :
    (Engine.reset host.name? ((c.dialled host portNumber).prepared (draw entropyLength) host.name?).board).1 = .ok () ∧
      ∃ c₁, Steps (c.launched draw host portNumber) {} c₁ ∧
        Waited (c.launched draw host portNumber) { sendApp := true } (.ok ()) c₁ ∧
        c' = keepSession host.name? { c₁ with lifecycle := c₁.lifecycle.established } := by
  generalize hr : (Except.ok () : Except Error Unit) = r at h
  cases h with
  | busy => cases hr
  | refused => cases hr
  | unstarted => cases hr
  | @waited waited c₁ hdown hdial hreset hs hend =>
    cases waited with
    | error e => cases hr
    | ok u => exact ⟨hreset, c₁, hs, hend, rfl⟩

/-- a request is a connect, or made of steps -/
theorem perform_cases [Separate β] {budget : Nat} {c c' : Client β slots} {request : Request} {reply : Reply}
    (h : c.perform budget request = some (reply, c')) :
    (∃ host portNumber draw r, request = .connect host portNumber draw ∧ reply = .done r ∧
        Connects draw host portNumber c r c') ∨
      request.opens = false ∧ ∃ flow, Steps c flow c' ∧ Fits request reply flow := by
  cases hopens : request.opens with
  | true =>
    cases request with
    | connect host portNumber draw =>
      obtain ⟨⟨r, c₁⟩, hconnect, heq⟩ := Option.map_eq_some_iff.1 h
      cases heq
      exact .inl ⟨host, portNumber, draw, r, rfl, rfl, connect_spec hconnect⟩
    | _ => simp [Request.opens] at hopens
  | false => exact .inr ⟨rfl, perform_steps hopens h⟩

end AnyBoard

end Client

/-! ## What a handshake starts from -/

/-- a reset that fails only notes the server and the reason -/
theorem SimEngine.reset_of_error {e : SimEngine} (server : Option String) {code : EngineCode}
    (h : e.resetError = some code) :
    e.reset server = (.error code, { e with resets := e.resets ++ [server], lastError := code }) := by
  simp only [reset, h]

/-- a reset that succeeds starts afresh, and is done at once if the peer has nothing to send -/
theorem SimEngine.reset_eq_of_ok {e : SimEngine} (server : Option String) (h : e.resetError = none) :
    e.reset server =
      (.ok (),
        if { e with resets := e.resets ++ [server] }.restart.flight = 0 then
          { { e with resets := e.resets ++ [server] }.restart.establish with handshakes := e.handshakes + 1 }
        else
          { { e with resets := e.resets ++ [server] }.restart with
            phase := .awaiting { e with resets := e.resets ++ [server] }.restart.flight }) := by
  unfold reset
  rw [h]
  rfl

/-- a reset that succeeds queues the hello, drops what was left unread and uses up the offered parameters -/
theorem SimEngine.reset_of_ok {e : SimEngine} (server : Option String) (h : e.resetError = none) :
    ∃ phase session handshakes,
      e.reset server =
          (.ok (),
            { e with
              phase
              session
              handshakes
              resets := e.resets ++ [server]
              resumedWith := e.offered
              offered := none
              unread := []
              outgoing := e.hello }) ∧
        phase = if (e.reset server).2.flight = 0 then .app else .awaiting (e.reset server).2.flight := by
  have hreset := reset_eq_of_ok server h
  by_cases hflight : { e with resets := e.resets ++ [server] }.restart.flight = 0
  · rw [if_pos hflight] at hreset
    refine ⟨_, _, _, hreset, ?_⟩
    rw [hreset]
    exact (if_pos hflight).symm
  · rw [if_neg hflight] at hreset
    refine ⟨_, _, _, hreset, ?_⟩
    rw [hreset]
    exact (if_neg hflight).symm

theorem SimEngine.reset_ok_iff {e : SimEngine} {server : Option String} :
    (e.reset server).1 = .ok () ↔ e.resetError = none := by
  cases h : e.resetError with
  | none =>
    obtain ⟨_, _, _, heq, -⟩ := reset_of_ok server h
    simp [heq]
  | some code => simp [reset_of_error server h]

theorem SimSocket.connect_eq (s : SimSocket) (host : Host) (portNumber : Nat) :
    (s.connect host portNumber).2 =
      { s with
        connectCalls := s.connectCalls + 1
        lastHost := some host.text
        isConnected := s.acceptsConnect || s.isConnected } := by
  simp only [connect]
  cases haccepts : s.acceptsConnect with
  | false => simp
  | true => simp

namespace Client

variable {slots : Nat}

/-- the parameters that the next reset will resume: those of the remembered session, or else those offered before -/
def offering (c : Client SimBoard slots) (server : Option String) : Option SessionParameters :=
  ((c.sessions.find? server).map Session.parameters).or c.engine.offered

theorem prepared_eq (entropy : Bytes) (server : Option String) (c : Client SimBoard slots) :
    c.prepared entropy server =
      { c with
        lifecycle := c.lifecycle.beginHandshake
        board.engine.entropy := c.engine.entropy ++ entropy
        board.engine.offered := c.offering server } := by
  simp only [prepared, offerSession, offering]
  cases c.sessions.find? server <;> rfl

theorem reset_prepared_iff (draw : Nat → Bytes) (host : Host) (portNumber : Nat) (c : Client SimBoard slots) :
    (Engine.reset host.name?
      ((c.dialled host portNumber).prepared (draw entropyLength) host.name?).board).1 = .ok () ↔
        c.engine.resetError = none := by
  rw [prepared_eq]
  exact SimEngine.reset_ok_iff

theorem dialled_socket (host : Host) (portNumber : Nat) (c : Client SimBoard slots) :
    (c.dialled host portNumber).socket =
      { c.socket with
        connectCalls := c.socket.connectCalls + 1
        lastHost := some host.text
        isConnected := c.socket.acceptsConnect || c.socket.isConnected } :=
  c.socket.connect_eq host portNumber

theorem launched_dialled (draw : Nat → Bytes) (host : Host) (portNumber : Nat) (c : Client SimBoard slots) :
    (c.launched draw host portNumber).socket = (c.dialled host portNumber).socket := by
  rw [launched, prepared_eq]
  rfl

theorem launched_socket (draw : Nat → Bytes) (host : Host) (portNumber : Nat) (c : Client SimBoard slots) :
    ∃ up, (c.launched draw host portNumber).socket =
      { c.socket with
        connectCalls := c.socket.connectCalls + 1
        lastHost := some host.text
        isConnected := up } :=
  ⟨_, (launched_dialled draw host portNumber c).trans (dialled_socket host portNumber c)⟩

theorem engine_launched (draw : Nat → Bytes) (host : Host) (portNumber : Nat) (c : Client SimBoard slots) :
    (c.launched draw host portNumber).engine =
      ({ c.engine with
        entropy := c.engine.entropy ++ draw entropyLength
        offered := c.offering host.name? }.reset host.name?).2 := by
  simp only [launched, prepared_eq]
  rfl

/-- the engine that waits for the flight of its peer -/
theorem launched_engine (draw : Nat → Bytes) (host : Host) (portNumber : Nat) {c : Client SimBoard slots}
    (h : c.engine.resetError = none) :
    ∃ phase session handshakes entropy,
      (c.launched draw host portNumber).engine =
          { c.engine with
            phase
            session
            handshakes
            entropy
            resets := c.engine.resets ++ [host.name?]
            resumedWith := c.offering host.name?
            offered := none
            unread := []
            outgoing := c.engine.hello } ∧
        phase = if (c.launched draw host portNumber).engine.flight = 0 then .app
          else .awaiting (c.launched draw host portNumber).engine.flight := by
  have hafter := engine_launched draw host portNumber c
  obtain ⟨phase, session, handshakes, hreset, hphase⟩ := SimEngine.reset_of_ok host.name?
    (e := { c.engine with entropy := c.engine.entropy ++ draw entropyLength, offered := c.offering host.name? }) h
  rw [← hafter] at hphase
  exact ⟨phase, session, handshakes, _, hafter.trans (congrArg Prod.snd hreset), hphase⟩

/-- the engine that could not start keeps what it was offered -/
theorem launched_engine_of_error (draw : Nat → Bytes) (host : Host) (portNumber : Nat) {c : Client SimBoard slots}
    {code : EngineCode} (h : c.engine.resetError = some code) :
    ∃ entropy,
      (c.launched draw host portNumber).engine =
        { c.engine with
          entropy
          offered := c.offering host.name?
          resets := c.engine.resets ++ [host.name?]
          lastError := code } := by
  have hreset := SimEngine.reset_of_error host.name?
    (e := { c.engine with entropy := c.engine.entropy ++ draw entropyLength, offered := c.offering host.name? }) h
  exact ⟨_, (engine_launched draw host portNumber c).trans (congrArg Prod.snd hreset)⟩

theorem dial_ok_iff (host : Host) (portNumber : Nat) (c : Client SimBoard slots) :
    (Transport.connect host portNumber c.polled.board).1 = .ok () ↔ c.socket.acceptsConnect = true := by
  simp only [Transport.connect, SimBoard.onSocket, SimSocket.connect]
  split_ifs with haccepts
  · exact ⟨fun _ => haccepts, fun _ => rfl⟩
  · exact ⟨fun h => h.elim, fun h => absurd h haccepts⟩

/-- beside board and lifecycle, a handshake starts from a clean slate -/
theorem launched_clean (draw : Nat → Bytes) (host : Host) (portNumber : Nat) (c : Client SimBoard slots) :
    c.launched draw host portNumber =
      { c with
        board := (c.launched draw host portNumber).board
        lifecycle := { stage := .handshaking }
        backlog := .empty
        stats := {}
        abort := false } := by
  simp only [launched, prepared_eq]
  rfl

theorem keepSession_eq (server : Option String) (c : Client SimBoard slots) :
    keepSession server c = { c with sessions := (keepSession server c).sessions } := by
  cases server <;> rfl

theorem fail_setup (c : Client SimBoard slots) (s : Status) : Setup c.engine (c.fail s).engine := by
  rw [fail_eq]
  exact .drained c.engine _

theorem concludeHandshake_setup (server : Option String) (waited : Except Error Unit) (c : Client SimBoard slots) :
    Setup c.engine (concludeHandshake server (waited, c)).2.engine := by
  cases waited with
  | ok u =>
    rw [concludeHandshake, keepSession_eq]
    exact .refl c.engine
  | error e =>
    simp only [concludeHandshake]
    split_ifs
    · exact fail_setup c .engineConnect
    · exact .refl c.engine

/-- a wait for the engine to take plaintext ends when it does, and has nothing left to hand over -/
theorem Waited.takes {start c : Client SimBoard slots} (h : Waited start { sendApp := true } (.ok ()) c) :
    c.engine.state.sendApp = true ∧ c.pending = 0 := by
  cases h with
  | reached _ _ _ _ hpending hreached =>
    refine ⟨?_, hpending⟩
    simpa [Client.reached, EngineState.intersects, EngineState.isInvalid, EngineState.invalid, flags_eq] using hreached

/-- the flags that end a handshake are those of the application phase, with nothing queued -/
theorem Waited.app {start c : Client SimBoard slots} (h : Waited start { sendApp := true } (.ok ()) c)
    (hforced : c.engine.forced = none) : c.engine.phase = .app ∧ c.engine.outgoing = [] := by
  obtain ⟨hphase, hqueue, -⟩ := (SimEngine.sendApp_iff hforced).1 h.takes.1
  exact ⟨hphase, hqueue⟩

end Client

end TlsClient

/-
No acknowledgement exceeds its window.

`Watched` is a simulated board that writes down every acknowledgement together with the window that was handed out for
it. To forget what was written down is a board map (`Watched.forget`), so a client on a watched board does what it does
on the plain one, and what is written down there are its own acknowledgements.
- `Ack.Legal`: at least one byte, and no more than the window just handed out;
- `Step.legal`, `Connects.legal`: no step and no connect makes another one, whatever state it begins in;
- `Underway.legal`: nor does a request on its way, whether or not it comes back;
- `Connects.violations`: the count that the engine keeps for itself stands still too;
- `acks_within_windows`: both for every request of every client.
Nothing is assumed of the engine or the socket. Flags may be forced, counts may lie, the window may have become shorter
than what is stored in it.
-/
import TlsClient.Proofs.BoardMaps
import TlsClient.Proofs.Underway

namespace TlsClient

/-! ## A board that writes down acknowledgements -/

/-- the windows of an engine -/
inductive Window where
  | sendRec
  | recvRec
  | sendApp
  | recvApp
  deriving DecidableEq, Repr

/-- an acknowledgement -/
structure Ack where
  window : Window
  length : Nat
  /-- the length of the window as it was handed out, if that was the last call of the engine -/
  handed : Option Nat
  deriving DecidableEq, Repr

/-- at least one byte is acknowledged, and at most the window handed out just before -/
def Ack.Legal (a : Ack) : Prop := ∃ room, a.handed = some room ∧ 1 ≤ a.length ∧ a.length ≤ room

/-- a simulated board and what was written down about the calls to its engine -/
structure Watched where
  board : SimBoard
  /-- the window that was handed out last, and its length, if no call of the engine came after -/
  handed : Option (Window × Nat) := none
  /-- all acknowledgements, oldest first -/
  acks : List Ack := []

namespace Watched

/-- socket, time or probe act; the engine is not called -/
def aside {α : Type} (f : SimBoard → α × SimBoard) (w : Watched) : α × Watched :=
  ((f w.board).1, { w with board := (f w.board).2 })

/-- the engine hands out a window for writing -/
def handOut (window : Window) (f : SimBoard → Bytes × SimBoard) (w : Watched) : Bytes × Watched :=
  ((f w.board).1, { w with board := (f w.board).2, handed := some (window, (f w.board).1.length) })

/-- the window with ciphertext goes to the socket; what the engine has handed out is written down before -/
def send (bytes : Bytes) (w : Watched) : Except SocketError Nat × Watched :=
  { w with handed := some (.sendRec, (Engine.sendRecBuf w.board).length) }.aside (Transport.write bytes)

/-- the length of a window, if it was the last one handed out -/
def room (window : Window) (w : Watched) : Option Nat := (w.handed.filter fun last => last.1 = window).map Prod.snd

/-- an acknowledgement is written down; the window is taken back -/
def ack (window : Window) (length : Nat) (handed : Option Nat) (f : SimBoard → SimBoard) (w : Watched) : Watched :=
  { board := f w.board, handed := none, acks := w.acks ++ [⟨window, length, handed⟩] }

/-- any other call of the engine takes the windows back -/
def onEngine (f : SimBoard → SimBoard) (w : Watched) : Watched := { w with board := f w.board, handed := none }

end Watched

/-- A window for reading is what the engine holds, and to look at it leaves no trace. The one with ciphertext is written
down as it goes to the socket, before the socket acts. Unread plaintext is acknowledged at once, in the state in which
it was looked at. -/
instance : Board Watched where
  connect host portNumber := Watched.aside (Transport.connect host portNumber)
  write := Watched.send
  read room := Watched.aside (Transport.read room)
  available := Watched.aside Transport.available
  flush := Watched.aside Transport.flush
  stop w := { w with board := Transport.stop w.board }
  connected := Watched.aside Transport.connected
  state w := Engine.state w.board
  sendRecBuf w := Engine.sendRecBuf w.board
  sendRecAck length w := w.ack .sendRec length (w.room .sendRec) (Engine.sendRecAck length)
  recvRecBuf := Watched.handOut .recvRec Engine.recvRecBuf
  fillRecvRec bytes w := { w with board := Engine.fillRecvRec bytes w.board }
  recvRecAck length w := w.ack .recvRec length (w.room .recvRec) (Engine.recvRecAck length)
  sendAppBuf := Watched.handOut .sendApp Engine.sendAppBuf
  storeSendApp start bytes w := { w with board := Engine.storeSendApp start bytes w.board }
  sendAppAck length w := w.ack .sendApp length (w.room .sendApp) (Engine.sendAppAck length)
  recvAppBuf w := Engine.recvAppBuf w.board
  recvAppAck length w := w.ack .recvApp length (some (Engine.recvAppBuf w.board).length) (Engine.recvAppAck length)
  flushApp force := Watched.onEngine (Engine.flushApp force)
  reset server w :=
    ((Engine.reset server w.board).1, w.onEngine fun b => (Engine.reset server b).2)
  sessionParameters w := Engine.sessionParameters w.board
  offer p := Watched.onEngine (Engine.offer p)
  injectEntropy bytes := Watched.onEngine (Engine.injectEntropy bytes)
  lastError w := Engine.lastError w.board
  now := Watched.aside Timer.now
  delay ms w := { w with board := Timer.delay ms w.board }
  headroom required := Watched.aside (Probe.headroom required)

instance : Separate Watched where
  available_state _ := rfl
  connected_state _ := rfl
  delay_state _ _ := rfl
  now_state _ := rfl

namespace Watched

/-- to forget what was written down -/
def forget : BoardMap Watched SimBoard where
  map := Watched.board
  connect _ _ _ := rfl
  write _ _ := rfl
  read _ _ := rfl
  available _ := rfl
  flush _ := rfl
  stop _ := rfl
  connected _ := rfl
  state _ := rfl
  sendRecBuf _ := rfl
  sendRecAck _ _ := rfl
  recvRecBuf _ := rfl
  fillRecvRec _ _ := rfl
  recvRecAck _ _ := rfl
  sendAppBuf _ := rfl
  storeSendApp _ _ _ := rfl
  sendAppAck _ _ := rfl
  recvAppBuf _ := rfl
  recvAppAck _ _ := rfl
  flushApp _ _ := rfl
  reset _ _ := rfl
  sessionParameters _ := rfl
  offer _ _ := rfl
  injectEntropy _ _ := rfl
  now _ := rfl
  delay _ _ := rfl
  headroom _ _ := rfl

/-- every acknowledgement written down is legal -/
def Legal (w : Watched) : Prop := ∀ a ∈ w.acks, a.Legal

theorem Legal.ack {w : Watched} (hw : w.Legal) {window : Window} {length room : Nat} {handed : Option Nat}
    (f : SimBoard → SimBoard) (hhanded : handed = some room) (hpos : 0 < length) (hroom : length ≤ room) :
    (w.ack window length handed f).Legal := by
  intro a ha
  rcases List.mem_append.1 ha with ha | ha
  · exact hw a ha
  · rw [List.mem_singleton.1 ha]
    exact ⟨room, hhanded, hpos, hroom⟩

theorem Legal.sendRecAck {w : Watched} {length room : Nat} (hw : w.Legal) (hhanded : w.room .sendRec = some room)
    (hpos : 0 < length) (hroom : length ≤ room) : (Engine.sendRecAck length w).Legal :=
  hw.ack (Engine.sendRecAck length) hhanded hpos hroom

theorem Legal.recvRecAck {w : Watched} {length room : Nat} (hw : w.Legal) (hhanded : w.room .recvRec = some room)
    (hpos : 0 < length) (hroom : length ≤ room) : (Engine.recvRecAck length w).Legal :=
  hw.ack (Engine.recvRecAck length) hhanded hpos hroom

theorem Legal.sendAppAck {w : Watched} {length room : Nat} (hw : w.Legal) (hhanded : w.room .sendApp = some room)
    (hpos : 0 < length) (hroom : length ≤ room) : (Engine.sendAppAck length w).Legal :=
  hw.ack (Engine.sendAppAck length) hhanded hpos hroom

theorem Legal.recvAppAck {w : Watched} {length : Nat} (hw : w.Legal) (hpos : 0 < length)
    (hroom : length ≤ (Engine.recvAppBuf w).length) : (Engine.recvAppAck length w).Legal :=
  hw.ack (Engine.recvAppAck length) rfl hpos hroom

end Watched

namespace Client

variable {slots : Nat}

/-- the client on a watched board, nothing written down yet -/
def watch (c : Client SimBoard slots) : Client Watched slots where
  board := { board := c.board }
  config := c.config
  sessions := c.sessions
  lifecycle := c.lifecycle
  backlog := c.backlog
  stats := c.stats
  abort := c.abort

theorem carry_watch (c : Client SimBoard slots) : c.watch.carry Watched.forget = c := rfl

/-! ## Steps -/

section Steps

variable {c : Client Watched slots}

theorem legal_dropUnread (hc : c.board.Legal) (state : EngineState) : (c.dropUnread state).board.Legal := by
  simp only [dropUnread]
  split_ifs with h
  · rw [Bool.and_eq_true, decide_eq_true_eq] at h
    exact hc.recvAppAck h.2 (Nat.le_refl _)
  · exact hc

theorem legal_teardown (hc : c.board.Legal) : c.teardown.board.Legal :=
  legal_dropUnread hc (Engine.state c.board)

theorem legal_fail (hc : c.board.Legal) (s : Status) : (c.fail s).board.Legal := by
  unfold fail
  exact legal_teardown hc

theorem legal_takeUnread (hc : c.board.Legal) (room : Nat) : (c.takeUnread room).2.board.Legal := by
  simp only [takeUnread]
  split_ifs with h
  · exact hc
  · have hsome : 0 < ((Engine.recvAppBuf c.board).take room).length :=
      List.length_pos_iff.2 fun hnil => h (List.isEmpty_iff.2 hnil)
    exact hc.recvAppAck hsome (List.length_take_le' ..)

/-- a socket that claims to have sent more than it was given is found out before the engine is told -/
theorem legal_sendRecord {r : Except Status Unit} {c' : Client Watched slots} (hc : c.board.Legal)
    (h : c.sendRecord = (r, c')) : c'.board.Legal := by
  obtain rfl : c.sendRecord.2 = c' := congrArg Prod.snd h
  simp only [sendRecord]
  split_ifs
  · exact hc
  split
  · exact hc
  split_ifs with hnone hlied
  · exact hc
  · exact hc
  split
  · exact hc
  · exact Watched.Legal.sendRecAck hc rfl (Nat.pos_of_ne_zero hnone) (Nat.le_of_not_lt hlied)

/-- what is stored is compared with the window before it is handed over -/
theorem legal_handOver {r : Except Status Unit} {c' : Client Watched slots} {state : EngineState} (hc : c.board.Legal)
    (hpending : 0 < c.pending) (h : c.handOver state = (r, c')) : c'.board.Legal := by
  obtain rfl : (c.handOver state).2 = c' := congrArg Prod.snd h
  simp only [handOver]
  split_ifs with htake hempty hshort
  · exact hc
  · exact hc
  · exact hc
  · exact Watched.Legal.sendAppAck hc rfl hpending (Nat.le_of_not_lt hshort)

/-- a socket that claims to have read more than there was room for is found out before the engine is told -/
theorem legal_fillWindow (hc : c.board.Legal) (available : Nat) : (c.fillWindow available).2.board.Legal := by
  simp only [fillWindow]
  split_ifs
  · exact hc
  split
  · exact hc
  split_ifs with hnone hlied
  · exact hc
  · exact hc
  · have hroom := Nat.le_trans (Nat.le_of_not_lt hlied) (Nat.min_le_left _ available)
    exact Watched.Legal.recvRecAck hc rfl (Nat.pos_of_ne_zero hnone) hroom

theorem legal_awaitPeer (hc : c.board.Legal) : c.awaitPeer.2.board.Legal := by
  simp only [awaitPeer]
  split_ifs
  · exact hc
  · exact hc

theorem legal_receiveRecord {r : Except Status Received} {c' : Client Watched slots} (hc : c.board.Legal)
    (h : c.receiveRecord = (r, c')) : c'.board.Legal := by
  obtain rfl : c.receiveRecord.2 = c' := congrArg Prod.snd h
  simp only [receiveRecord]
  split
  · exact hc
  split_ifs
  · apply legal_awaitPeer
    exact hc
  split
  · exact hc
  · exact hc
  · apply legal_fillWindow
    exact hc

theorem Fault.legal {s : Status} {c' : Client Watched slots} (h : Fault c s c') (hc : c.board.Legal) :
    c'.board.Legal := by
  cases h with
  | send _ _ _ h => exact legal_sendRecord hc h
  | handOver _ _ _ hpending h => exact legal_handOver hc hpending h
  | receive _ _ _ _ _ h => exact legal_receiveRecord hc h
  | _ => exact hc

/-- **No step makes an illegal acknowledgement.** -/
theorem Step.legal {f : Flow} {c' : Client Watched slots} (h : Step c f c') (hc : c.board.Legal) : c'.board.Legal := by
  cases h with
  | sent _ _ _ h => exact legal_sendRecord hc h
  | handed _ _ _ hpending h => exact legal_handOver hc hpending h
  | received _ _ _ _ _ h => exact legal_receiveRecord hc h
  | failed h => exact legal_fail (h.legal hc) _
  | discard _ _ _ _ _ _ h => exact hc.recvAppAck (List.length_pos_iff.2 h) (Nat.le_refl _)
  | @fill data _ _ hroom hfull =>
    -- the window was handed out when the write looked at it, and is now full
    have hpart : (data.take (c.window.length - c.pending)).length = c.window.length - c.pending :=
      List.length_take_of_le (by omega)
    have hpending : (c.openWindow.storePlaintext c.window.length data).pending = c.window.length := by
      have hsum : (c.openWindow.storePlaintext c.window.length data).pending =
          c.pending + (data.take (c.window.length - c.pending)).length := rfl
      omega
    have hpos : 0 < (c.openWindow.storePlaintext c.window.length data).pending := by omega
    exact Watched.Legal.sendAppAck hc rfl hpos (Nat.le_of_eq hpending)
  | full _ _ h =>
    unfold handStored
    split_ifs with hpending
    · exact Watched.Legal.sendAppAck hc rfl hpending (Nat.le_of_eq h.symm)
    · exact hc
  | take room => exact legal_takeUnread hc room
  | drop state => exact legal_dropUnread hc state
  | down => exact legal_teardown hc
  | _ => exact hc

theorem Steps.legal {f : Flow} {c' : Client Watched slots} (h : Steps c f c') (hc : c.board.Legal) : c'.board.Legal :=
  h.invariant (I := fun _ c' => c'.board.Legal) (fun hlegal hstep => hstep.legal hlegal) hc

end Steps

/-! ## Connects -/

theorem legal_launched {c : Client Watched slots} (hc : c.board.Legal) (draw : Nat → Bytes) (host : Host)
    (portNumber : Nat) : (c.launched draw host portNumber).board.Legal := by
  simp only [launched, started, prepared, offerSession]
  split
  · exact hc
  · exact hc

theorem Connects.legal {draw : Nat → Bytes} {host : Host} {portNumber : Nat} {c c' : Client Watched slots}
    {r : Except Error Unit} (h : Connects draw host portNumber c r c') (hc : c.board.Legal) : c'.board.Legal := by
  cases h with
  | busy => exact hc
  | refused => exact hc
  | unstarted => exact legal_fail (legal_launched hc draw host portNumber) _
  | @waited waited c₁ _ _ _ hs =>
    have hwaited : c₁.board.Legal := hs.legal (legal_launched hc draw host portNumber)
    cases waited with
    | ok u => cases host <;> exact hwaited
    | error e =>
      simp only [concludeHandshake]
      split_ifs
      · exact legal_fail hwaited _
      · exact hwaited

theorem launched_violations (draw : Nat → Bytes) (host : Host) (portNumber : Nat) (c : Client SimBoard slots) :
    (c.launched draw host portNumber).engine.violations = c.engine.violations := by
  cases hcode : c.engine.resetError with
  | none =>
    obtain ⟨_, _, _, _, hengine, -⟩ := launched_engine draw host portNumber hcode
    rw [hengine]
  | some code =>
    obtain ⟨_, hengine⟩ := launched_engine_of_error draw host portNumber hcode
    rw [hengine]

/-- no connect is counted as a violation -/
theorem Connects.violations {draw : Nat → Bytes} {host : Host} {portNumber : Nat} {c c' : Client SimBoard slots}
    {r : Except Error Unit} (h : Connects draw host portNumber c r c') :
    c'.engine.violations = c.engine.violations := by
  have hlaunched := launched_violations draw host portNumber c
  cases h with
  | busy => rfl
  | refused => rfl
  | unstarted => exact (fail_setup _ _).violations.trans hlaunched
  | @waited waited c₁ _ _ _ hs =>
    exact (hs.setup.trans (concludeHandshake_setup host.name? waited c₁)).violations.trans hlaunched

/-! ## Every request -/

theorem perform_legal {budget : Nat} {c c' : Client Watched slots} {request : Request} {reply : Reply}
    (h : c.perform budget request = some (reply, c')) (hc : c.board.Legal) : c'.board.Legal := by
  rcases perform_cases h with ⟨host, portNumber, draw, r, rfl, rfl, hconnects⟩ | ⟨-, flow, hs, -⟩
  · exact hconnects.legal hc
  · exact hs.legal hc

theorem perform_violations {budget : Nat} {c c' : Client SimBoard slots} {request : Request} {reply : Reply}
    (h : c.perform budget request = some (reply, c')) : c'.engine.violations = c.engine.violations := by
  rcases perform_cases h with ⟨host, portNumber, draw, r, rfl, rfl, hconnects⟩ | ⟨-, flow, hs, -⟩
  · exact hconnects.violations
  · exact hs.setup.violations

/-! ## On the way -/

theorem Underway.legal {budget : Nat} {c c' : Client Watched slots} {request : Request}
    (h : c.Underway budget request c') (hc : c.board.Legal) : c'.board.Legal := by
  obtain ⟨flow, hs⟩ := h.steps
  cases request with
  | connect host portNumber draw => exact hs.legal (legal_launched hc draw host portNumber)
  | _ => exact hs.legal hc

theorem Underway.violations {budget : Nat} {c c' : Client SimBoard slots} {request : Request}
    (h : c.Underway budget request c') : c'.engine.violations = c.engine.violations := by
  obtain ⟨flow, hs⟩ := h.steps
  cases request with
  | connect host portNumber draw => exact hs.setup.violations.trans (launched_violations draw host portNumber c)
  | _ => exact hs.setup.violations

/-- **Every acknowledgement of every request is legal.** Whatever state a client is in, whatever its engine and its
socket do: a request does on a watched board what it does on the plain one, each acknowledgement written down is for at
least one byte and at most the window handed out just before, and the engine has counted no violation. A request that
does not come back is held up in its loops: wherever these pass, both are true of all that was acknowledged so far. -/
theorem acks_within_windows (budget : Nat) (c : Client SimBoard slots) (request : Request) :
    (∀ reply c', c.perform budget request = some (reply, c') →
      ∃ w : Client Watched slots, c.watch.perform budget request = some (reply, w) ∧ w.carry Watched.forget = c' ∧
        (∀ a ∈ w.board.acks, a.Legal) ∧ c'.engine.violations = c.engine.violations) ∧
      ∀ w : Client Watched slots, c.watch.Underway budget request w →
        c.Underway budget request (w.carry Watched.forget) ∧ (∀ a ∈ w.board.acks, a.Legal) ∧
          (w.carry Watched.forget).engine.violations = c.engine.violations := by
  have hnone : c.watch.board.Legal := fun a ha => nomatch ha
  have hforget : Alike Watched.forget.likeness c.watch c := (alike_iff _).2 (carry_watch c).symm
  refine ⟨fun reply c' h => ?_, fun w hunderway => ?_⟩
  · have hboth := perform_carry Watched.forget c.watch budget request
    rw [carry_watch, h] at hboth
    obtain ⟨⟨reply', w⟩, hw, heq⟩ := Option.map_eq_some_iff.1 hboth.symm
    cases heq
    exact ⟨w, hw, rfl, perform_legal hw hnone, perform_violations h⟩
  · obtain ⟨d, hplain, hlike⟩ := hforget.underway hunderway
    obtain rfl := (alike_iff _).1 hlike
    exact ⟨hplain, hunderway.legal hnone, hplain.violations⟩

/-- a client with three bytes stored, two unread, and a record on its way -/
def laden : Client SimBoard 1 where
  board :=
    { socket := { isConnected := true, incoming := [8] }
      engine := { phase := .app, capacity := 4, plainWindow := [1, 2, 3, 0], unread := [5, 6] } }
  config := { timeoutMs := 5 }
  lifecycle := ⟨.connected, true, .ok⟩
  backlog := ⟨3⟩

/-- three bytes stored, a peer that stays silent, and a clock that stands still -/
def stalled : Client SimBoard 1 where
  board :=
    { socket := { isConnected := true }
      engine := { phase := .app, capacity := 4, plainWindow := [1, 2, 3, 0] }
      time := { tick := 0 } }
  config := { pollDelayMs := 0 }
  lifecycle := ⟨.connected, true, .ok⟩
  backlog := ⟨3⟩

/-- a shutdown that acknowledges in all four windows, and a flush that is still under way after 50 turns, with two
acknowledgements behind it -/
theorem acks_within_windows_stop :
    (∃ reply c' w,
      laden.perform 50 .stop = some (reply, c') ∧ laden.watch.perform 50 .stop = some (reply, w) ∧
        w.carry Watched.forget = c' ∧
        w.board.acks =
          [⟨.recvApp, 2, some 2⟩, ⟨.sendApp, 3, some 4⟩, ⟨.sendRec, 3, some 3⟩, ⟨.recvRec, 1, some 4⟩,
            ⟨.recvApp, 1, some 1⟩] ∧
        (∀ a ∈ w.board.acks, a.Legal) ∧ c'.engine.violations = laden.engine.violations) ∧
      (stalled.perform 50 .flush).isNone = true ∧
        ∃ w, stalled.watch.Underway 50 .flush w ∧
          w.board.acks = [⟨.sendApp, 3, some 4⟩, ⟨.sendRec, 3, some 3⟩] ∧ (∀ a ∈ w.board.acks, a.Legal) ∧
            (w.carry Watched.forget).engine.violations = stalled.engine.violations := by
  have hends : (laden.perform 50 .stop).map (fun _ => ()) = some () := by decide +kernel
  have hacks : (laden.watch.perform 50 .stop).map (fun r => r.2.board.acks) =
      some [⟨.recvApp, 2, some 2⟩, ⟨.sendApp, 3, some 4⟩, ⟨.sendRec, 3, some 3⟩, ⟨.recvRec, 1, some 4⟩,
        ⟨.recvApp, 1, some 1⟩] := by decide +kernel
  have hstuck : (stalled.perform 50 .flush).isNone = true := by decide +kernel
  constructor
  · obtain ⟨⟨reply, c'⟩, hrun, -⟩ := Option.map_eq_some_iff.1 hends
    obtain ⟨w, hw, hforget, hlegal, hviolations⟩ := (acks_within_windows 50 laden .stop).1 reply c' hrun
    rw [hw] at hacks
    exact ⟨reply, c', w, hrun, hw, hforget, Option.some.inj hacks, hlegal, hviolations⟩
  · -- the pump hands over and sends, and finds nothing to receive
    have hpump : stalled.watch.Waiting 50 { recvApp := true } _ := ⟨_, .here, .on rfl (.on rfl .here)⟩
    have hunderway := Underway.flush (by decide) (.runUntil rfl hpump)
    obtain ⟨-, hlegal, hviolations⟩ := (acks_within_windows 50 stalled .flush).2 _ hunderway
    exact ⟨hstuck, _, hunderway, rfl, hlegal, hviolations⟩

end Client

end TlsClient

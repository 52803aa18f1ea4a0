/-
What a client can do while no connect is running, one step at a time.

The loops of the client are opened here once, for every board. Whatever holds along every `Step` then holds along every
request, whatever the budget.
- `Flow`: the plaintext a piece of work moves, into the window of the engine and out of the engine;
- `Fault`: a piece of work that fails; `fail` comes next;
- `Step`: one piece of work between two looks at the engine, with all that was checked before it;
- `Steps`: any number of them, with the plaintext they move in order;
- `pump_spec`, `drive_spec`: what the two loops are made of, and what they end with;
- `drive_first`: how a wait begins.

Two readings of the flags of an engine agree as long as only the socket, the timer or the memory probe were asked in
between. That is the one thing a board has to promise (`Separate`).
-/
import TlsClient.Client.Request

namespace TlsClient

theorem Status.isOk_iff (s : Status) : s.isOk = true ↔ s = .ok := by simp [Status.isOk]

/-- a board whose socket and timer leave the flags of the engine alone -/
class Separate (β : Type) [Board β] : Prop where
  available_state (b : β) : Engine.state (Transport.available b).2 = Engine.state b
  connected_state (b : β) : Engine.state (Transport.connected b).2 = Engine.state b
  delay_state (ms : Nat) (b : β) : Engine.state (Timer.delay ms b) = Engine.state b
  now_state (b : β) : Engine.state (Timer.now b).2 = Engine.state b

/-- a turn that goes on does so from a state with one property, a turn that ends has a result with another -/
inductive Turn.All {σ α : Type} (again : σ → Prop) (done : α → Prop) : Turn σ α → Prop
  | again {s} (h : again s) : All again done (.again s)
  | done {a} (h : done a) : All again done (.done a)

theorem Turn.All.imp {σ α : Type} {I J : σ → Prop} {P Q : α → Prop} {t : Turn σ α} (h : t.All I P)
    (hagain : ∀ s, I s → J s) (hdone : ∀ a, P a → Q a) : t.All J Q := by
  cases h with
  | again h => exact .again (hagain _ h)
  | done h => exact .done (hdone _ h)

/-- what every turn keeps holds at the end -/
theorem repeatTurn_all {σ α : Type} {turn : σ → Option (Turn σ α)} {I : σ → Prop} {Q : α → Prop}
    (hturn : ∀ s t, I s → turn s = some t → t.All I Q) {budget : Nat} {s : σ} {a : α} (hs : I s)
    (h : repeatTurn turn budget s = some a) : Q a := by
  apply repeatTurn_invariant (I := I) _ _ hs h
  · intro s s' hI ht
    cases hturn s _ hI ht with | again h => exact h
  · intro s a hI ht
    cases hturn s _ hI ht with | done h => exact h

/-! ## Plaintext in motion -/

/-- plaintext moved between the caller and the engine, and whether a shutdown began -/
@[ext] structure Flow where
  /-- stored in the window of the engine -/
  stored : Bytes := []
  /-- taken from the engine for the caller -/
  taken : Bytes := []
  /-- the shutdown began -/
  closes : Bool := false
  deriving DecidableEq, Repr

namespace Flow

/-- one flow after another -/
def append (f g : Flow) : Flow := ⟨f.stored ++ g.stored, f.taken ++ g.taken, f.closes || g.closes⟩

instance : Append Flow := ⟨append⟩

@[simp] theorem stored_append (f g : Flow) : (f ++ g).stored = f.stored ++ g.stored := rfl

@[simp] theorem taken_append (f g : Flow) : (f ++ g).taken = f.taken ++ g.taken := rfl

@[simp] theorem closes_append (f g : Flow) : (f ++ g).closes = (f.closes || g.closes) := rfl

@[simp] theorem append_empty (f : Flow) : f ++ ({} : Flow) = f := by ext1 <;> simp

@[simp] theorem empty_append (f : Flow) : ({} : Flow) ++ f = f := by ext1 <;> simp

theorem append_assoc (f g h : Flow) : f ++ g ++ h = f ++ (g ++ h) := by ext1 <;> simp [Bool.or_assoc]

end Flow

namespace Client

theorem status_of_lifecycle {β : Type} {slots : Nat} {c c' : Client β slots} (h : c'.lifecycle = c.lifecycle) :
    c'.status = c.status := congrArg Lifecycle.status h

variable {β : Type} [Board β] {slots : Nat}

/-- the flags of the engine right now -/
abbrev flags (c : Client β slots) : EngineState := Engine.state c.board

/-- the plaintext window the engine would hand out -/
abbrev window (c : Client β slots) : Bytes := (Engine.sendAppBuf c.board).1

/-- the plaintext window was handed out -/
abbrev openWindow (c : Client β slots) : Client β slots := { c with board := (Engine.sendAppBuf c.board).2 }

/-- the socket was asked whether it is open -/
abbrev polled (c : Client β slots) : Client β slots := { c with board := (Transport.connected c.board).2 }

/-- the clock was read -/
abbrev clocked (c : Client β slots) : Client β slots := { c with board := (Timer.now c.board).2 }

/-- unread plaintext of that many bytes was dropped for the sake of a write -/
def discarded (c : Client β slots) (count : Nat) : Client β slots :=
  { c with board := Engine.recvAppAck count c.board, backlog := .empty, stats := c.stats.discarded count }

/-- the engine was flushed -/
def flushed (c : Client β slots) : Client β slots := { c with board := Engine.flushApp false c.board }

/-! ## Steps -/

/-- a piece of work that fails with a status, and the client it leaves; `fail` comes next -/
inductive Fault (c : Client β slots) : Status → Client β slots → Prop
  /-- a record could not be sent -/
  | send {s c'} (hok : c.status = .ok) (hopen : c.flags.closed = false) (hsend : c.flags.sendRec = true)
      (h : c.sendRecord = (.error s, c')) : Fault c s c'
  /-- stored plaintext could not be handed over -/
  | handOver {s c'} (hok : c.status = .ok) (hopen : c.flags.closed = false) (hsend : c.flags.sendRec = false)
      (hpending : 0 < c.pending) (h : c.handOver c.flags = (.error s, c')) : Fault c s c'
  /-- a record could not be received -/
  | receive {s c'} (hok : c.status = .ok) (hopen : c.flags.closed = false) (hsend : c.flags.sendRec = false)
      (hpending : c.pending = 0) (hrecv : c.flags.recvRec = true) (h : c.receiveRecord = (.error s, c')) : Fault c s c'
  /-- a wait has taken too long -/
  | deadline (hok : c.status = .ok) (hopen : c.flags.closed = false) (hsend : c.flags.sendRec = false)
      (hpending : c.pending = 0) : Fault c .engineWrite c
  /-- the engine reports unread plaintext and has none -/
  | unreadMissing (hok : c.status = .ok) (hopen : c.flags.closed = false) (hsend : c.flags.sendRec = false)
      (hpending : c.pending = 0) (hrecv : c.flags.recvApp = true) (h : Engine.recvAppBuf c.board = []) :
      Fault c .engineWrite c
  /-- the window no longer holds what is stored in it -/
  | shortWindow (hok : c.status = .ok) (hup : c.lifecycle.engineConnected = true)
      (h : c.window.length < c.pending) : Fault c .internal c.openWindow
  /-- the engine takes plaintext but has no window for it -/
  | noWindow (hok : c.status = .ok) (hup : c.lifecycle.engineConnected = true) (hsend : c.flags.sendApp = true)
      (hpending : c.pending = 0) (h : c.window.length = 0) : Fault c .engineWrite c.openWindow
  /-- the socket vanished under an open session -/
  | peerGone (hup : c.lifecycle.engineConnected = true) (hopen : c.flags.closed = false)
      (h : (Transport.connected c.board).1 = false) : Fault c .transportWrite c.polled

/-- one piece of work, with all that was checked before it -/
inductive Step (c : Client β slots) : Flow → Client β slots → Prop
  /-- queued ciphertext was sent -/
  | sent {c'} (hok : c.status = .ok) (hopen : c.flags.closed = false) (hsend : c.flags.sendRec = true)
      (h : c.sendRecord = (.ok (), c')) : Step c {} c'
  /-- stored plaintext was handed over by the pump -/
  | handed {c'} (hok : c.status = .ok) (hopen : c.flags.closed = false) (hsend : c.flags.sendRec = false)
      (hpending : 0 < c.pending) (h : c.handOver c.flags = (.ok (), c')) : Step c {} c'
  /-- the socket was polled, and what it had went to the engine -/
  | received {got c'} (hok : c.status = .ok) (hopen : c.flags.closed = false) (hsend : c.flags.sendRec = false)
      (hpending : c.pending = 0) (hrecv : c.flags.recvRec = true) (h : c.receiveRecord = (.ok got, c')) : Step c {} c'
  /-- something failed -/
  | failed {s c'} (h : Fault c s c') : Step c {} (c'.fail s)
  /-- the clock was read -/
  | clock : Step c {} c.clocked
  /-- unread plaintext was dropped for the sake of a write -/
  | discard (hok : c.status = .ok) (hopen : c.flags.closed = false) (hsend : c.flags.sendRec = false)
      (hpending : c.pending = 0) (hrecv : c.flags.recvApp = true) (htake : c.flags.sendApp = false)
      (h : Engine.recvAppBuf c.board ≠ []) : Step c {} (c.discarded (Engine.recvAppBuf c.board).length)
  /-- the engine was flushed for the sake of a read -/
  | nudge (hok : c.status = .ok) (hopen : c.flags.closed = false) (hsend : c.flags.sendRec = false)
      (hpending : c.pending = 0) (htake : c.flags.sendApp = true) (hrecv : c.flags.recvApp = false) :
      Step c {} { c.flushed with stats := c.stats.flushed }
  /-- an idle engine was flushed -/
  | idle (hok : c.status = .ok) (hopen : c.flags.closed = false) (hsend : c.flags.sendRec = false)
      (hpending : c.pending = 0) (htake : c.flags.sendApp = true) (hrecv : c.flags.recvApp = false) : Step c {} c.flushed
  /-- plaintext was stored, and the window still has room -/
  | store {data} (hok : c.status = .ok) (hup : c.lifecycle.engineConnected = true)
      (hroom : c.pending + data.length < c.window.length) :
      Step c { stored := data } (c.openWindow.storePlaintext c.window.length data)
  /-- plaintext was stored up to the end of the window, and the window handed over -/
  | fill {data} (hok : c.status = .ok) (hup : c.lifecycle.engineConnected = true)
      (hroom : c.pending < c.window.length) (hfull : c.window.length ≤ c.pending + data.length) :
      Step c { stored := data.take (c.window.length - c.pending) }
        (c.openWindow.storePlaintext c.window.length data).handPending
  /-- the window was full, and was handed over -/
  | full (hok : c.status = .ok) (hup : c.lifecycle.engineConnected = true) (h : c.window.length = c.pending) :
      Step c {} c.openWindow.handStored
  /-- unread plaintext went to the caller -/
  | take (room : Nat) : Step c { taken := (c.takeUnread room).1 } (c.takeUnread room).2
  /-- the socket was asked whether it is open -/
  | poll : Step c {} c.polled
  /-- the shutdown starts -/
  | closing (hup : c.lifecycle.engineConnected = true) :
      Step c { closes := true } { c with lifecycle := c.lifecycle.closing }
  /-- unread plaintext was dropped in a shutdown -/
  | drop (state : EngineState) (h : c.lifecycle.stage = .closing) : Step c {} (c.dropUnread state)
  /-- the connection was torn down -/
  | down : Step c {} c.teardown

/-- any number of steps, and the plaintext they move -/
inductive Steps (c : Client β slots) : Flow → Client β slots → Prop
  | refl : Steps c {} c
  | snoc {f g c' c''} (hs : Steps c f c') (h : Step c' g c'') : Steps c (f ++ g) c''

theorem Step.steps {c c' : Client β slots} {f : Flow} (h : Step c f c') : Steps c f c' := by
  simpa using Steps.snoc .refl h

theorem Steps.trans {c c' c'' : Client β slots} {f g : Flow} (h₁ : Steps c f c') (h₂ : Steps c' g c'') :
    Steps c (f ++ g) c'' := by
  induction h₂ with
  | refl => simpa using h₁
  | snoc _ h ih => rw [← Flow.append_assoc]; exact ih.snoc h

/-- a step that moves no plaintext -/
theorem Steps.quiet {c c' c'' : Client β slots} {f : Flow} (hs : Steps c f c') (h : Step c' {} c'') :
    Steps c f c'' := by
  simpa using hs.snoc h

/-- what every step keeps holds at the end -/
theorem Steps.invariant {I : Flow → Client β slots → Prop} {c c' : Client β slots} {f : Flow}
    (hstep : ∀ {f g c c'}, I f c → Step c g c' → I (f ++ g) c') (h₀ : I {} c) (h : Steps c f c') : I f c' := by
  induction h with
  | refl => exact h₀
  | snoc _ h ih => exact hstep ih h

/-! ## The pump -/

@[simp] theorem status_teardown (c : Client β slots) : c.teardown.status = c.status := by
  simp only [teardown, dropUnread]; split <;> rfl

theorem status_fail {c : Client β slots} (hok : c.status = .ok) (s : Status) : (c.fail s).status = s := by
  have hisOk : c.lifecycle.status.isOk = true := (Status.isOk_iff _).2 hok
  simp only [fail, status_teardown]
  simp [status, Lifecycle.fail, hisOk]

theorem sendRecord_lifecycle (c : Client β slots) : c.sendRecord.2.lifecycle = c.lifecycle := by
  simp only [sendRecord]
  repeat' split
  all_goals rfl

theorem handOver_lifecycle (c : Client β slots) (state : EngineState) :
    (c.handOver state).2.lifecycle = c.lifecycle := by
  simp only [handOver]
  repeat' split
  all_goals rfl

theorem fillWindow_lifecycle (c : Client β slots) (available : Nat) :
    (c.fillWindow available).2.lifecycle = c.lifecycle := by
  simp only [fillWindow]
  repeat' split
  all_goals rfl

theorem receiveRecord_lifecycle (c : Client β slots) : c.receiveRecord.2.lifecycle = c.lifecycle := by
  simp only [receiveRecord, awaitPeer]
  split
  · rfl
  split
  · split <;> rfl
  split
  · rfl
  · rfl
  · rw [fillWindow_lifecycle]

theorem sendRecord_error {c c' : Client β slots} {s : Status} (h : c.sendRecord = (.error s, c')) : s ≠ .ok := by
  rintro rfl
  simp only [sendRecord] at h
  repeat' split at h
  all_goals simp at h

theorem handOver_error {c c' : Client β slots} {state : EngineState} {s : Status}
    (h : c.handOver state = (.error s, c')) : s ≠ .ok := by
  rintro rfl
  simp only [handOver] at h
  repeat' split at h
  all_goals simp at h

theorem receiveRecord_error {c c' : Client β slots} {s : Status} (h : c.receiveRecord = (.error s, c')) :
    s ≠ .ok := by
  rintro rfl
  simp only [receiveRecord, awaitPeer, fillWindow] at h
  repeat' split at h
  all_goals simp at h

theorem receiveRecord_flags [Separate β] {c c' : Client β slots} (h : c.receiveRecord = (.ok .nothing, c')) :
    c'.flags = c.flags := by
  simp only [receiveRecord, awaitPeer, fillWindow] at h
  repeat' split at h
  all_goals simp at h
  subst h
  simp only [flags, Separate.delay_state, Separate.connected_state, Separate.available_state]

theorem receiveRecord_pending {c c' : Client β slots} (h : c.receiveRecord = (.ok .nothing, c')) :
    c'.pending = c.pending := by
  simp only [receiveRecord, awaitPeer, fillWindow] at h
  repeat' split at h
  all_goals simp at h
  subst h
  rfl

/-- how a run of the pump ends that answers `state` -/
inductive PumpEnd (c : Client β slots) (state : EngineState) (c' : Client β slots) : Prop
  /-- a step failed -/
  | failed (hstate : state = .invalid) (hstatus : c'.status ≠ .ok)
  /-- the engine is closed -/
  | closed (hstate : state = c'.flags) (hlife : c'.lifecycle = c.lifecycle) (hclosed : c'.flags.closed = true)
  /-- nothing is left to do without the peer -/
  | rested (hstate : state = c'.flags) (hlife : c'.lifecycle = c.lifecycle) (hopen : c'.flags.closed = false)
      (hsend : c'.flags.sendRec = false) (hpending : c'.pending = 0)

theorem PumpEnd.of_lifecycle {c₀ c c' : Client β slots} {state : EngineState} (h : PumpEnd c state c')
    (hlife : c.lifecycle = c₀.lifecycle) : PumpEnd c₀ state c' := by
  cases h with
  | failed hstate hstatus => exact .failed hstate hstatus
  | closed hstate hlife' hclosed => exact .closed hstate (hlife'.trans hlife) hclosed
  | rested hstate hlife' hopen hsend hpending => exact .rested hstate (hlife'.trans hlife) hopen hsend hpending

/-- the end of a run of the pump whose last step failed -/
theorem PumpEnd.of_fail {c c' : Client β slots} {s : Status} (hok : c.status = .ok) (hlife : c'.lifecycle = c.lifecycle)
    (hs : s ≠ .ok) : PumpEnd c .invalid (c'.fail s) :=
  .failed rfl (by rw [status_fail ((status_of_lifecycle hlife).trans hok)]; exact hs)

/-- a turn after which the pump goes on is one step, and so is a turn that ends it -/
theorem pumpTurn_spec [Separate β] (c : Client β slots) (hok : c.status = .ok) :
    c.pumpTurn.All (fun c' => Step c {} c' ∧ c'.lifecycle = c.lifecycle)
      (fun r => Steps c {} r.2 ∧ PumpEnd c r.1 r.2) := by
  simp only [pumpTurn, afterStep]
  -- the cases are those of the code, in its order
  by_cases hclosed : c.flags.closed = true
  · rw [if_pos hclosed]
    exact .done ⟨.refl, .closed rfl rfl hclosed⟩
  have hopen : c.flags.closed = false := by simpa using hclosed
  rw [if_neg hclosed]
  by_cases hsend : c.flags.sendRec = true
  · rw [if_pos hsend]
    have hlife := sendRecord_lifecycle c
    rcases hr : c.sendRecord with ⟨s | ⟨⟩, c'⟩ <;> rw [hr] at hlife
    · exact .done ⟨(Step.failed (.send hok hopen hsend hr)).steps, .of_fail hok hlife (sendRecord_error hr)⟩
    · exact .again ⟨.sent hok hopen hsend hr, hlife⟩
  rw [if_neg hsend]
  rw [Bool.not_eq_true] at hsend
  by_cases hpending : 0 < c.backlog.pending
  · rw [if_pos hpending]
    have hlife := handOver_lifecycle c c.flags
    rcases hr : c.handOver c.flags with ⟨s | ⟨⟩, c'⟩ <;> rw [hr] at hlife
    · exact .done ⟨(Step.failed (.handOver hok hopen hsend hpending hr)).steps, .of_fail hok hlife (handOver_error hr)⟩
    · exact .again ⟨.handed hok hopen hsend hpending hr, hlife⟩
  rw [if_neg hpending]
  have hpending : c.pending = 0 := Nat.eq_zero_of_not_pos hpending
  by_cases hrecv : c.flags.recvRec = true
  · rw [if_pos hrecv]
    have hlife := receiveRecord_lifecycle c
    rcases hr : c.receiveRecord with ⟨s | got, c'⟩ <;> rw [hr] at hlife
    · exact .done ⟨(Step.failed (.receive hok hopen hsend hpending hrecv hr)).steps,
        .of_fail hok hlife (receiveRecord_error hr)⟩
    have hstep : Step c {} c' := .received hok hopen hsend hpending hrecv hr
    cases got with
    | record => exact .again ⟨hstep, hlife⟩
    | nothing =>
      have hflags := receiveRecord_flags hr
      have hidle := receiveRecord_pending hr
      exact .done ⟨hstep.steps, .rested hflags.symm hlife (hflags ▸ hopen) (hflags ▸ hsend) (hidle.trans hpending)⟩
  · rw [if_neg hrecv]
    exact .done ⟨.refl, .rested rfl rfl hopen hsend hpending⟩

/-- what a run of the pump is made of, and how it ends -/
theorem pump_spec [Separate β] {budget : Nat} {c c' : Client β slots} {state : EngineState} (hok : c.status = .ok)
    (h : c.pump budget = some (state, c')) : Steps c {} c' ∧ PumpEnd c state c' := by
  refine repeatTurn_all (I := fun c' => Steps c {} c' ∧ c'.lifecycle = c.lifecycle)
    (Q := fun r => Steps c {} r.2 ∧ PumpEnd c r.1 r.2) ?_ ⟨.refl, rfl⟩ h
  rintro c₁ t ⟨hs, hlife⟩ ht
  have hturn := pumpTurn_spec c₁ ((status_of_lifecycle hlife).trans hok)
  rw [Option.some.inj ht] at hturn
  refine hturn.imp ?_ ?_
  · rintro c₂ ⟨hstep, hlife₂⟩
    exact ⟨hs.quiet hstep, hlife₂.trans hlife⟩
  · rintro r ⟨hs₂, hend⟩
    exact ⟨hs.trans hs₂, hend.of_lifecycle hlife⟩

/-! ## Waiting -/

/-- how a wait for `target` that began with `c` ends -/
inductive Waited (c : Client β slots) (target : EngineState) : Except Error Unit → Client β slots → Prop
  /-- the engine shows the target, and nothing is stored or queued -/
  | reached {c'} (hlife : c'.lifecycle = c.lifecycle) (habort : c'.abort = false) (hopen : c'.flags.closed = false)
      (hsend : c'.flags.sendRec = false) (hpending : c'.pending = 0) (h : reached target c'.flags = true) :
      Waited c target (.ok ()) c'
  /-- the engine is closed -/
  | closed {c'} (hlife : c'.lifecycle = c.lifecycle) (habort : c'.abort = false) (h : c'.flags.closed = true) :
      Waited c target (.error .engineClosed) c'
  /-- memory is corrupted -/
  | aborted {c'} (h : c'.abort = true) : Waited c target (.error .abort) c'
  /-- a failure is on record -/
  | failed {e c'} (hstatus : c'.status ≠ .ok) (he : e = .status c'.status ∨ e = .timeout) : Waited c target (.error e) c'

theorem Waited.of_lifecycle {c₀ c c' : Client β slots} {target : EngineState} {r : Except Error Unit}
    (h : Waited c target r c') (hlife : c.lifecycle = c₀.lifecycle) : Waited c₀ target r c' := by
  cases h with
  | reached hlife' habort hopen hsend hpending h => exact .reached (hlife'.trans hlife) habort hopen hsend hpending h
  | closed hlife' habort h => exact .closed (hlife'.trans hlife) habort h
  | aborted h => exact .aborted h
  | failed hstatus he => exact .failed hstatus he

theorem PumpEnd.flags_eq {c c' : Client β slots} {state : EngineState} (h : PumpEnd c state c')
    (hok : c'.status = .ok) : state = c'.flags ∧ c'.lifecycle = c.lifecycle ∧
      (c'.flags.closed = false → c'.flags.sendRec = false ∧ c'.pending = 0) := by
  cases h with
  | failed _ hstatus => exact absurd hok hstatus
  | closed hstate hlife hclosed => exact ⟨hstate, hlife, fun h => absurd hclosed (by simp [h])⟩
  | rested hstate hlife _ hsend hpending => exact ⟨hstate, hlife, fun _ => ⟨hsend, hpending⟩⟩

/-- the two ways out of a deadlock are steps, and so is to go on without -/
theorem resolve_spec {target : EngineState} {c : Client β slots} (hok : c.status = .ok)
    (hopen : c.flags.closed = false) (hsend : c.flags.sendRec = false) (hpending : c.pending = 0)
    (hreached : reached target c.flags = false) :
    (c.resolve target c.flags).All (fun c' => Steps c {} c' ∧ c'.lifecycle = c.lifecycle)
      (fun r => Steps c {} r.2 ∧ Waited c target r.1 r.2) := by
  have hapart : c.flags.intersects target = false := by
    simp only [Client.reached, Bool.or_eq_false_iff] at hreached
    exact hreached.1
  simp only [EngineState.intersects, Bool.or_eq_false_iff, Bool.and_eq_false_iff] at hapart
  unfold resolve
  by_cases hdiscard : (c.flags.recvApp && target.sendApp) = true
  · rw [if_pos hdiscard]
    rw [Bool.and_eq_true] at hdiscard
    have htake : c.flags.sendApp = false := by simpa [hdiscard.2] using hapart.1.2
    simp only [discardUnread]
    by_cases hunread : (Engine.recvAppBuf c.board).length = 0
    · rw [if_pos hunread]
      have hfault : Fault c .engineWrite c :=
        .unreadMissing hok hopen hsend hpending hdiscard.1 (List.length_eq_zero_iff.1 hunread)
      have hstatus : (c.fail .engineWrite).status = .engineWrite := status_fail hok _
      exact .done ⟨(Step.failed hfault).steps,
        .failed (by simp [hstatus]) (.inl (by simp [hstatus]))⟩
    · rw [if_neg hunread]
      have hne : Engine.recvAppBuf c.board ≠ [] := fun h => hunread (List.length_eq_zero_iff.2 h)
      exact .again ⟨(Step.discard hok hopen hsend hpending hdiscard.1 htake hne).steps, rfl⟩
  rw [if_neg hdiscard]
  by_cases hnudge : (c.flags.sendApp && target.recvApp) = true
  · rw [if_pos hnudge]
    rw [Bool.and_eq_true] at hnudge
    have hrecv : c.flags.recvApp = false := by simpa [hnudge.2] using hapart.2
    exact .again ⟨(Step.nudge hok hopen hsend hpending hnudge.1 hrecv).steps, rfl⟩
  · rw [if_neg hnudge]
    exact .again ⟨.refl, rfl⟩

/-- what follows a run of the pump in a wait -/
theorem judge_spec [Separate β] {target state : EngineState} {start : Nat} {c₀ c : Client β slots}
    (hend : PumpEnd c₀ state c) :
    (c.judge target start state).All (fun c' => Steps c {} c' ∧ c'.lifecycle = c₀.lifecycle)
      (fun r => Steps c {} r.2 ∧ Waited c₀ target r.1 r.2) := by
  simp only [judge]
  by_cases habort : c.abort = true
  · rw [if_pos habort]
    exact .done ⟨.refl, .aborted habort⟩
  rw [if_neg habort]
  rw [Bool.not_eq_true] at habort
  by_cases hclosed : state.closed = true
  · rw [if_pos hclosed]
    cases hend with
    | failed hstate _ => simp [hstate, EngineState.invalid] at hclosed
    | closed hstate hlife hclosed => exact .done ⟨.refl, .closed hlife habort hclosed⟩
    | rested hstate _ hopen => simp [hstate, hopen] at hclosed
  rw [if_neg hclosed]
  by_cases hisOk : (!c.lifecycle.status.isOk) = true
  · rw [if_pos hisOk]
    have hstatus : c.lifecycle.status ≠ .ok := by simpa [Status.isOk] using hisOk
    exact .done ⟨.refl, .failed hstatus (.inl rfl)⟩
  rw [if_neg hisOk]
  have hok : c.lifecycle.status = .ok := by simpa [Status.isOk] using hisOk
  obtain ⟨rfl, hlife, hrest⟩ := hend.flags_eq hok
  rw [Bool.not_eq_true] at hclosed
  obtain ⟨hsend, hpending⟩ := hrest hclosed
  -- from here on the clock has been read
  have hflags : c.clocked.flags = c.flags := Separate.now_state c.board
  have hclock : Steps c {} c.clocked := Step.clock.steps
  rw [← hflags] at hclosed hsend
  by_cases hlate : c.config.timeoutMs < (Timer.now c.board).1 - start
  · rw [if_pos hlate]
    have hstatus : (c.clocked.fail .engineWrite).status ≠ .ok := by rw [status_fail (c := c.clocked) hok]; decide
    exact .done ⟨hclock.quiet (.failed (.deadline hok hclosed hsend hpending)),
      .failed hstatus (.inr rfl)⟩
  rw [if_neg hlate]
  by_cases hreached : reached target c.flags = true
  · rw [if_pos hreached]
    exact .done ⟨hclock, .reached hlife habort hclosed hsend hpending (hflags ▸ hreached)⟩
  rw [if_neg hreached, ← hflags]
  rw [Bool.not_eq_true, ← hflags] at hreached
  refine (resolve_spec (c := c.clocked) hok hclosed hsend hpending hreached).imp ?_ ?_
  · rintro c' ⟨hs, hlife'⟩
    exact ⟨hclock.trans hs, hlife'.trans hlife⟩
  · rintro r ⟨hs, hend'⟩
    exact ⟨hclock.trans hs, hend'.of_lifecycle hlife⟩

/-- one turn of a wait: it goes on, or ends the wait -/
theorem driveTurn_spec [Separate β] {budget start : Nat} {target : EngineState} {c : Client β slots}
    {t : Turn (Client β slots) (Except Error Unit × Client β slots)} (hok : c.status = .ok)
    (h : driveTurn budget target start c = some t) :
    t.All (fun c' => Steps c {} c' ∧ c'.lifecycle = c.lifecycle) (fun r => Steps c {} r.2 ∧ Waited c target r.1 r.2) := by
  obtain ⟨⟨state, c₁⟩, hpump, rfl⟩ := Option.map_eq_some_iff.1 h
  obtain ⟨hs, hend⟩ := pump_spec hok hpump
  refine (judge_spec hend).imp ?_ ?_
  · rintro c₂ ⟨hs₂, hlife₂⟩
    exact ⟨hs.trans hs₂, hlife₂⟩
  · rintro r ⟨hs₂, hend₂⟩
    exact ⟨hs.trans hs₂, hend₂⟩

/-- what the turns of a wait are made of, and how they end -/
theorem driveTurns_spec [Separate β] {budget turns start : Nat} {target : EngineState} {c c' : Client β slots}
    {r : Except Error Unit} (hok : c.status = .ok)
    (h : repeatTurn (driveTurn budget target start) turns c = some (r, c')) :
    Steps c {} c' ∧ Waited c target r c' := by
  refine repeatTurn_all (I := fun c' => Steps c {} c' ∧ c'.lifecycle = c.lifecycle)
    (Q := fun r => Steps c {} r.2 ∧ Waited c target r.1 r.2) ?_ ⟨.refl, rfl⟩ h
  rintro c₁ t ⟨hs, hlife⟩ ht
  refine (driveTurn_spec ((status_of_lifecycle hlife).trans hok) ht).imp ?_ ?_
  · rintro c₂ ⟨hs₂, hlife₂⟩
    exact ⟨hs.trans hs₂, hlife₂.trans hlife⟩
  · rintro r ⟨hs₂, hend⟩
    exact ⟨hs.trans hs₂, hend.of_lifecycle hlife⟩

/-- what a wait is made of, and how it ends -/
theorem drive_spec [Separate β] {budget : Nat} {target : EngineState} {c c' : Client β slots}
    {r : Except Error Unit} (hok : c.status = .ok) (h : c.drive budget target = some (r, c')) :
    Steps c {} c' ∧ Waited c target r c' := by
  obtain ⟨hs, hend⟩ := driveTurns_spec (c := c.clocked) hok h
  exact ⟨Step.clock.steps.trans hs, hend.of_lifecycle rfl⟩

/-- a wait begins with a run of the pump: judged, it ends the wait, or the wait goes on -/
theorem drive_first {budget : Nat} {target : EngineState} {c c' : Client β slots} {r : Except Error Unit}
    (h : c.drive budget target = some (r, c')) :
    ∃ state c₁, c.clocked.pump budget = some (state, c₁) ∧
      (c₁.judge target (Timer.now c.board).1 state = .done (r, c') ∨
        ∃ left c₂, c₁.judge target (Timer.now c.board).1 state = .again c₂ ∧
          repeatTurn (driveTurn budget target (Timer.now c.board).1) left c₂ = some (r, c')) := by
  cases budget with
  | zero => cases h
  | succ left =>
    cases hpump : c.clocked.pump (left + 1) with
    | none => simp [drive, repeatTurn, driveTurn, hpump] at h
    | some answer =>
      obtain ⟨state, c₁⟩ := answer
      refine ⟨state, c₁, rfl, ?_⟩
      simp only [drive, repeatTurn, driveTurn, hpump, Option.map_some] at h
      split at h
      · contradiction
      · next hjudge =>
        cases h
        exact .inl (Option.some.inj hjudge)
      · next c₂ hjudge => exact .inr ⟨left, c₂, Option.some.inj hjudge, h⟩

end Client

end TlsClient

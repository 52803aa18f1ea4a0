/-
Which acknowledgements a simulated engine counts as violations.

An engine compares every acknowledgement with a length of its own (`SimEngine.measure`) and counts one that is longer.
To tell an overrun, that has to be the length of the window that was handed out just before. For three of the four
windows it is. The window for plaintext from the caller is not remembered: it is compared with the capacity, although no window
at all is handed out while the engine takes no plaintext.
- `violations_apply`, `violations_run`: the count grows by one with each acknowledgement that is too long for its
  measure, and with nothing else;
- `measure_handOut`: what the measure is right after the window was handed out;
- `violations_exchange`, `consumed_exchange`: what an acknowledgement is then counted as, and how much of the window it
  consumes;
- `SimEngine.Detects`: what is asked of the count, `detects_iff`: and exactly when it is so;
- `overruns_detected`: all of it, for every engine.
-/
import TlsClient.Proofs.AckBounds
import TlsClient.Proofs.Receipts

namespace TlsClient

namespace Window

/-- the call that hands out a window; a window for writing may be filled from its front -/
def handOut (fill : Bytes) : Window → EngineCall
  | .sendRec => .sendRecBuf
  | .recvRec => .recvRecBuf fill
  | .sendApp => .sendAppBuf fill
  | .recvApp => .recvAppBuf

/-- the call that acknowledges that many bytes of a window -/
def acknowledge (length : Nat) : Window → EngineCall
  | .sendRec => .sendRecAck length
  | .recvRec => .recvRecAck length
  | .sendApp => .sendAppAck length
  | .recvApp => .recvAppAck length

end Window

/-- the acknowledgement that a call makes, if it makes one -/
def EngineCall.ack? : EngineCall → Option (Window × Nat)
  | .sendRecAck length => some (.sendRec, length)
  | .recvRecAck length => some (.recvRec, length)
  | .sendAppAck length => some (.sendApp, length)
  | .recvAppAck length => some (.recvApp, length)
  | _ => none

namespace SimEngine

variable {e : SimEngine} {w : Window} {fill : Bytes} {length : Nat}

/-! ## The count -/

/-- the length that an acknowledgement is compared with -/
def measure (e : SimEngine) : Window → Nat
  | .sendRec => e.outgoing.length
  | .recvRec => e.recvWindow.length
  | .sendApp => e.capacity
  | .recvApp => e.unread.length

/-- one if the call acknowledges more than its measure, else none -/
def overrun (e : SimEngine) (call : EngineCall) : Nat :=
  match call.ack? with
  | some (w, length) => if e.measure w < length then 1 else 0
  | none => 0

/-- how many calls of a history acknowledge more than their measure -/
def overruns (e : SimEngine) : List EngineCall → Nat
  | [] => 0
  | call :: calls => e.overrun call + (e.apply call).2.overruns calls

theorem violations_grant (e : SimEngine) (length window : Nat) :
    (e.grant length window).violations = e.violations + if window < length then 1 else 0 := by
  unfold grant
  split_ifs <;> rfl

theorem violations_takeRecord (e : SimEngine) (length : Nat) : (e.takeRecord length).violations = e.violations := by
  unfold takeRecord flightArrived
  split
  · split_ifs <;> rfl
  · rfl
  · rfl
  · rfl

theorem violations_edits (e : SimEngine) (edits : List EngineEdit) :
    (edits.foldl edit e).violations = e.violations := by
  induction edits generalizing e with
  | nil => rfl
  | cons change edits ih =>
    rw [List.foldl_cons, ih]
    cases change <;> rfl

theorem violations_reset (e : SimEngine) (server : Option String) : (e.reset server).2.violations = e.violations := by
  cases hcode : e.resetError with
  | some code => rw [reset_of_error server hcode]
  | none =>
    obtain ⟨phase, session, handshakes, hreset, -⟩ := reset_of_ok server hcode
    rw [hreset]

/-- **A call is counted exactly if it acknowledges more than its measure.** -/
theorem violations_apply (e : SimEngine) (call : EngineCall) :
    (e.apply call).2.violations = e.violations + e.overrun call := by
  cases call with
  | sendRecAck length => exact violations_grant e length _
  | recvRecAck length => exact (violations_takeRecord _ _).trans (violations_grant e length _)
  | sendAppAck length => exact violations_grant e length _
  | recvAppAck length => exact violations_grant e length _
  | sendAppBuf fill =>
    simp only [apply, sendAppBuf]
    split_ifs <;> rfl
  | reset server => exact violations_reset e server
  | edit edits => exact violations_edits e edits
  | _ => rfl

/-- **Over a history the count grows by the number of acknowledgements that were too long.** -/
theorem violations_run (e : SimEngine) (calls : List EngineCall) :
    (e.run calls).violations = e.violations + e.overruns calls := by
  induction calls generalizing e with
  | nil => rfl
  | cons call calls ih =>
    have hrun : e.run (call :: calls) = (e.apply call).2.run calls := rfl
    rw [hrun, ih, violations_apply, overruns, Nat.add_assoc]

/-! ## A window and its acknowledgement -/

/-- the window that is handed out -/
def handed (e : SimEngine) : Window → Bytes
  | .sendRec => e.outgoing
  | .recvRec => e.recvRecBuf.1
  | .sendApp => e.sendAppBuf.1
  | .recvApp => e.unread

/-- a window is handed out, perhaps filled, and bytes of it are acknowledged at once -/
def exchange (e : SimEngine) (w : Window) (fill : Bytes) (length : Nat) : SimEngine :=
  e.run [w.handOut fill, w.acknowledge length]

/-- how many bytes of a window were consumed, told by what was left: ciphertext for the network is gone, ciphertext from
it was part of the peer's flight or is unread now, plaintext of the caller was handed over, plaintext for it is gone -/
def consumed (before after : SimEngine) : Window → Nat
  | .sendRec => before.outgoing.length - after.outgoing.length
  | .recvRec => before.wanted - after.wanted + (after.unread.length - before.unread.length)
  | .sendApp => after.plaintext.length - before.plaintext.length
  | .recvApp => before.unread.length - after.unread.length

/-- what an acknowledgement is compared with if the window was handed out just before -/
def bound (e : SimEngine) (w : Window) : Nat := if w = .sendApp then e.capacity else (e.handed w).length

theorem handed_answer (e : SimEngine) (w : Window) (fill : Bytes) :
    (e.apply (w.handOut fill)).1 = .window (e.handed w) := by
  cases w <;> rfl

theorem overrun_acknowledge (e : SimEngine) (w : Window) (length : Nat) :
    e.overrun (w.acknowledge length) = if e.measure w < length then 1 else 0 := by
  cases w <;> rfl

theorem overrun_handOut (e : SimEngine) (w : Window) (fill : Bytes) : e.overrun (w.handOut fill) = 0 := by
  cases w <;> rfl

theorem measure_handOut (e : SimEngine) (w : Window) (fill : Bytes) :
    (e.apply (w.handOut fill)).2.measure w = e.bound w := by
  cases w with
  | sendRec | recvApp => rfl
  | recvRec => exact Bytes.length_overwrite _ _ _
  | sendApp =>
    simp only [Window.handOut, apply, sendAppBuf]
    split_ifs <;> rfl

/-- an acknowledgement is counted exactly if it exceeds the bound -/
theorem violations_exchange (e : SimEngine) (w : Window) (fill : Bytes) (length : Nat) :
    (e.exchange w fill length).violations = e.violations + if e.bound w < length then 1 else 0 := by
  rw [exchange, violations_run, overruns, overruns, overruns, overrun_handOut, overrun_acknowledge, measure_handOut,
    Nat.zero_add, Nat.add_zero]

/-- what is taken from the window for ciphertext was wanted of the peer's flight, or is unread now -/
theorem consumed_takeRecord (hwindow : e.recvWindow.length = e.recvWant) (hfits : length ≤ e.recvWant) :
    e.wanted - (e.takeRecord length).wanted + ((e.takeRecord length).unread.length - e.unread.length) = length := by
  cases hphase : e.phase with
  | idle | closed =>
    simp only [recvWant, hphase] at hfits
    simp only [wanted, takeRecord, hphase]
    omega
  | app =>
    simp only [wanted, takeRecord, hphase, List.length_append, List.length_take, hwindow]
    omega
  | awaiting remaining =>
    have hle : length ≤ remaining := by
      simp only [recvWant, hphase] at hfits
      split_ifs at hfits <;> omega
    simp only [wanted, takeRecord, hphase, flightArrived, establish]
    split_ifs with hlast
    · show remaining - 0 + (e.unread.length - e.unread.length) = length
      omega
    · show remaining - (remaining - length) + (e.unread.length - e.unread.length) = length
      omega

theorem grant_frame (e : SimEngine) (length window : Nat) :
    ∃ violations, e.grant length window = { e with violations } := by
  unfold grant
  split_ifs <;> exact ⟨_, rfl⟩

/-- to hand out the window for plaintext changes that window at most -/
theorem sendAppBuf_frame (e : SimEngine) (fill : Bytes) :
    ∃ plainWindow, (e.apply (.sendAppBuf fill)).2 = { e with plainWindow } := by
  simp only [apply, sendAppBuf]
  split_ifs <;> exact ⟨_, rfl⟩

/-- **An acknowledgement consumes what it says, and no more than the bound.** -/
theorem consumed_exchange (e : SimEngine) (w : Window) (fill : Bytes) (length : Nat) :
    e.consumed (e.exchange w fill length) w = min length (e.bound w) := by
  cases w with
  | sendRec =>
    show e.outgoing.length - (e.outgoing.drop (min length e.outgoing.length)).length = min length e.outgoing.length
    rw [List.length_drop]
    omega
  | recvRec =>
    have hwindow : (Bytes.overwrite (Bytes.zeros e.recvWant) 0 fill).length = e.recvWant :=
      (Bytes.length_overwrite _ _ _).trans (Bytes.length_zeros _)
    -- the comparison changes the count at most, so the bytes are taken from the window as it was filled
    obtain ⟨violations, hgrant⟩ := grant_frame (e.recvRecBuf.2.fillRecvRec fill) length e.recvWant
    have hafter : e.exchange .recvRec fill length =
        { takeRecord { e.recvRecBuf.2.fillRecvRec fill with violations } (min length e.recvWant) with
          recvWindow := [] } := by
      rw [← hgrant, ← hwindow]
      rfl
    have hbound : e.bound .recvRec = e.recvWant := Bytes.length_zeros _
    rw [hafter, hbound]
    exact consumed_takeRecord (e := { e.recvRecBuf.2.fillRecvRec fill with violations }) hwindow (Nat.min_le_right _ _)
  | sendApp =>
    -- whatever the window holds by now, it is made as long as the capacity before bytes of it are taken
    obtain ⟨plainWindow, hopened⟩ := e.sendAppBuf_frame fill
    have hafter : (e.exchange .sendApp fill length).plaintext =
        e.plaintext ++ (Bytes.resize plainWindow e.capacity).take (min length e.capacity) := by
      show ((e.apply (.sendAppBuf fill)).2.sendAppAck length).plaintext = _
      rw [hopened]
      rfl
    show (e.exchange .sendApp fill length).plaintext.length - e.plaintext.length = min length e.capacity
    rw [hafter, List.length_append, List.length_take, Bytes.length_resize]
    omega
  | recvApp =>
    show e.unread.length - (e.unread.drop (min length e.unread.length)).length = min length e.unread.length
    rw [List.length_drop]
    omega

/-! ## Overruns -/

/-- what is asked of the count: an acknowledgement is counted exactly if it exceeds the window that was handed out just
before, and no more than that window is consumed -/
def Detects (e : SimEngine) (w : Window) (fill : Bytes) (length : Nat) : Prop :=
  (e.exchange w fill length).violations = e.violations + (if (e.handed w).length < length then 1 else 0) ∧
    e.consumed (e.exchange w fill length) w ≤ (e.handed w).length

instance (e : SimEngine) (w : Window) (fill : Bytes) (length : Nat) : Decidable (e.Detects w fill length) :=
  inferInstanceAs (Decidable (_ ∧ _))

theorem bound_of_ne (hw : w ≠ .sendApp) : e.bound w = (e.handed w).length := if_neg hw

theorem length_handed_sendApp (e : SimEngine) :
    (e.handed .sendApp).length = if e.state.sendApp then e.capacity else 0 := by
  simp only [handed, sendAppBuf]
  split_ifs
  · exact Bytes.length_resize _ _
  · rfl

/-- **An overrun is detected, unless plaintext is acknowledged that the engine does not take.** -/
theorem detects_iff (e : SimEngine) (w : Window) (fill : Bytes) (length : Nat) :
    e.Detects w fill length ↔ (w = .sendApp → e.state.sendApp = true ∨ length = 0 ∨ e.capacity = 0) := by
  unfold Detects
  rw [violations_exchange, consumed_exchange]
  by_cases hw : w = .sendApp
  · subst hw
    have hbound : e.bound .sendApp = e.capacity := rfl
    rw [hbound, length_handed_sendApp]
    by_cases htake : e.state.sendApp = true
    · rw [if_pos htake]
      exact iff_of_true ⟨rfl, Nat.min_le_right _ _⟩ fun _ => .inl htake
    · -- no window was handed out, but the capacity is the bound
      rw [if_neg htake]
      constructor
      · rintro ⟨-, hnone⟩ -
        omega
      · intro hidle
        rcases (hidle rfl).resolve_left htake with hlength | hcapacity
        · simp [hlength]
        · simp [hcapacity]
  · rw [bound_of_ne hw]
    exact iff_of_true ⟨rfl, Nat.min_le_right _ _⟩ fun h => absurd h hw

/-- **Which overruns an engine detects.** In every state of the engine, whatever its settings and whether or not its
flags are forced, a window is handed out, perhaps filled, and a number of bytes of it is acknowledged at once.
- An acknowledgement is counted as a violation exactly if it exceeds the window, and no more than the window is
  consumed; but this fails for plaintext from the caller, if the engine takes none just then, has some capacity, and any bytes are
  acknowledged.
- For that window it is the capacity that is compared, whether or not a window was handed out, and as many bytes are
  consumed. For the others it is the window.
- Over a history of calls, the count grows by the number of acknowledgements that exceeded what they were compared
  with. -/
theorem overruns_detected (e : SimEngine) (w : Window) (fill : Bytes) (length : Nat) :
    (e.apply (w.handOut fill)).1 = .window (e.handed w) ∧
      (e.Detects w fill length ↔ (w = .sendApp → e.state.sendApp = true ∨ length = 0 ∨ e.capacity = 0)) ∧
      (e.exchange w fill length).violations = e.violations + (if e.bound w < length then 1 else 0) ∧
      e.consumed (e.exchange w fill length) w = min length (e.bound w) ∧
      ∀ calls, (e.run calls).violations = e.violations + e.overruns calls :=
  ⟨handed_answer e w fill, detects_iff e w fill length, violations_exchange e w fill length,
    consumed_exchange e w fill length, violations_run e⟩

/-- unread plaintext keeps an engine with one buffer from taking more, and an engine that was not started takes none: no
window is handed out, but zeros are encrypted, and no violation is counted -/
theorem hand_over_undetected :
    let blocked := established.run [.edit [.capacity 4, .sharedBuffer true, .deliver [1, 2, 3]]]
    (blocked.handed .sendApp = [] ∧ (blocked.exchange .sendApp [] 2).plaintext = [0, 0] ∧
      (blocked.exchange .sendApp [] 2).violations = 0 ∧ ¬blocked.Detects .sendApp [] 2) ∧
    ({} : SimEngine).handed .sendApp = [] ∧ ¬({} : SimEngine).Detects .sendApp [] 1 := by
  decide

end SimEngine

end TlsClient

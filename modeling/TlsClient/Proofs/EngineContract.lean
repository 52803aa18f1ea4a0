/-
What the flags of a simulated engine promise.

Flags, windows and phase are worked out apart from each other, from five buffers. They agree all the same: a flag that
is shown has a window behind it. What carries this is that a handshake never waits for nothing, which every call keeps,
also an acknowledgement without a window, and a handshake with an empty flight.
- `Wanting`: a handshake that is going on wants at least one byte of the peer's flight;
- `Wanting.apply`, `Wanting.run`: so it is after every call, and after every history;
- `Truthful`: what the flags promise;
- `Wanting.truthful`: flags that are not forced keep it, if there is a window for plaintext at all;
- `flags_tell_truth`: they do after every history of a new engine, and of one with a handshake behind it.
-/
import TlsClient.Proofs.Overruns
import TlsClient.Proofs.SoundStates

namespace TlsClient.SimEngine

variable {e : SimEngine}

/-! ## Handshakes that wait -/

/-- a handshake that is going on still wants something from the peer -/
def Wanting (e : SimEngine) : Prop := ∀ remaining, e.phase = .awaiting remaining → 0 < remaining

theorem Wanting.of_phase {e' : SimEngine} (h : e.Wanting) (hphase : e'.phase = e.phase) : e'.Wanting := by
  intro remaining hawaiting
  exact h remaining (hphase.symm.trans hawaiting)

theorem Wanting.takeRecord (h : e.Wanting) (length : Nat) : (e.takeRecord length).Wanting := by
  unfold SimEngine.takeRecord
  split
  · next remaining hphase =>
    -- what was taken is less than what was wanted, or the handshake is over; without a window nothing is taken
    unfold flightArrived
    split_ifs with hlast
    · exact nofun
    · rintro left ⟨⟩
      omega
  · exact h.of_phase rfl
  · exact h
  · exact h

/-- a reset that succeeds waits for the flight, unless it is empty -/
theorem Wanting.reset (h : e.Wanting) (server : Option String) : (e.reset server).2.Wanting := by
  cases hcode : e.resetError with
  | some code =>
    rw [reset_of_error server hcode]
    exact h.of_phase rfl
  | none =>
    obtain ⟨phase, session, handshakes, hreset, hphase⟩ := reset_of_ok server hcode
    intro remaining hawaiting
    -- an empty flight leads to the application phase at once
    rw [hreset] at hawaiting
    obtain rfl : phase = .awaiting remaining := hawaiting
    split_ifs at hphase with hflight
    obtain rfl := SimPhase.awaiting.inj hphase
    exact Nat.pos_of_ne_zero hflight

theorem Wanting.edit (h : e.Wanting) (change : EngineEdit) : (e.edit change).Wanting := by
  cases change with
  | close => exact nofun
  | _ => exact h.of_phase rfl

theorem Wanting.edits (h : e.Wanting) (changes : List EngineEdit) : (changes.foldl SimEngine.edit e).Wanting := by
  induction changes generalizing e with
  | nil => exact h
  | cons change changes ih => exact ih (h.edit change)

theorem Wanting.grant (h : e.Wanting) (length window : Nat) : (e.grant length window).Wanting := by
  obtain ⟨violations, hgrant⟩ := e.grant_frame length window
  rw [hgrant]
  exact h.of_phase rfl

/-- **No call leaves a handshake that waits for nothing.** -/
theorem Wanting.apply (h : e.Wanting) (call : EngineCall) : (e.apply call).2.Wanting := by
  cases call with
  | sendRecAck length | sendAppAck length | recvAppAck length => exact (h.grant length _).of_phase rfl
  | recvRecAck length => exact ((h.grant length _).takeRecord _).of_phase rfl
  | sendAppBuf fill =>
    obtain ⟨plainWindow, hopened⟩ := e.sendAppBuf_frame fill
    rw [hopened]
    exact h.of_phase rfl
  | reset server => exact h.reset server
  | edit changes => exact h.edits changes
  | _ => exact h.of_phase rfl

theorem Wanting.run (h : e.Wanting) (calls : List EngineCall) : (e.run calls).Wanting := by
  induction calls generalizing e with
  | nil => exact h
  | cons call calls ih => exact ih (h.apply call)

/-! ## Flags and windows -/

/-- what the flags promise: a window that is reported can be used -/
structure Truthful (e : SimEngine) : Prop where
  /-- ciphertext for the network is there -/
  sendRec : e.state.sendRec = true → e.handed .sendRec ≠ []
  /-- there is a window for ciphertext -/
  recvRec : e.state.recvRec = true → e.handed .recvRec ≠ []
  /-- the window for plaintext has the full capacity -/
  sendApp : e.state.sendApp = true → (e.handed .sendApp).length = e.capacity
  /-- plaintext for the caller is there -/
  recvApp : e.state.recvApp = true → e.handed .recvApp ≠ []
  /-- a closed engine reports nothing else -/
  closed : e.state.closed = true → e.state = { closed := true }
  /-- queued ciphertext is reported before all else -/
  queued : e.state.sendRec = true → e.state = { sendRec := true }
  /-- a handshake that waits wants something -/
  wanting : ∀ remaining, e.phase = .awaiting remaining → 1 ≤ remaining

/-- flags that are not forced report a closed engine, or queued ciphertext, alone -/
theorem alone_of_natural (hforced : e.forced = none) :
    (e.state.closed = true → e.state = { closed := true }) ∧
      (e.state.sendRec = true → e.state = { sendRec := true }) := by
  rw [state_of_natural hforced]
  unfold naturalState
  split
  · exact ⟨nofun, nofun⟩
  · exact ⟨fun _ => rfl, nofun⟩
  · split_ifs
    · exact ⟨nofun, nofun⟩
    · exact ⟨nofun, fun _ => rfl⟩
  · split_ifs
    · exact ⟨nofun, nofun⟩
    · exact ⟨nofun, fun _ => rfl⟩

/-- ciphertext is waited for in a handshake, and in the application phase -/
theorem Wanting.live (h : e.Wanting) (hforced : e.forced = none) (hrecv : e.state.recvRec = true) : e.Live := by
  rw [state_of_natural hforced] at hrecv
  unfold naturalState at hrecv
  unfold Live
  split at hrecv
  · cases hrecv
  · cases hrecv
  · next remaining hphase =>
    rw [hphase]
    exact h remaining hphase
  · next hphase =>
    rw [hphase]
    trivial

/-- **Flags that are not forced keep what they promise.** -/
theorem Wanting.truthful (h : e.Wanting) (hforced : e.forced = none) (hroom : 0 < e.capacity) : e.Truthful where
  sendRec hsend := outgoing_of_sendRec hforced hsend
  recvRec hrecv := by
    have hrunning : e.Running := ⟨hforced, hroom, h.live hforced hrecv⟩
    have hlength : (e.handed .recvRec).length = e.recvWant := Bytes.length_zeros _
    exact List.ne_nil_of_length_pos (hlength ▸ hrunning.recvWant_pos hrecv)
  sendApp htake := by rw [length_handed_sendApp, if_pos htake]
  recvApp hrecv := ((recvApp_iff hforced).1 hrecv).2.2
  closed := (alone_of_natural hforced).1
  queued := (alone_of_natural hforced).2
  wanting := h

/-- **The flags tell the truth.** After every history of a new engine, and of one with a handshake behind it, with any
settings, acknowledgements of any length in any order, resets that succeed or fail, plaintext and ciphertext that appear
from outside, and closures: if the flags are not forced just then, and there is room for plaintext, then every flag that
is shown has its window, the two flags that stand alone do so, and a handshake that waits wants something. -/
theorem flags_tell_truth {start : SimEngine} (hstart : start = {} ∨ start = established) (calls : List EngineCall)
    (hforced : (start.run calls).forced = none) (hroom : 1 ≤ (start.run calls).capacity) :
    (start.run calls).Truthful := by
  have hwanting : start.Wanting := by
    rcases hstart with rfl | rfl
    · exact nofun
    · exact nofun
  exact (hwanting.run calls).truthful hforced hroom

/-- a flight of two bytes of which one has come in, after an acknowledgement that was too long and one without a
window -/
def halfFlight : List EngineCall :=
  [.edit [.hello [1, 2], .serverFlight 2, .capacity 4], .reset (some "a"), .sendRecAck 7, .recvRecAck 5,
    .recvRecBuf [9], .recvRecAck 1]

/-- one byte of the flight is still wanted; the engine reports that it waits for ciphertext and nothing else, and there
is a window for it -/
theorem flags_tell_truth_half_flight :
    (run {} halfFlight).forced = none ∧ 1 ≤ (run {} halfFlight).capacity ∧ (run {} halfFlight).violations = 2 ∧
      (run {} halfFlight).phase = .awaiting 1 ∧ (run {} halfFlight).state = { recvRec := true } ∧
      (run {} halfFlight).handed .recvRec ≠ [] ∧
      (run {} halfFlight).Truthful := by
  have hforced : (run {} halfFlight).forced = none := by decide
  have hroom : 1 ≤ (run {} halfFlight).capacity := by decide
  have htruthful := flags_tell_truth (.inl rfl) halfFlight hforced hroom
  exact ⟨hforced, hroom, by decide, by decide, by decide, htruthful.recvRec (by decide), htruthful⟩

end TlsClient.SimEngine

/-
What cannot go wrong on a board that behaves.

The engine shows the flags of its phase, has room for plaintext and is neither idle nor closed; the socket claims no more
than it moves. Then plaintext is stored only while the engine takes it, and there is less of it than the window holds.
- `Conforming`: a board that behaves, whatever its engine is doing;
- `SimEngine.Running`: an engine that behaves, neither idle nor closed;
- `Sound`: such an engine on such a board, and what is stored can be handed over;
- `Sound.blame`: a failure is to blame on the socket or on memory, unless it was a wait that took too long;
- `Sound.launched`, `Steps.sound`: a handshake starts in a sound state, and no step leads out of the sound states.
-/
import TlsClient.Proofs.Handshakes

namespace TlsClient

/-! ## An engine that behaves -/

namespace SimEngine

variable {e : SimEngine}

theorem outgoing_of_sendRec (hforced : e.forced = none) (h : e.state.sendRec = true) : e.outgoing ≠ [] := by
  rw [state_of_natural hforced] at h
  unfold naturalState at h
  rintro hnone
  split at h <;> simp [EngineState.invalid, appState, hnone] at h

/-- neither idle nor closed, and a handshake that waits still wants something -/
def Live (e : SimEngine) : Prop :=
  match e.phase with
  | .app => True
  | .awaiting remaining => 0 < remaining
  | .idle | .closed => False

/-- an engine that behaves: its flags are those of its phase, and it has room for plaintext -/
structure Running (e : SimEngine) : Prop where
  natural : e.forced = none
  room : 0 < e.capacity
  live : e.Live

theorem Running.recvWant_pos (h : e.Running) (hrecv : e.state.recvRec = true) : 0 < e.recvWant := by
  have hlive := h.live
  rw [state_of_natural h.natural] at hrecv
  unfold naturalState at hrecv
  unfold Live at hlive
  unfold recvWant
  split at hrecv
  · simp [EngineState.invalid] at hrecv
  · simp at hrecv
  · next hphase =>
    split_ifs at hrecv with hqueue
    simpa [hphase, hqueue] using hlive
  · next hphase =>
    split_ifs at hrecv with hqueue
    have hunread : e.unread.isEmpty = true := hrecv
    simpa [hphase, hunread] using h.room

/-- a record takes the handshake on, to its end if it was the last one -/
theorem Running.receive (h : e.Running) (record : Bytes) : (e.receive record).Running := by
  have hlive := h.live
  unfold Live at hlive
  unfold SimEngine.receive flightArrived establish
  split
  · split_ifs with hlast
    · exact ⟨h.natural, h.room, trivial⟩
    · exact ⟨h.natural, h.room, Nat.sub_pos_of_lt (Nat.not_le.1 hlast)⟩
  · next hphase => exact ⟨h.natural, h.room, by simp [Live, hphase]⟩
  · next hphase => simp [hphase] at hlive
  · next hphase => simp [hphase] at hlive

theorem Running.drained (h : e.Running) (flags : EngineState) : (e.drained flags).Running := by
  obtain ⟨unread, heq⟩ := e.drained_frame flags
  rw [heq]
  exact ⟨h.natural, h.room, h.live⟩

end SimEngine

namespace Client

variable {slots : Nat}

/-! ## Sound states -/

/-- a board that behaves: the flags of the engine are its own, it has room for plaintext, and the socket is honest -/
structure Conforming (c : Client SimBoard slots) : Prop where
  natural : c.engine.forced = none
  room : 0 < c.engine.capacity
  honest : c.socket.overreport = 0

/-- the board behaves, and what is stored can be handed over -/
structure Sound (c : Client SimBoard slots) : Prop where
  engine : c.engine.Running
  honest : c.socket.overreport = 0
  stored : 0 < c.pending → c.engine.state.sendApp = true ∧ c.pending < c.engine.capacity

theorem Sound.of_empty {c : Client SimBoard slots} (hengine : c.engine.Running) (honest : c.socket.overreport = 0)
    (hpending : c.pending = 0) : Sound c :=
  ⟨hengine, honest, fun hpos => absurd hpending (Nat.ne_of_gt hpos)⟩

theorem Sound.conforming {c : Client SimBoard slots} (h : Sound c) : Conforming c :=
  ⟨h.engine.natural, h.engine.room, h.honest⟩

theorem Sound.pending_eq_zero {c : Client SimBoard slots} (h : Sound c) (htake : ¬c.engine.state.sendApp = true) :
    c.pending = 0 :=
  Nat.eq_zero_of_not_pos fun hpos => htake (h.stored hpos).1

/-- nothing is stored while ciphertext is queued -/
theorem Sound.pending_of_sendRec {c : Client SimBoard slots} (h : Sound c) (hsend : c.engine.state.sendRec = true) :
    c.pending = 0 := by
  apply h.pending_eq_zero
  rw [SimEngine.sendApp_iff h.engine.natural]
  rintro ⟨-, hqueue, -⟩
  exact SimEngine.outgoing_of_sendRec h.engine.natural hsend hqueue

/-- **On a board that behaves, a failure is to blame on the socket or on memory.** -/
theorem Sound.blame {c : Client SimBoard slots} {s : Status} (h : Sound c) (hcause : Cause c s) :
    s = .transportWrite ∨ s = .outOfMemory := by
  cases hcause with
  | network => exact .inl rfl
  | memory => exact .inr rfl
  | overclaim hlied => exact absurd h.honest hlied
  | untaken hpending htake => exact absurd (h.stored hpending).1 (by simp [htake])
  | shortWindow hshort =>
    have hfits := (h.stored (Nat.zero_lt_of_lt hshort)).2
    exact absurd hshort (Nat.not_lt.2 (Nat.le_of_lt hfits))
  | noWindow _ hnone => exact absurd hnone (Nat.ne_of_gt h.engine.room)
  | nothingQueued hsend hnone => exact absurd hnone (SimEngine.outgoing_of_sendRec h.engine.natural hsend)
  | nothingWanted hrecv hnone => exact absurd hnone (Nat.ne_of_gt (h.engine.recvWant_pos hrecv))
  | nothingUnread hrecv hnone => exact absurd hnone ((SimEngine.recvApp_iff h.engine.natural).1 hrecv).2.2

theorem Sound.fail {c c' : Client SimBoard slots} (h : Sound c) (hharm : Harmed c c') (s : Status) :
    Sound (c'.fail s) := by
  obtain ⟨plain, cipher, hengine, -⟩ := hharm.engine
  obtain ⟨written, incoming, calls, polls, hsocket, -⟩ := hharm.socket
  have hrunning : c'.engine.Running := by
    rw [hengine]
    exact ⟨h.engine.natural, h.engine.room, h.engine.live⟩
  have honest : c'.socket.overreport = 0 := by
    rw [hsocket]
    exact h.honest
  rw [fail_eq]
  exact .of_empty (hrunning.drained _) honest rfl

/-- to take unread plaintext away makes no engine refuse plaintext -/
theorem Sound.unread {c : Client SimBoard slots} (h : Sound c) {unread : Bytes}
    (hunread : c.engine.unread = [] → unread = []) : Sound { c with board.engine.unread := unread } := by
  refine ⟨⟨h.engine.natural, h.engine.room, h.engine.live⟩, h.honest, ?_⟩
  intro hpos
  obtain ⟨htake, hfits⟩ := h.stored hpos
  obtain ⟨hphase, hqueue, hshared⟩ := (SimEngine.sendApp_iff h.engine.natural).1 htake
  have hforced : ({ c.engine with unread } : SimEngine).forced = none := h.engine.natural
  exact ⟨(SimEngine.sendApp_iff hforced).2 ⟨hphase, hqueue, fun hbuffer => hunread (hshared hbuffer)⟩, hfits⟩

theorem Sound.drained {c : Client SimBoard slots} (h : Sound c) (flags : EngineState) :
    Sound { c with board.engine := c.engine.drained flags } := by
  unfold SimEngine.drained
  split_ifs
  · exact h.unread fun _ => rfl
  · exact h

/-- no move leads out of the sound states -/
theorem Sound.move {c c' : Client SimBoard slots} {f : Flow} (h : Sound c) (hmove : Move c f c') : Sound c' := by
  have hrunning := h.engine
  cases hmove with
  | sent _ hsend =>
    exact .of_empty ⟨hrunning.natural, hrunning.room, hrunning.live⟩ h.honest (h.pending_of_sendRec hsend)
  | handed | full | fill | discard =>
    exact .of_empty ⟨hrunning.natural, hrunning.room, hrunning.live⟩ h.honest rfl
  | received _ _ hpending => exact .of_empty (hrunning.receive _) h.honest hpending
  | failed _ hharm => exact h.fail hharm _
  | store _ _ htake hroom =>
    exact ⟨⟨hrunning.natural, hrunning.room, hrunning.live⟩, h.honest, fun _ => ⟨htake, hroom⟩⟩
  | noWindow hpending he =>
    rcases he with rfl | rfl
    · exact .of_empty hrunning h.honest hpending
    · exact .of_empty ⟨hrunning.natural, hrunning.room, hrunning.live⟩ h.honest hpending
  | take room => exact h.unread fun hnone => by rw [hnone, List.drop_nil]
  | drop state => exact h.drained state
  | down =>
    rw [teardown_eq]
    exact .of_empty (hrunning.drained _) h.honest rfl
  | waited | clock | nudge | idle | poll | closing =>
    exact ⟨⟨hrunning.natural, hrunning.room, hrunning.live⟩, h.honest, h.stored⟩

/-- **A handshake starts in a sound state**, whatever the engine was doing before. -/
theorem Sound.launched {c : Client SimBoard slots} (h : Conforming c) (hreset : c.engine.resetError = none)
    (draw : Nat → Bytes) (host : Host) (portNumber : Nat) : Sound (c.launched draw host portNumber) := by
  obtain ⟨phase, session, handshakes, entropy, hengine, hphase⟩ := launched_engine draw host portNumber hreset
  obtain ⟨up, hsocket⟩ := launched_socket draw host portNumber c
  have hpending : (c.launched draw host portNumber).pending = 0 := by
    rw [launched_clean]
    rfl
  have hlive : (c.launched draw host portNumber).engine.Live := by
    rw [SimEngine.Live, show (c.launched draw host portNumber).engine.phase = phase by rw [hengine], hphase]
    split_ifs with hflight
    · trivial
    · exact Nat.pos_of_ne_zero hflight
  refine .of_empty ⟨?_, ?_, hlive⟩ ?_ hpending
  · rw [hengine]
    exact h.natural
  · rw [hengine]
    exact h.room
  · rw [hsocket]
    exact h.honest

/-- **No step leads out of the sound states.** -/
theorem Steps.sound {c c' : Client SimBoard slots} {f : Flow} (h : Sound c) (hs : Steps c f c') : Sound c' :=
  hs.invariant (I := fun _ c' => Sound c') (fun h hstep => h.move hstep.move) h

end Client

end TlsClient

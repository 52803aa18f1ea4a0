/-
What a client makes of a corrupted memory.

The memory probe is asked in one place only, before a record goes to the engine. A probe counts the questions, so the
answers that it gave during a call can be told from the clients before and after it (`Heard`).
- `Unasked`: a piece of work that does not ask the probe;
- `Sounded`: the note of corrupted memory is set exactly if the probe said so;
- `Steps.sounded`: so it is along every sequence of steps;
- `Blamed`: memory that is noted as corrupted is on record as a lack of memory;
- `Lived.blamed`: so it is in every state that a client is led to.
-/
import TlsClient.Proofs.SessionKeeping

namespace TlsClient.Client

variable {slots : Nat} {c c' c'' : Client SimBoard slots}

/-! ## The answers of the probe -/

/-- the probe gave that answer to a question that was put to it after `c` and before `c'` -/
def Heard (c c' : Client SimBoard slots) (answer : Headroom) : Prop :=
  ∃ n, c.board.probe.checks ≤ n ∧ n < c'.board.probe.checks ∧ c.board.probe.answer n c.config.minHeadroom = answer

/-- the probe was not asked, and nothing was noted -/
structure Unasked (c c' : Client SimBoard slots) : Prop where
  config : c'.config = c.config
  probe : c'.board.probe = c.board.probe
  abort : c'.abort = c.abort

/-- corrupted memory is noted exactly if it was noted before or the probe said so -/
structure Sounded (c c' : Client SimBoard slots) : Prop where
  config : c'.config = c.config
  answer : c'.board.probe.answer = c.board.probe.answer
  checks : c.board.probe.checks ≤ c'.board.probe.checks
  abort : c'.abort = true ↔ c.abort = true ∨ Heard c c' .corrupted

/-- no question, no answer -/
theorem Unasked.not_heard (h : Unasked c c') (answer : Headroom) : ¬Heard c c' answer := by
  rintro ⟨n, hlow, hhigh, -⟩
  rw [h.probe] at hhigh
  omega

theorem Unasked.sounded (h : Unasked c c') : Sounded c c' := by
  refine ⟨h.config, congrArg SimProbe.answer h.probe, Nat.le_of_eq (congrArg SimProbe.checks h.probe.symm), ?_⟩
  rw [h.abort, or_iff_left (h.not_heard .corrupted)]

/-- one question is put to the probe -/
theorem heard_once {answer : Headroom} (hprobe : c'.board.probe = (c.board.probe.check c.config.minHeadroom).2) :
    Heard c c' answer ↔ (c.board.probe.check c.config.minHeadroom).1 = answer := by
  simp only [Heard, hprobe, SimProbe.check]
  constructor
  · rintro ⟨n, hlow, hhigh, hanswer⟩
    obtain rfl : n = c.board.probe.checks := by omega
    exact hanswer
  · intro hanswer
    exact ⟨c.board.probe.checks, Nat.le_refl _, Nat.lt_succ_self _, hanswer⟩

/-- an answer is heard in the first or in the second part of a run -/
theorem Sounded.heard_trans (h : Sounded c c') (h' : Sounded c' c'') (answer : Headroom) :
    Heard c c'' answer ↔ Heard c c' answer ∨ Heard c' c'' answer := by
  have hfirst := h.checks
  have hsecond := h'.checks
  simp only [Heard, h.answer, h.config]
  constructor
  · rintro ⟨n, hlow, hhigh, hanswer⟩
    rcases Nat.lt_or_ge n c'.board.probe.checks with hn | hn
    · exact .inl ⟨n, hlow, hn, hanswer⟩
    · exact .inr ⟨n, hn, hhigh, hanswer⟩
  · rintro (⟨n, hlow, hhigh, hanswer⟩ | ⟨n, hlow, hhigh, hanswer⟩)
    · exact ⟨n, hlow, by omega, hanswer⟩
    · exact ⟨n, by omega, hhigh, hanswer⟩

theorem Sounded.trans (h : Sounded c c') (h' : Sounded c' c'') : Sounded c c'' where
  config := h'.config.trans h.config
  answer := h'.answer.trans h.answer
  checks := Nat.le_trans h.checks h'.checks
  abort := by rw [h'.abort, h.abort, h.heard_trans h', or_assoc]

/-! ## The work of the pump -/

theorem sendRecord_unasked (c : Client SimBoard slots) : Unasked c c.sendRecord.2 := by
  simp only [sendRecord]
  repeat' split
  all_goals exact ⟨rfl, rfl, rfl⟩

theorem handOver_unasked (c : Client SimBoard slots) (state : EngineState) : Unasked c (c.handOver state).2 := by
  simp only [handOver]
  repeat' split
  all_goals exact ⟨rfl, rfl, rfl⟩

theorem fillWindow_unasked (c : Client SimBoard slots) (available : Nat) : Unasked c (c.fillWindow available).2 := by
  simp only [fillWindow]
  repeat' split
  all_goals exact ⟨rfl, rfl, rfl⟩

theorem teardown_unasked (c : Client SimBoard slots) : Unasked c c.teardown := by
  rw [teardown_eq]
  exact ⟨rfl, rfl, rfl⟩

theorem fail_unasked (c : Client SimBoard slots) (s : Status) : Unasked c (c.fail s) := by
  rw [fail_eq]
  exact ⟨rfl, rfl, rfl⟩

/-- the one place that asks the probe: corrupted memory is noted, and fails as a lack of memory -/
theorem receiveRecord_sounded {r : Except Status Received} (h : c.receiveRecord = (r, c')) :
    Sounded c c' ∧ (c'.abort = c.abort ∨ r = .error .outOfMemory) := by
  simp only [receiveRecord, Transport.available, SimBoard.onSocket, SimSocket.available] at h
  split_ifs at h
  · -- nothing was there to receive
    rw [awaitPeer_eq] at h
    split_ifs at h <;> cases h <;> exact ⟨Unasked.sounded ⟨rfl, rfl, rfl⟩, .inl rfl⟩
  simp only [Probe.headroom] at h
  have hchecks : c.board.probe.checks ≤ c.board.probe.checks + 1 := Nat.le_succ _
  split at h
  · next hfree =>
    cases h
    refine ⟨⟨rfl, rfl, hchecks, ?_⟩, .inl rfl⟩
    rw [heard_once rfl, hfree]
    exact (or_iff_left (by decide)).symm
  · next hfree =>
    cases h
    refine ⟨⟨rfl, rfl, hchecks, ?_⟩, .inr rfl⟩
    rw [heard_once rfl, hfree]
    exact iff_of_true rfl (.inr rfl)
  · next hfree =>
    generalize capAt c.board.socket.availableChunk c.board.socket.incoming.length = available at h
    let asked : Client SimBoard slots :=
      { c with
        board.socket.polls := c.socket.polls + 1
        board.probe := (c.board.probe.check c.config.minHeadroom).2 }
    have hasked : Sounded c asked := by
      refine ⟨rfl, rfl, hchecks, ?_⟩
      rw [heard_once rfl, hfree]
      exact (or_iff_left (by decide)).symm
    have hfilled : Unasked asked c' := by
      have hfill := fillWindow_unasked asked available
      rwa [show asked.fillWindow available = (r, c') from h] at hfill
    exact ⟨hasked.trans hfilled.sounded, .inl hfilled.abort⟩

/-! ## Steps -/

/-- what fails leaves the lifecycle to `fail`, and notes corrupted memory only as a lack of memory -/
theorem Fault.sounded {s : Status} (h : Fault c s c') :
    Sounded c c' ∧ c'.lifecycle = c.lifecycle ∧ (c'.abort = c.abort ∨ c.status = .ok ∧ s = .outOfMemory) := by
  cases h with
  | send _ _ _ h =>
    have hsend := sendRecord_unasked c
    have hlife := sendRecord_lifecycle c
    rw [h] at hsend hlife
    exact ⟨hsend.sounded, hlife, .inl hsend.abort⟩
  | handOver _ _ _ _ h =>
    have hhand := handOver_unasked c c.flags
    have hlife := handOver_lifecycle c c.flags
    rw [h] at hhand hlife
    exact ⟨hhand.sounded, hlife, .inl hhand.abort⟩
  | receive hok _ _ _ _ h =>
    obtain ⟨hsounded, habort⟩ := receiveRecord_sounded h
    have hlife := receiveRecord_lifecycle c
    rw [h] at hlife
    refine ⟨hsounded, hlife, ?_⟩
    rcases habort with habort | hr
    · exact .inl habort
    · exact .inr ⟨hok, Except.error.inj hr⟩
  | _ => exact ⟨Unasked.sounded ⟨rfl, rfl, rfl⟩, rfl, .inl rfl⟩

/-- a step asks the probe where a record is received, and nowhere else; only a failure changes the record -/
theorem Step.sounded {f : Flow} (h : Step c f c') :
    Sounded c c' ∧
      (c'.abort = c.abort ∧ c'.status = c.status ∨ ∃ s c₁, Fault c s c₁ ∧ c' = c₁.fail s) := by
  cases h with
  | sent _ _ _ h =>
    have hsend := sendRecord_unasked c
    have hlife := sendRecord_lifecycle c
    rw [h] at hsend hlife
    exact ⟨hsend.sounded, .inl ⟨hsend.abort, status_of_lifecycle hlife⟩⟩
  | handed _ _ _ _ h =>
    have hhand := handOver_unasked c c.flags
    have hlife := handOver_lifecycle c c.flags
    rw [h] at hhand hlife
    exact ⟨hhand.sounded, .inl ⟨hhand.abort, status_of_lifecycle hlife⟩⟩
  | received _ _ _ _ _ h =>
    obtain ⟨hsounded, habort⟩ := receiveRecord_sounded h
    have hlife := receiveRecord_lifecycle c
    rw [h] at hlife
    exact ⟨hsounded, .inl ⟨habort.resolve_right nofun, status_of_lifecycle hlife⟩⟩
  | @failed s c₁ h => exact ⟨h.sounded.1.trans (fail_unasked _ _).sounded, .inr ⟨s, c₁, h, rfl⟩⟩
  | full =>
    unfold handStored
    split_ifs <;> exact ⟨Unasked.sounded ⟨rfl, rfl, rfl⟩, .inl ⟨rfl, rfl⟩⟩
  | take room =>
    rw [takeUnread_eq]
    exact ⟨Unasked.sounded ⟨rfl, rfl, rfl⟩, .inl ⟨rfl, rfl⟩⟩
  | drop state =>
    rw [dropUnread_eq]
    exact ⟨Unasked.sounded ⟨rfl, rfl, rfl⟩, .inl ⟨rfl, rfl⟩⟩
  | down =>
    have hdown := teardown_unasked c
    exact ⟨hdown.sounded, .inl ⟨hdown.abort, status_teardown c⟩⟩
  | _ => exact ⟨Unasked.sounded ⟨rfl, rfl, rfl⟩, .inl ⟨rfl, rfl⟩⟩

/-- **Corrupted memory is noted exactly if the probe says so**, whatever steps are made. -/
theorem Steps.sounded {f : Flow} (hs : Steps c f c') : Sounded c c' :=
  hs.invariant (I := fun _ c' => Sounded c c') (fun h hstep => h.trans hstep.sounded.1)
    (Unasked.sounded ⟨rfl, rfl, rfl⟩)

/-! ## The blame -/

/-- memory that is noted as corrupted is on record as a lack of memory -/
def Blamed (c : Client SimBoard slots) : Prop := c.abort = true → c.status = .outOfMemory

/-- nothing is noted -/
theorem Blamed.of_sane (h : c.abort = false) : Blamed c := by
  intro habort
  rw [h] at habort
  cases habort

/-- as long as nothing is on record, memory is in order -/
theorem Blamed.sane (h : Blamed c) (hok : c.status = .ok) : c.abort = false := by
  cases habort : c.abort with
  | false => rfl
  | true =>
    have hstatus := h habort
    rw [hok] at hstatus
    cases hstatus

theorem Blamed.of_eq (h : Blamed c) (habort : c'.abort = c.abort) (hstatus : c'.status = c.status) : Blamed c' := by
  intro hnoted
  rw [hstatus]
  exact h (habort ▸ hnoted)

theorem Blamed.teardown (h : Blamed c) : Blamed c.teardown :=
  h.of_eq (teardown_unasked c).abort (status_teardown c)

/-- a failure that is on record stays there, and one that is put there does not hide corrupted memory -/
theorem Blamed.fail (h : Blamed c) (s : Status) : Blamed (c.fail s) := by
  by_cases hok : c.status = .ok
  · exact .of_sane ((fail_unasked c s).abort.trans (h.sane hok))
  · rw [Client.fail, Lifecycle.fail_of_status hok]
    exact h.teardown

theorem Blamed.step {f : Flow} (h : Blamed c) (hstep : Step c f c') : Blamed c' := by
  obtain ⟨-, ⟨habort, hstatus⟩ | ⟨s, c₁, hfault, rfl⟩⟩ := hstep.sounded
  · exact h.of_eq habort hstatus
  obtain ⟨-, hlife, habort | ⟨hok, rfl⟩⟩ := hfault.sounded
  · exact (h.of_eq habort (status_of_lifecycle hlife)).fail s
  · intro _
    exact status_fail (show c₁.lifecycle.status = .ok from hlife ▸ hok) .outOfMemory

theorem Steps.blamed {f : Flow} (h : Blamed c) (hs : Steps c f c') : Blamed c' :=
  hs.invariant (I := fun _ c' => Blamed c') (fun h hstep => h.step hstep) h

/-- a handshake starts with memory in order -/
theorem Blamed.launched (draw : Nat → Bytes) (host : Host) (portNumber : Nat) (c : Client SimBoard slots) :
    Blamed (c.launched draw host portNumber) := by
  rw [launched_clean]
  exact .of_sane rfl

theorem Connects.blamed {draw : Nat → Bytes} {host : Host} {portNumber : Nat} {r : Except Error Unit}
    (h : Blamed c) (hconnects : Connects draw host portNumber c r c') : Blamed c' := by
  cases hconnects with
  | busy => exact h.of_eq rfl rfl
  | refused => exact .of_sane rfl
  | unstarted => exact (Blamed.launched draw host portNumber c).fail _
  | @waited waited c₁ _ _ _ hs =>
    have hwaited : Blamed c₁ := hs.blamed (.launched draw host portNumber c)
    cases waited with
    | ok u =>
      rw [concludeHandshake, keepSession_eq]
      exact hwaited.of_eq rfl rfl
    | error e =>
      simp only [concludeHandshake]
      split_ifs
      · exact hwaited.fail _
      · exact hwaited

theorem perform_blamed {budget : Nat} {r : Request} {reply : Reply} (h : Blamed c)
    (hperform : c.perform budget r = some (reply, c')) : Blamed c' := by
  rcases perform_cases hperform with ⟨_, _, _, _, -, -, hconnects⟩ | ⟨-, _, hs, -⟩
  · exact hconnects.blamed h
  · exact hs.blamed h

/-- **Wherever a client is led, corrupted memory is on record as a lack of memory.** -/
theorem Lived.blamed (h : Lived c) : Blamed c := by
  induction h with
  | new => exact .of_sane rfl
  | request _ hperform ih => exact perform_blamed ih hperform
  | outside _ board ih => exact ih.of_eq rfl rfl
  | forget _ name ih => exact ih.of_eq rfl rfl
  | setTimeout _ ms ih => exact ih.of_eq rfl rfl

end TlsClient.Client

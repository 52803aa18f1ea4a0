/-
The answer of a call agrees with what is on record after it.

A failure shows in three places: in the flags that the pump ends with, in the sticky status, and in the note of corrupted
memory. Each operation reads them for itself, in an order of its own.
- `Clean`: nothing is on record, and memory is in order;
- `Admits`: an answer that fits the record;
- `drive_admits`, `write_admits`, …: from a clean start every operation gives such an answer, loops turn by turn;
- `perform_of_failed`: with a failure on record a call is refused for that reason, and changes nothing;
- `Reports`: what an answer says about the client after the call, and about the memory probe during it;
- `answers_report`: every call that answers says so.
-/
import TlsClient.Proofs.ConformingBoard
import TlsClient.Proofs.CorruptedMemory

namespace TlsClient

/-- the error of an outcome -/
def failure? {α : Type} : Except Error α → Option Error
  | .ok _ => none
  | .error e => some e

/-- to rename a result leaves its error alone -/
theorem failure?_map {α ω : Type} (f : α → ω) (r : Except Error α) : failure? (r.map f) = failure? r := by
  cases r <;> rfl

theorem Reply.error?_done (r : Except Error Unit) : (Reply.done r).error? = failure? r := by cases r <;> rfl

theorem Reply.error?_count (r : Except Error Nat) : (Reply.count r).error? = failure? r := by cases r <;> rfl

theorem Reply.error?_bytes (r : Except Error Bytes) : (Reply.bytes r).error? = failure? r := by cases r <;> rfl

namespace Lifecycle

variable {l : Lifecycle}

/-- with nothing on record, a call that moves plaintext is refused for want of a session only -/
theorem softConnected_error {engine : EngineState} {e : Error} (hok : l.status = .ok)
    (h : l.softConnected engine = .error e) : e = .notConnected ∨ e = .engineClosed := by
  have hisOk : l.status.isOk = true := (Status.isOk_iff _).2 hok
  simp only [softConnected, hisOk] at h
  split_ifs at h
  · contradiction
  · exact .inl (Except.error.inj h).symm
  · exact .inr (Except.error.inj h).symm

/-- with nothing on record, a call that drives the engine is refused for want of a session only -/
theorem mayPump_error {e : Error} (hok : l.status = .ok) (h : l.mayPump = .error e) : e = .notConnected := by
  have hisOk : l.status.isOk = true := (Status.isOk_iff _).2 hok
  simp only [mayPump, hisOk] at h
  split_ifs at h
  · contradiction
  split at h
  · cases h
  · cases h
  · cases h
  all_goals exact (Except.error.inj h).symm

theorem softConnected_of_status (h : l.status ≠ .ok) (engine : EngineState) :
    l.softConnected engine = .error (.status l.status) := by
  simp [softConnected, Status.isOk, h]

end Lifecycle

namespace Client

section AnyBoard

variable {β : Type} {slots : Nat} {c c' : Client β slots}

/-- nothing is on record, and memory is in order -/
structure Clean (c : Client β slots) : Prop where
  status : c.status = .ok
  abort : c.abort = false

/-- An error fits the record. A refusal leaves it clean, a failure is the one on record, and corrupted memory goes
before everything else. -/
def Admits (c : Client β slots) : Option Error → Prop
  | none | some .notConnected | some .engineClosed => c.Clean
  | some (.status s) => s ≠ .ok ∧ c.status = s ∧ c.abort = false
  | some .timeout => c.status = .engineWrite ∧ c.abort = false
  | some .abort => c.abort = true
  | some .alreadyConnected => False

/-- a call that is refused by its guard says so -/
theorem Clean.refused {α : Type} (h : Clean c) {e : Error} (he : e = .notConnected ∨ e = .engineClosed) :
    Admits c (failure? (.error e : Except Error α)) := by
  rcases he with rfl | rfl
  · exact h
  · exact h

variable [Board β]

theorem abort_fail (c : Client β slots) (s : Status) : (c.fail s).abort = c.abort := by
  simp only [fail, teardown, dropUnread]
  split_ifs <;> rfl

theorem Clean.takeUnread (h : Clean c) (room : Nat) : Clean (c.takeUnread room).2 := by
  simp only [Client.takeUnread]
  split_ifs
  · exact h
  · exact ⟨h.status, h.abort⟩

/-- a failure that is answered is the one that was put on record -/
theorem Clean.fail (h : Clean c) {s : Status} (hs : s ≠ .ok) : Admits (c.fail s) (some (.status s)) :=
  ⟨hs, status_fail h.status s, (abort_fail c s).trans h.abort⟩

/-! ## Waiting -/

/-- the end of the pump is judged in the order of the code: memory, a closed engine, the record, the deadline -/
theorem judge_admits {target state : EngineState} {start : Nat} {c₀ : Client β slots} (hok : c₀.status = .ok)
    (hend : PumpEnd c₀ state c) :
    (c.judge target start state).All (fun _ => True) (fun r => Admits r.2 (failure? r.1)) := by
  simp only [judge]
  by_cases habort : c.abort = true
  · rw [if_pos habort]
    exact .done habort
  rw [if_neg habort]
  rw [Bool.not_eq_true] at habort
  by_cases hclosed : state.closed = true
  · rw [if_pos hclosed]
    cases hend with
    | failed hstate => simp [hstate, EngineState.invalid] at hclosed
    | closed _ hlife => exact .done ⟨(status_of_lifecycle hlife).trans hok, habort⟩
    | rested hstate _ hopen => simp [hstate, hopen] at hclosed
  rw [if_neg hclosed]
  by_cases hisOk : (!c.lifecycle.status.isOk) = true
  · rw [if_pos hisOk]
    have hstatus : c.lifecycle.status ≠ .ok := by simpa [Status.isOk] using hisOk
    exact .done ⟨hstatus, rfl, habort⟩
  rw [if_neg hisOk]
  have hok₁ : c.lifecycle.status = .ok := by simpa [Status.isOk] using hisOk
  have hclean : Clean c.clocked := ⟨hok₁, habort⟩
  by_cases hlate : c.config.timeoutMs < (Timer.now c.board).1 - start
  · rw [if_pos hlate]
    obtain ⟨-, hstatus, hsane⟩ := hclean.fail (s := .engineWrite) (by decide)
    exact .done ⟨hstatus, hsane⟩
  rw [if_neg hlate]
  by_cases hreached : reached target state = true
  · rw [if_pos hreached]
    exact .done hclean
  rw [if_neg hreached]
  simp only [resolve, discardUnread]
  split_ifs
  · exact .done (hclean.fail (by decide))
  · exact .again trivial
  · exact .again trivial
  · exact .again trivial

/-- a wait answers what is on record -/
theorem drive_admits [Separate β] {budget : Nat} {target : EngineState} {r : Except Error Unit} (hok : c.status = .ok)
    (h : c.drive budget target = some (r, c')) : Admits c' (failure? r) := by
  refine repeatTurn_all (I := fun c' => c'.lifecycle = c.lifecycle) (Q := fun r => Admits r.2 (failure? r.1)) ?_ rfl h
  intro c₁ t hlife ht
  obtain ⟨⟨state, c₂⟩, hpump, rfl⟩ := Option.map_eq_some_iff.1 ht
  have hok₁ : c₁.status = .ok := (status_of_lifecycle hlife).trans hok
  obtain ⟨-, hend⟩ := pump_spec hok₁ hpump
  refine ((judge_spec hend).and (judge_admits hok₁ hend)).imp ?_ ?_
  · rintro c₃ ⟨⟨-, hlife₃⟩, -⟩
    exact hlife₃.trans hlife
  · rintro r ⟨-, hadmits⟩
    exact hadmits

theorem runUntil_admits [Separate β] {budget : Nat} {target : EngineState} {r : Except Error Unit} (hclean : Clean c)
    (h : c.runUntil budget target = some (r, c')) : Admits c' (failure? r) := by
  unfold runUntil at h
  cases hguard : c.lifecycle.mayPump with
  | error e =>
    rw [hguard] at h
    cases h
    exact hclean.refused (α := Unit) (.inl (Lifecycle.mayPump_error hclean.status hguard))
  | ok u =>
    rw [hguard] at h
    exact drive_admits hclean.status h

theorem flush_admits [Separate β] {budget : Nat} {r : Except Error Unit} (hclean : Clean c)
    (h : c.flush budget = some (r, c')) : Admits c' (failure? r) := by
  unfold flush at h
  cases hguard : c.lifecycle.mayPump with
  | error e =>
    rw [hguard] at h
    cases h
    exact hclean.refused (α := Unit) (.inl (Lifecycle.mayPump_error hclean.status hguard))
  | ok u =>
    rw [hguard] at h
    simp only at h
    split_ifs at h
    · cases h
      exact hclean
    · exact drive_admits hclean.status h

theorem update_admits [Separate β] {budget : Nat} {r : Except Error EngineState} (hclean : Clean c)
    (h : c.update budget = some (r, c')) : Admits c' (failure? r) := by
  unfold update at h
  cases hguard : c.lifecycle.mayPump with
  | error e =>
    rw [hguard] at h
    cases h
    exact hclean.refused (α := EngineState) (.inl (Lifecycle.mayPump_error hclean.status hguard))
  | ok u =>
    rw [hguard] at h
    obtain ⟨⟨state, c₁⟩, -, heq⟩ := Option.map_eq_some_iff.1 h
    simp only at heq
    split_ifs at heq with habort hisOk
    · cases heq
      exact habort
    · cases heq
      exact ⟨by simpa [Status.isOk] using hisOk, rfl, by simpa using habort⟩
    · cases heq
      have hok : c'.lifecycle.status = .ok := by simpa [Status.isOk] using hisOk
      exact ⟨hok, by simpa using habort⟩

/-! ## Reading -/

/-- no flag at all means that something failed, unless it is what the engine itself shows -/
theorem countUnread_admits {state : EngineState} {c₀ : Client β slots} (hok : c₀.status = .ok)
    (hend : PumpEnd c₀ state c) : Admits (c.countUnread state).2 (failure? (c.countUnread state).1) := by
  unfold countUnread
  by_cases habort : c.abort = true
  · rw [if_pos habort]
    exact habort
  rw [if_neg habort]
  rw [Bool.not_eq_true] at habort
  by_cases hisOk : c.lifecycle.status.isOk = true
  · have hclean : Clean c := ⟨(Status.isOk_iff _).1 hisOk, habort⟩
    rw [if_pos hisOk]
    split_ifs
    · exact hclean
    · exact hclean
    · exact hclean
    · exact ⟨hclean.status, hclean.abort⟩
    · exact hclean
  · have hfailed : c.status ≠ .ok := mt (Status.isOk_iff _).2 hisOk
    have hstate : state.isInvalid = true := by
      cases hend with
      | failed hstate => simp [hstate, EngineState.isInvalid]
      | closed _ hlife => exact absurd ((status_of_lifecycle hlife).trans hok) hfailed
      | rested _ hlife => exact absurd ((status_of_lifecycle hlife).trans hok) hfailed
    rw [if_pos hstate, if_neg hisOk]
    exact ⟨hfailed, rfl, habort⟩

theorem available_admits [Separate β] {budget : Nat} {r : Except Error Nat} (hclean : Clean c)
    (h : c.available budget = some (r, c')) : Admits c' (failure? r) := by
  unfold available at h
  cases hguard : c.lifecycle.softConnected (Engine.state c.board) with
  | error e =>
    rw [hguard] at h
    cases h
    exact hclean.refused (α := Nat) (Lifecycle.softConnected_error hclean.status hguard)
  | ok u =>
    rw [hguard] at h
    obtain ⟨⟨state, c₁⟩, hpump, heq⟩ := Option.map_eq_some_iff.1 h
    have hadmits := countUnread_admits hclean.status (pump_spec hclean.status hpump).2
    rw [show c₁.countUnread state = (r, c') from heq] at hadmits
    exact hadmits

theorem read_admits [Separate β] {budget room : Nat} {r : Except Error Bytes} (hclean : Clean c)
    (h : c.read budget room = some (r, c')) : Admits c' (failure? r) := by
  unfold read at h
  split_ifs at h
  · cases h
    exact hclean
  cases havail : c.available budget with
  | none => simp [havail, Result.andThen] at h
  | some answer =>
    obtain ⟨counted, c₁⟩ := answer
    have hadmits := available_admits hclean havail
    rw [havail] at h
    cases counted with
    | error e =>
      cases h
      exact hadmits
    | ok count =>
      have hclean₁ : Clean c₁ := hadmits
      simp only [Result.andThen] at h
      split_ifs at h
      · cases h
        exact hclean₁
      · cases h
        exact hclean₁.takeUnread room

theorem peek_admits [Separate β] {budget : Nat} {r : Except Error (Option UInt8)} (hclean : Clean c)
    (h : c.peek budget = some (r, c')) : Admits c' (failure? r) := by
  unfold peek at h
  cases havail : c.available budget with
  | none => simp [havail, Result.andThen] at h
  | some answer =>
    obtain ⟨counted, c₁⟩ := answer
    have hadmits := available_admits hclean havail
    rw [havail] at h
    cases counted with
    | error e =>
      cases h
      exact hadmits
    | ok count =>
      cases h
      exact hadmits

/-- the end of the stream is no error -/
theorem readReady_admits [Separate β] {budget : Nat} {r : Except Error Bool} (hclean : Clean c)
    (h : c.readReady budget = some (r, c')) : Admits c' (failure? r) := by
  obtain ⟨⟨counted, c₁⟩, havail, heq⟩ := Option.map_eq_some_iff.1 h
  have hadmits := available_admits hclean havail
  cases counted with
  | ok count =>
    cases heq
    exact hadmits
  | error e =>
    cases e with
    | engineClosed =>
      cases heq
      exact hadmits
    | _ =>
      cases heq
      exact hadmits

theorem blockingRead_admits [Separate β] {budget room : Nat} {r : Except Error Bytes} (hclean : Clean c)
    (h : c.blockingRead budget room = some (r, c')) : Admits c' (failure? r) := by
  unfold blockingRead at h
  split_ifs at h
  · cases h
    exact hclean
  cases hguard : c.lifecycle.softConnected (Engine.state c.board) with
  | error e =>
    rw [hguard] at h
    rcases Lifecycle.softConnected_error hclean.status hguard with rfl | rfl
    · cases h
      exact hclean
    · cases h
      exact hclean
  | ok u =>
    rw [hguard] at h
    obtain ⟨⟨waited, c₁⟩, hdrive, heq⟩ := Option.map_eq_some_iff.1 h
    have hadmits := drive_admits hclean.status hdrive
    cases waited with
    | ok u =>
      cases heq
      exact Clean.takeUnread hadmits room
    | error e =>
      cases e with
      | engineClosed =>
        cases heq
        exact hadmits
      | _ =>
        cases heq
        exact hadmits

/-- a stream that ends too early is no error of the client: by induction on what is left to fill -/
theorem readExact_admits [Separate β] {budget length : Nat} {r : Except FillError Bytes} (hclean : Clean c)
    (h : c.readExact budget length = some (r, c')) : Admits c' (Reply.filled r).error? := by
  induction length using Nat.strongRecOn generalizing c r with
  | ind length ih =>
    unfold readExact at h
    split_ifs at h with hlength
    · cases h
      exact hclean
    split at h
    · cases h
    · next e c₁ hread =>
      cases h
      exact blockingRead_admits hclean hread
    · next c₁ hread =>
      cases h
      exact blockingRead_admits hclean hread
    · next byte more c₁ hread =>
      obtain ⟨⟨r₂, c₂⟩, hrest, heq⟩ := Option.map_eq_some_iff.1 h
      cases heq
      have hadmits := ih _ (by omega) (blockingRead_admits hclean hread) hrest
      cases r₂ with
      | ok rest => exact hadmits
      | error e => exact hadmits

/-! ## Writing -/

/-- to hand over and wait leaves a clean record, or ends the write with what is on record -/
theorem awaitWindow_admits [Separate β] {budget : Nat} {left : Bytes}
    {t : Turn (Bytes × Client β slots) (Except Error Unit × Client β slots)} (hok : c.status = .ok)
    (ht : c.awaitWindow budget left = some t) :
    t.All (fun job => Clean job.2) (fun r => Admits r.2 (failure? r.1)) := by
  obtain ⟨⟨r, c₂⟩, hdrive, rfl⟩ := Option.map_eq_some_iff.1 ht
  have hadmits := drive_admits ((status_of_lifecycle (handStored_lifecycle c)).trans hok) hdrive
  cases r with
  | ok u => exact .again hadmits
  | error e => exact .done hadmits

/-- one turn of a write -/
theorem writeTurn_admits [Separate β] {budget : Nat} {rest : Bytes}
    {t : Turn (Bytes × Client β slots) (Except Error Unit × Client β slots)} (hclean : Clean c)
    (ht : writeTurn budget (rest, c) = some t) :
    t.All (fun job => Clean job.2) (fun r => Admits r.2 (failure? r.1)) := by
  have hopened : Clean c.openWindow := ⟨hclean.status, hclean.abort⟩
  rw [writeTurn_eq] at ht
  have hmove := writeMove_spec c rest
  generalize writeMove (rest, c) = move at ht hmove
  cases hmove with
  | finished =>
    cases ht
    exact .done hclean
  | shortWindow | noWindow =>
    cases ht
    exact .done (hopened.fail (by decide))
  | stored =>
    cases ht
    exact .again ⟨hclean.status, hclean.abort⟩
  | filled | full =>
    refine awaitWindow_admits ?_ ht
    exact hclean.status

/-- a write answers what is on record: turn by turn, from a clean record to a clean record -/
theorem write_admits [Separate β] {budget : Nat} {data : Bytes} {r : Except Error Nat} (hclean : Clean c)
    (h : c.write budget data = some (r, c')) : Admits c' (failure? r) := by
  unfold write at h
  cases hguard : c.lifecycle.softConnected (Engine.state c.board) with
  | error e =>
    rw [hguard] at h
    cases h
    exact hclean.refused (α := Nat) (Lifecycle.softConnected_error hclean.status hguard)
  | ok u =>
    rw [hguard] at h
    obtain ⟨⟨r, c₁⟩, hloop, heq⟩ := Option.map_eq_some_iff.1 h
    cases heq
    rw [failure?_map]
    refine repeatTurn_all (I := fun job : Bytes × Client β slots => Clean job.2)
      (Q := fun r => Admits r.2 (failure? r.1)) ?_ hclean hloop
    rintro ⟨rest, c₂⟩ t hclean ht
    exact writeTurn_admits hclean ht

theorem writeAll_admits [Separate β] {budget : Nat} {data : Bytes} {r : Except Error Unit} (hclean : Clean c)
    (h : c.writeAll budget data = some (r, c')) : Admits c' (failure? r) := by
  unfold writeAll at h
  split_ifs at h
  · cases h
    exact hclean
  · obtain ⟨⟨r, c₁⟩, hwrite, heq⟩ := Option.map_eq_some_iff.1 h
    cases heq
    rw [failure?_map]
    exact write_admits hclean hwrite

end AnyBoard

/-! ## Connecting -/

variable {slots : Nat} {c c' : Client SimBoard slots}

theorem heard_congr {d : Client SimBoard slots} (hconfig : d.config = c.config)
    (hprobe : d.board.probe = c.board.probe) (answer : Headroom) : Heard d c' answer ↔ Heard c c' answer := by
  simp only [Heard, hconfig, hprobe]

/-- to start a handshake asks no probe -/
theorem launched_probe (draw : Nat → Bytes) (host : Host) (portNumber : Nat) (c : Client SimBoard slots) :
    (c.launched draw host portNumber).board.probe = c.board.probe := by
  simp only [launched, prepared_eq]
  rfl

theorem concludeHandshake_unasked (server : Option String) (waited : Except Error Unit) (c : Client SimBoard slots) :
    Unasked c (concludeHandshake server (waited, c)).2 := by
  cases waited with
  | ok u =>
    rw [concludeHandshake, keepSession_eq]
    exact ⟨rfl, rfl, rfl⟩
  | error e =>
    simp only [concludeHandshake]
    split_ifs
    · exact fail_unasked c .engineConnect
    · exact ⟨rfl, rfl, rfl⟩

/-- a connect that was begun starts afresh, and notes corrupted memory exactly if the probe says so -/
theorem Connects.sounded {draw : Nat → Bytes} {host : Host} {portNumber : Nat} {r : Except Error Unit}
    (h : Connects draw host portNumber c r c') (hdown : (Transport.connected c.board).1 = false) :
    c'.abort = true ↔ Heard c c' .corrupted := by
  have hlaunched : ∀ {d : Client SimBoard slots}, Sounded (c.launched draw host portNumber) d →
      (d.abort = true ↔ Heard c d .corrupted) := by
    intro d hsounded
    have hconfig : (c.launched draw host portNumber).config = c.config := by rw [launched_clean]
    have hsane : ¬(c.launched draw host portNumber).abort = true := by
      rw [launched_clean]
      exact nofun
    rw [hsounded.abort, or_iff_right hsane, heard_congr hconfig (launched_probe draw host portNumber c)]
  cases h with
  | busy hup => exact absurd hup (by simp [hdown])
  | refused =>
    refine iff_of_false nofun ?_
    rintro ⟨n, hlow, hhigh, -⟩
    exact absurd hhigh (Nat.not_lt.2 hlow)
  | unstarted => exact hlaunched (fail_unasked _ _).sounded
  | @waited waited c₁ _ _ _ hs => exact hlaunched (hs.sounded.trans (concludeHandshake_unasked _ waited c₁).sounded)

/-- the reason of a handshake that failed is the one on record; a closed engine gets a reason of its own -/
theorem concludeHandshake_admits {start : Client SimBoard slots} {target : EngineState} {r : Except Error Unit}
    (hwaited : Waited start target r c) (hadmits : Admits c (failure? r)) (hblamed : Blamed c) (server : Option String) :
    Admits (concludeHandshake server (r, c)).2 (failure? (concludeHandshake server (r, c)).1) := by
  -- with a failure on record, error and client stay as they are
  have hkept : ∀ {e : Error}, c.status ≠ .ok → e ≠ .engineClosed → Admits c (some e) →
      Admits (concludeHandshake server (.error e, c)).2 (failure? (concludeHandshake server (.error e, c)).1) := by
    intro e hfailed he hadmits
    have hisOk : ¬c.lifecycle.status.isOk = true := mt (Status.isOk_iff _).1 hfailed
    simp only [concludeHandshake, if_neg hisOk, if_neg he]
    exact hadmits
  cases hwaited with
  | reached =>
    have hclean : Clean c := hadmits
    rw [concludeHandshake, keepSession_eq]
    exact ⟨hclean.status, hclean.abort⟩
  | closed =>
    have hclean : Clean c := hadmits
    have hisOk : c.lifecycle.status.isOk = true := (Status.isOk_iff _).2 hclean.status
    have hfail : Admits (c.fail .engineConnect) (some (.status .engineConnect)) := hclean.fail (by decide)
    have hstatus : (c.fail .engineConnect).lifecycle.status = .engineConnect := hfail.2.1
    simp only [concludeHandshake, if_pos hisOk, hstatus]
    exact hfail
  | aborted habort =>
    have hstatus := hblamed habort
    exact hkept (by rw [hstatus]; decide) (by decide) hadmits
  | failed hstatus he =>
    refine hkept hstatus ?_ hadmits
    rcases he with rfl | rfl
    · rintro ⟨⟩
    · rintro ⟨⟩

/-- a connect that was begun answers what is on record -/
theorem connect_admits {budget : Nat} {draw : Nat → Bytes} {host : Host} {portNumber : Nat} {r : Except Error Unit}
    (h : c.connect budget draw host portNumber = some (r, c')) (hdown : (Transport.connected c.board).1 = false) :
    Admits c' (failure? r) := by
  have hok := status_launched draw host portNumber c
  have hsane : (c.launched draw host portNumber).abort = false := by rw [launched_clean]
  rw [connect_eq, if_neg (by simp [hdown])] at h
  split at h
  · cases h
    exact ⟨by decide, rfl, rfl⟩
  split at h
  · cases h
    exact Clean.fail ⟨hok, hsane⟩ (by decide)
  · obtain ⟨⟨waited, c₁⟩, hdrive, heq⟩ := Option.map_eq_some_iff.1 h
    obtain ⟨hs, hwaited⟩ := drive_spec hok hdrive
    have hadmits := concludeHandshake_admits hwaited (drive_admits hok hdrive)
      (hs.blamed (.launched draw host portNumber c)) host.name?
    rw [heq] at hadmits
    exact hadmits

/-! ## All calls that answer -/

end Client

/-- does the request answer with a result? -/
def Request.answers : Request → Bool
  | .stop | .connected => false
  | _ => true

/-- does the request have a guard? -/
def Request.guarded : Request → Bool
  | .connect .. | .stop | .connected => false
  | _ => true

theorem Request.opens_of_guarded {r : Request} (h : r.guarded = true) : r.opens = false := by
  cases r with
  | connect => cases h
  | _ => rfl

theorem Request.error?_failure {r : Request} (h : r.guarded = true) (e : Error) : (r.failure e).error? = some e := by
  cases r with
  | connect | stop | connected => cases h
  | _ => rfl

namespace Client

variable {slots : Nat} {c c' : Client SimBoard slots}

/-- **With a failure on record a call is refused for that reason**, and changes nothing. -/
theorem perform_of_failed {r : Request} (hfailed : c.status ≠ .ok) (hguarded : r.guarded = true)
    (hasks : r.asks = true) (budget : Nat) : c.perform budget r = some (r.failure (.status c.status), c) := by
  have hpump : c.lifecycle.mayPump = .error (.status c.status) := Lifecycle.mayPump_of_status hfailed
  cases r with
  | connect | stop | connected => cases hguarded
  | flush =>
    simp only [perform, flush_refused budget hpump]
    rfl
  | update =>
    simp only [perform, update, hpump]
    rfl
  | runUntil target =>
    simp only [perform, runUntil, hpump]
    rfl
  | _ =>
    obtain ⟨reply, hperform, hreply⟩ :=
      perform_refused rfl hasks (Lifecycle.softConnected_of_status hfailed c.flags) budget
    rw [hperform, hreply (by rintro ⟨⟩)]
    rfl

/-- an answer tells what the outcome of its call tells -/
theorem Admits.answer {α : Type} {form : Except Error α → Reply} {x : Result SimBoard slots α} {reply : Reply}
    (hform : ∀ r, (form r).error? = failure? r) (hadmits : ∀ {r}, x = some (r, c') → Admits c' (failure? r))
    (h : x.map (fun r => (form r.1, r.2)) = some (reply, c')) : Admits c' reply.error? := by
  obtain ⟨⟨r, c₁⟩, hx, heq⟩ := Option.map_eq_some_iff.1 h
  cases heq
  rw [hform]
  exact hadmits hx

/-- from a clean start, every call with a guard tells what is on record -/
theorem perform_admits {budget : Nat} {r : Request} {reply : Reply} (hclean : Clean c) (hguarded : r.guarded = true)
    (h : c.perform budget r = some (reply, c')) : Admits c' reply.error? := by
  cases r with
  | connect | stop | connected => cases hguarded
  | write data => exact .answer Reply.error?_count (write_admits hclean) h
  | writeAll data => exact .answer Reply.error?_done (writeAll_admits hclean) h
  | flush => exact .answer Reply.error?_done (flush_admits hclean) h
  | runUntil target => exact .answer Reply.error?_done (runUntil_admits hclean) h
  | update => exact .answer (fun r => by cases r <;> rfl) (update_admits hclean) h
  | available => exact .answer Reply.error?_count (available_admits hclean) h
  | peek => exact .answer (fun r => by cases r <;> rfl) (peek_admits hclean) h
  | readReady => exact .answer (fun r => by cases r <;> rfl) (readReady_admits hclean) h
  | read room => exact .answer Reply.error?_bytes (read_admits hclean) h
  | blockingRead room => exact .answer Reply.error?_bytes (blockingRead_admits hclean) h
  | readExact length =>
    obtain ⟨⟨r, c₁⟩, hread, heq⟩ := Option.map_eq_some_iff.1 h
    cases heq
    exact readExact_admits hclean hread

/-- what an answer says about the client after the call, and about the memory probe during it -/
structure Reports (c c' : Client SimBoard slots) (reply : Reply) : Prop where
  /-- a failure that is answered is the one on record -/
  status : ∀ s, reply.error? = some (.status s) → s ≠ .ok ∧ c'.status = s
  timeout : reply.error? = some .timeout → c'.status = .engineWrite
  /-- the call gives up on memory exactly if the probe has found it corrupted during the call -/
  abort : reply.error? = some .abort ↔ Heard c c' .corrupted
  corrupted : reply.error? = some .abort → c'.abort = true ∧ c'.status = .outOfMemory
  refused : reply.error? = some .notConnected ∨ reply.error? = some .engineClosed → c'.status = .ok
  ok : reply.error? = none → c'.status = .ok

theorem Reports.of_admits {reply : Reply} (hadmits : Admits c' reply.error?)
    (habort : c'.abort = true ↔ Heard c c' .corrupted) (hblamed : Blamed c') : Reports c c' reply := by
  generalize he : reply.error? = error? at hadmits
  refine ⟨?_, ?_, ?_, ?_, ?_, ?_⟩
  · intro s hs
    rw [← he, hs] at hadmits
    exact ⟨hadmits.1, hadmits.2.1⟩
  · intro htimeout
    rw [← he, htimeout] at hadmits
    exact hadmits.1
  · rw [← habort, he]
    constructor
    · rintro rfl
      exact hadmits
    · intro hnoted
      -- every other answer is given with memory in order
      rcases error? with _ | (s | _ | _ | _ | _ | _)
      · exact absurd hnoted (by simp [hadmits.abort])
      · exact absurd hnoted (by simp [hadmits.2.2])
      · exact absurd hnoted (by simp [hadmits.abort])
      · exact absurd hnoted (by simp [hadmits.abort])
      · exact hadmits.elim
      · exact absurd hnoted (by simp [hadmits.2])
      · rfl
  · intro hgaveUp
    rw [← he, hgaveUp] at hadmits
    exact ⟨hadmits, hblamed hadmits⟩
  · rintro (hrefused | hrefused)
    · rw [← he, hrefused] at hadmits
      exact hadmits.status
    · rw [← he, hrefused] at hadmits
      exact hadmits.status
  · intro hnone
    rw [← he, hnone] at hadmits
    exact hadmits.status

/-- a call that is refused before it does anything -/
theorem Reports.of_unasked {reply : Reply} (hunasked : Unasked c c')
    (he : reply.error? = some .alreadyConnected ∨
      ∃ s, reply.error? = some (.status s) ∧ s ≠ .ok ∧ c'.status = s) : Reports c c' reply := by
  have hnone := hunasked.not_heard .corrupted
  rcases he with he | ⟨s, he, hs⟩
  · refine ⟨?_, ?_, ?_, ?_, ?_, ?_⟩ <;> simp [he, hnone]
  · refine ⟨?_, ?_, ?_, ?_, ?_, ?_⟩ <;> simp [he, hnone, hs]

/-- **What a call answers is what is on record after it.** Whatever requests have led to a client, and whatever was
changed on its board in between: a call with something to do that answers with a failure has put that failure on record,
or found it there; it gives up on the engine with an engine error on record; it gives up on memory exactly if the probe
has found it corrupted during the call, and then this is noted and on record as a lack of memory; and when it succeeds,
or is refused for want of a session, nothing is on record. So no call records a failure and reports a success. -/
theorem answers_report {budget : Nat} {r : Request} {reply : Reply} (hlived : Lived c) (hanswers : r.answers = true)
    (hasks : r.asks = true) (h : c.perform budget r = some (reply, c')) : Reports c c' reply := by
  have hblamed := (hlived.request h).blamed
  cases hguarded : r.guarded with
  | false =>
    cases r with
    | connect host portNumber draw =>
      cases hup : (Transport.connected c.board).1 with
      | true =>
        rw [perform, connect_eq, if_pos hup] at h
        cases h
        exact .of_unasked ⟨rfl, rfl, rfl⟩ (.inl rfl)
      | false =>
        refine .of_admits (.answer Reply.error?_done (fun hconnect => connect_admits hconnect hup) h) ?_ hblamed
        obtain ⟨⟨r, c₁⟩, hconnect, heq⟩ := Option.map_eq_some_iff.1 h
        cases heq
        exact (connect_spec hconnect).sounded hup
    | stop | connected => cases hanswers
    | _ => cases hguarded
  | true =>
    by_cases hok : c.status = .ok
    · have hclean : Clean c := ⟨hok, hlived.blamed.sane hok⟩
      obtain ⟨_, hs, -⟩ := perform_steps (Request.opens_of_guarded hguarded) h
      refine .of_admits (perform_admits hclean hguarded h) ?_ hblamed
      rw [hs.sounded.abort, hclean.abort]
      exact or_iff_right Bool.false_ne_true
    · rw [perform_of_failed hok hguarded hasks] at h
      cases h
      exact .of_unasked ⟨rfl, rfl, rfl⟩ (.inr ⟨c.status, Request.error?_failure hguarded _, hok, rfl⟩)

/-- bytes come in over an open session, and memory is found corrupted before they are read -/
theorem answers_report_corrupted_memory :
    ∃ (c c' : Client SimBoard 1) (reply : Reply), Lived c ∧ c.perform 50 .available = some (reply, c') ∧
      reply.error? = some .abort ∧ Heard c c' .corrupted ∧ c'.abort = true ∧ c'.status = .outOfMemory ∧
      Reports c c' reply := by
  have hplayed :
      (newcomer.undergo 50 [.request (.connect (.name "a") 443 fun _ => []), .socket (.push [5]),
          .probe (.always .corrupted)]).bind
        (fun s => (s.2.perform 50 .available).map fun r => r.1.error?) = some (some .abort) := by
    decide +kernel
  obtain ⟨⟨log, c⟩, hrun, hlast⟩ := Option.bind_eq_some_iff.1 hplayed
  obtain ⟨⟨reply, c'⟩, hperform, herror⟩ := Option.map_eq_some_iff.1 hlast
  have hlived : Lived c := .of_undergo (.new _ _) hrun
  have hreports := answers_report hlived rfl rfl hperform
  obtain ⟨habort, hstatus⟩ := hreports.corrupted herror
  exact ⟨c, c', reply, hlived, hperform, herror, hreports.abort.1 herror, habort, hstatus, hreports⟩

end Client

end TlsClient

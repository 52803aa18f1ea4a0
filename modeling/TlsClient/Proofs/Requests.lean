/-
Every request but a connect is a sequence of steps.

- `writeMove`, `writeMove_spec`: what a turn of a write does, up to the wait in it;
- `write_spec`: a write is refused, stores all of its data, or stores a part of it and breaks off;
- `Fits`: how the plaintext moved by a request agrees with its reply;
- `perform_steps`: the steps behind a request, with the plaintext they move.
-/
import Mathlib.Tactic.SplitIfs
import TlsClient.Proofs.Steps

namespace TlsClient

/-- does the request open a connection? -/
def Request.opens : Request → Bool
  | .connect .. => true
  | _ => false

/-- does the request write plaintext? -/
def Request.writes : Request → Bool
  | .write _ | .writeAll _ => true
  | _ => false

/-- the plaintext a request wants to have sent -/
def Request.offered : Request → Bytes
  | .write data | .writeAll data => data
  | _ => []

/-- the plaintext a reply hands to the caller -/
def Reply.returned : Reply → Bytes
  | .bytes (.ok data) | .filled (.ok data) => data
  | _ => []

theorem Lifecycle.softConnected_ok {l : Lifecycle} {engine : EngineState} (h : l.softConnected engine = .ok ()) :
    l.status = .ok ∧ l.engineConnected = true ∧ engine.closed = false := by
  unfold softConnected at h
  repeat' split at h
  all_goals simp_all [Status.isOk]

theorem Lifecycle.mayPump_ok {l : Lifecycle} (h : l.mayPump = .ok ()) : l.status = .ok := by
  unfold mayPump at h
  split at h
  · simp at h
  · simp_all [Status.isOk]

/-- the first failure wins -/
theorem Lifecycle.fail_of_status {l : Lifecycle} (h : l.status ≠ .ok) (s : Status) : l.fail s = l := by
  simp [Lifecycle.fail, Status.isOk, h]

theorem Lifecycle.mayPump_of_status {l : Lifecycle} (h : l.status ≠ .ok) : l.mayPump = .error (.status l.status) := by
  simp [Lifecycle.mayPump, Status.isOk, h]

namespace Client

variable {β : Type} [Board β] {slots : Nat}

/-! ## Writing -/

/-- how a write of `data` that began with `c` ends -/
inductive Wrote (c : Client β slots) (data : Bytes) : Except Error Nat → Client β slots → Prop
  /-- no session is open -/
  | refused {e} (h : c.lifecycle.softConnected c.flags = .error e) : Wrote c data (.error e) c
  /-- all of the data is stored -/
  | all {c'} (hs : Steps c { stored := data } c') (hlife : c'.lifecycle = c.lifecycle) :
      Wrote c data (.ok data.length) c'
  /-- a part of the data was stored before something failed -/
  | part {e stored c'} (hs : Steps c { stored } c') (hpart : stored <+: data)
      (hend : Waited c { sendApp := true } (.error e) c') : Wrote c data (.error e) c'

/-- the end of a wait that failed with a status of its own -/
theorem Waited.of_fail {c : Client β slots} (c' : Client β slots) {s : Status} {target : EngineState}
    (hok : c'.status = .ok) (hs : s ≠ .ok) : Waited c target (.error (.status s)) (c'.fail s) := by
  have hstatus : (c'.fail s).status = s := status_fail hok s
  exact .failed (by rw [hstatus]; exact hs) (.inl (by rw [hstatus]))

/-- what a turn of a write leaves to do, or how it ends the write -/
def TurnOfWrite (c : Client β slots) (rest : Bytes) :
    Turn (Bytes × Client β slots) (Except Error Unit × Client β slots) → Prop :=
  Turn.All
    (fun job => ∃ part, rest = part ++ job.1 ∧ Steps c { stored := part } job.2 ∧ job.2.lifecycle = c.lifecycle)
    (fun r => (r = (.ok (), c) ∧ rest = []) ∨
      ∃ e part, r.1 = .error e ∧ part <+: rest ∧ Steps c { stored := part } r.2 ∧
        Waited c { sendApp := true } (.error e) r.2)

/-- to hand over and wait takes the write on, or breaks it off -/
theorem awaitWindow_spec [Separate β] {budget : Nat} {c c' : Client β slots} {part left : Bytes}
    {t : Turn (Bytes × Client β slots) (Except Error Unit × Client β slots)} (hok : c.status = .ok)
    (hs : Steps c { stored := part } c'.handStored) (hlife : c'.handStored.lifecycle = c.lifecycle)
    (ht : c'.awaitWindow budget left = some t) : TurnOfWrite c (part ++ left) t := by
  obtain ⟨⟨r, c₂⟩, hdrive, rfl⟩ := Option.map_eq_some_iff.1 ht
  obtain ⟨hs₂, hend⟩ := drive_spec ((status_of_lifecycle hlife).trans hok) hdrive
  have hs' : Steps c { stored := part } c₂ := by simpa using hs.trans hs₂
  have hend' := hend.of_lifecycle hlife
  cases r with
  | error e => exact .done (.inr ⟨e, part, rfl, List.prefix_append _ _, hs', hend'⟩)
  | ok u =>
    cases hend' with
    | reached hlife₂ => exact .again ⟨part, rfl, hs', hlife₂⟩

theorem handStored_lifecycle (c : Client β slots) : c.handStored.lifecycle = c.lifecycle := by
  simp only [handStored]
  split <;> rfl

/-- to hand over and wait: the wait is over and the write goes on, or it fails -/
theorem awaitWindow_cases [Separate β] {budget : Nat} {c : Client β slots} {rest : Bytes}
    {t : Turn (Bytes × Client β slots) (Except Error Unit × Client β slots)} (hok : c.status = .ok)
    (ht : c.awaitWindow budget rest = some t) :
    t.All
      (fun job => job.1 = rest ∧ Steps c.handStored {} job.2 ∧ Waited c.handStored { sendApp := true } (.ok ()) job.2)
      (fun r => ∃ e, r.1 = .error e) := by
  obtain ⟨⟨r, c₁⟩, hdrive, rfl⟩ := Option.map_eq_some_iff.1 ht
  have hlife : c.handStored.lifecycle = c.lifecycle := handStored_lifecycle c
  obtain ⟨hs, hend⟩ := drive_spec ((status_of_lifecycle hlife).trans hok) hdrive
  cases r with
  | error e => exact .done ⟨e, rfl⟩
  | ok u => exact .again ⟨rfl, hs, hend⟩

theorem pending_store (c : Client β slots) (data : Bytes) :
    (c.openWindow.storePlaintext c.window.length data).backlog.pending =
      c.pending + min (c.window.length - c.pending) data.length := by
  simp [storePlaintext, Backlog.advance, pending]

/-- what a turn of a write does, up to the wait in it -/
inductive WriteMove (β : Type) (slots : Nat) where
  /-- the write is over -/
  | ended (r : Except Error Unit × Client β slots)
  /-- the window has taken what was left -/
  | more (job : Bytes × Client β slots)
  /-- hand over and wait; then go on with `rest` -/
  | wait (rest : Bytes) (c : Client β slots)

/-- the part of a turn of a write that needs no budget -/
def writeMove (job : Bytes × Client β slots) : WriteMove β slots :=
  let rest := job.1
  let c := job.2
  if rest.isEmpty then .ended (.ok (), c)
  else
    let state := Engine.state c.board
    let window := Engine.sendAppBuf c.board
    let capacity := window.1.length
    let c := { c with board := window.2 }
    if c.backlog.pending < capacity then
      let left := rest.drop (capacity - c.backlog.pending)
      let c := c.storePlaintext capacity rest
      if c.backlog.pending < capacity then .more (left, c) else .wait left c
    else if capacity < c.backlog.pending then .ended (.error (.status .internal), c.fail .internal)
    else if capacity = 0 && state.sendApp then .ended (.error (.status .engineWrite), c.fail .engineWrite)
    else .wait rest c

/-- a turn of a write is its move, and the wait in it -/
theorem writeTurn_eq (budget : Nat) (job : Bytes × Client β slots) :
    writeTurn budget job =
      match writeMove job with
      | .ended r => some (.done r)
      | .more job => some (.again job)
      | .wait rest c => c.awaitWindow budget rest := by
  simp only [writeTurn, writeMove]
  split_ifs <;> rfl

/-- the moves of a write that has `rest` left -/
inductive Writes (c : Client β slots) (rest : Bytes) : WriteMove β slots → Prop
  /-- nothing is left -/
  | finished (hrest : rest = []) : Writes c rest (.ended (.ok (), c))
  /-- the window no longer holds what is stored in it -/
  | shortWindow (h : c.window.length < c.pending) :
      Writes c rest (.ended (.error (.status .internal), c.openWindow.fail .internal))
  /-- the engine takes plaintext but has no window for it -/
  | noWindow (htake : c.flags.sendApp = true) (hpending : c.pending = 0) (h : c.window.length = 0) :
      Writes c rest (.ended (.error (.status .engineWrite), c.openWindow.fail .engineWrite))
  /-- the window has room for the rest, and for more -/
  | stored (hrest : rest ≠ []) (hroom : c.pending + rest.length < c.window.length) :
      Writes c rest (.more ([], c.openWindow.storePlaintext c.window.length rest))
  /-- the rest fills the window -/
  | filled (hroom : c.pending < c.window.length) (hover : c.window.length ≤ c.pending + rest.length) :
      Writes c rest
        (.wait (rest.drop (c.window.length - c.pending)) (c.openWindow.storePlaintext c.window.length rest))
  /-- the window was full before, or there is none yet -/
  | full (hrest : rest ≠ []) (hfull : c.window.length = c.pending)
      (hsome : c.flags.sendApp = true → c.window.length ≠ 0) : Writes c rest (.wait rest c.openWindow)

/-- the moves of a write are those of the code, in its order -/
theorem writeMove_spec (c : Client β slots) (rest : Bytes) : Writes c rest (writeMove (rest, c)) := by
  simp only [writeMove]
  by_cases hrest : rest.isEmpty = true
  · rw [if_pos hrest]
    exact .finished (List.isEmpty_iff.1 hrest)
  rw [if_neg hrest]
  have hrest : rest ≠ [] := fun hnone => hrest (List.isEmpty_iff.2 hnone)
  by_cases hroom : c.backlog.pending < c.window.length
  · rw [if_pos hroom]
    have hroom : c.pending < c.window.length := hroom
    by_cases hmore : (c.openWindow.storePlaintext c.window.length rest).backlog.pending < c.window.length
    · rw [if_pos hmore]
      rw [pending_store] at hmore
      have hnone : rest.drop (c.window.length - c.backlog.pending) = [] :=
        List.drop_eq_nil_of_le (by simp only [pending] at hmore hroom; omega)
      rw [hnone]
      exact .stored hrest (by omega)
    · rw [if_neg hmore]
      rw [pending_store] at hmore
      exact .filled hroom (by omega)
  rw [if_neg hroom]
  by_cases hshort : (Engine.sendAppBuf c.board).1.length < c.backlog.pending
  · rw [if_pos hshort]
    exact .shortWindow hshort
  rw [if_neg hshort]
  have hfull : c.window.length = c.pending := Nat.le_antisymm (Nat.not_lt.1 hroom) (Nat.not_lt.1 hshort)
  by_cases hnone : (decide ((Engine.sendAppBuf c.board).1.length = 0) && (Engine.state c.board).sendApp) = true
  · rw [if_pos hnone]
    rw [Bool.and_eq_true, decide_eq_true_iff] at hnone
    exact .noWindow hnone.2 (hfull ▸ hnone.1) hnone.1
  · rw [if_neg hnone]
    exact .full hrest hfull fun htake hzero => hnone (by simp [hzero, htake])

/-- a window that was filled up is handed over -/
theorem handStored_of_filled {c : Client β slots} {rest : Bytes} (hroom : c.pending < c.window.length)
    (hover : c.window.length ≤ c.pending + rest.length) :
    (c.openWindow.storePlaintext c.window.length rest).handStored =
      (c.openWindow.storePlaintext c.window.length rest).handPending := by
  apply if_pos
  rw [pending_store]
  omega

/-- the wait in a turn of a write begins with what was stored handed over -/
theorem Writes.wait_steps {c c₁ : Client β slots} {rest left : Bytes} (hok : c.status = .ok)
    (hup : c.lifecycle.engineConnected = true) (h : Writes c rest (.wait left c₁)) :
    ∃ part, rest = part ++ left ∧ Steps c { stored := part } c₁.handStored ∧
      c₁.handStored.lifecycle = c.lifecycle := by
  cases h with
  | filled hroom hover =>
    have hfill := Step.fill hok hup hroom hover
    rw [← handStored_of_filled hroom hover] at hfill
    exact ⟨_, (List.take_append_drop _ _).symm, hfill.steps, handStored_lifecycle _⟩
  | full _ hfull => exact ⟨[], rfl, (Step.full hok hup hfull).steps, handStored_lifecycle _⟩

/-- one turn of a write -/
theorem writeTurn_spec [Separate β] {budget : Nat} {c : Client β slots} {rest : Bytes}
    {t : Turn (Bytes × Client β slots) (Except Error Unit × Client β slots)} (hok : c.status = .ok)
    (hup : c.lifecycle.engineConnected = true)
    (ht : writeTurn budget (rest, c) = some t) : TurnOfWrite c rest t := by
  rw [writeTurn_eq] at ht
  have hmove := writeMove_spec c rest
  generalize writeMove (rest, c) = move at ht hmove
  cases move with
  | wait left c₁ =>
    obtain ⟨part, rfl, hs, hlife⟩ := hmove.wait_steps hok hup
    exact awaitWindow_spec hok hs hlife ht
  | ended r =>
    cases ht
    cases hmove with
    | finished hrest => exact .done (.inl ⟨rfl, hrest⟩)
    | shortWindow h =>
      refine .done (.inr ⟨_, [], rfl, List.nil_prefix, (Step.failed (.shortWindow hok hup h)).steps, ?_⟩)
      exact .of_fail c.openWindow hok (by decide)
    | noWindow htake hpending h =>
      refine .done (.inr ⟨_, [], rfl, List.nil_prefix, (Step.failed (.noWindow hok hup htake hpending h)).steps, ?_⟩)
      exact .of_fail c.openWindow hok (by decide)
  | more job =>
    cases ht
    cases hmove with
    | stored hrest hroom => exact .again ⟨rest, (List.append_nil rest).symm, (Step.store hok hup hroom).steps, rfl⟩

theorem write_of_refused {c : Client β slots} {e : Error} (hguard : c.lifecycle.softConnected c.flags = .error e)
    (budget : Nat) (data : Bytes) : c.write budget data = some (.error e, c) := by
  simp only [write, hguard]

theorem write_of_admitted {c : Client β slots} (hguard : c.lifecycle.softConnected c.flags = .ok ()) (budget : Nat)
    (data : Bytes) :
    c.write budget data =
      (repeatTurn (writeTurn budget) budget (data, c)).map fun r => (r.1.map fun _ => data.length, r.2) := by
  simp only [write, hguard]

/-- the turns of a write that succeeds -/
theorem writeTurns_of_write {budget count : Nat} {data : Bytes} {c c' : Client β slots}
    (h : c.write budget data = some (.ok count, c')) :
    c.lifecycle.softConnected c.flags = .ok () ∧ count = data.length ∧
      repeatTurn (writeTurn budget) budget (data, c) = some (.ok (), c') := by
  cases hguard : c.lifecycle.softConnected c.flags with
  | error e => simp [write_of_refused hguard] at h
  | ok u =>
    rw [write_of_admitted hguard] at h
    obtain ⟨⟨e | u, c₁⟩, hloop, heq⟩ := Option.map_eq_some_iff.1 h
    · cases heq
    · cases heq
      exact ⟨rfl, rfl, hloop⟩

/-- what a write is made of, and how it ends -/
theorem write_spec [Separate β] {budget : Nat} {data : Bytes} {c c' : Client β slots} {r : Except Error Nat}
    (h : c.write budget data = some (r, c')) : Wrote c data r c' := by
  unfold write at h
  cases hguard : c.lifecycle.softConnected (Engine.state c.board) with
  | error e =>
    rw [hguard] at h
    cases h
    exact .refused hguard
  | ok u =>
    rw [hguard] at h
    obtain ⟨hok, hup, -⟩ := Lifecycle.softConnected_ok hguard
    obtain ⟨⟨r, c₁⟩, hloop, heq⟩ := Option.map_eq_some_iff.1 h
    cases heq
    -- what is still to be written, and what was stored before
    refine repeatTurn_all
      (I := fun job : Bytes × Client β slots => ∃ done, data = done ++ job.1 ∧ Steps c { stored := done } job.2 ∧
        job.2.lifecycle = c.lifecycle)
      (Q := fun r => Wrote c data (r.1.map fun _ => data.length) r.2) ?_ ⟨[], rfl, .refl, rfl⟩ hloop
    rintro ⟨rest, c₂⟩ t ⟨done, hdata, hs, hlife⟩ ht
    have hturn := writeTurn_spec ((status_of_lifecycle hlife).trans hok) (by rw [hlife]; exact hup) ht
    refine hturn.imp ?_ ?_
    · rintro ⟨rest', c₃⟩ ⟨part, hrest, hs₃, hlife₃⟩
      exact ⟨done ++ part, by rw [hdata, hrest, List.append_assoc], hs.trans hs₃, hlife₃.trans hlife⟩
    · rintro r (⟨rfl, hrest⟩ | ⟨e, part, he, hpart, hs₃, hend⟩)
      · subst hrest
        rw [List.append_nil] at hdata
        exact .all (hdata ▸ hs) hlife
      · obtain ⟨r, c₃⟩ := r
        cases he
        refine .part (hs.trans hs₃) ?_ (hend.of_lifecycle hlife)
        rw [hdata]
        exact List.prefix_append_right_inj done |>.2 hpart

/-- no more plaintext can be written on this connection -/
def Over (c : Client β slots) : Prop :=
  c.abort = true ∨ c.status ≠ .ok ∨ c.lifecycle.engineConnected = false ∨ c.flags.closed = true

/-- a write that fails is the last one -/
theorem Wrote.over {c c' : Client β slots} {data : Bytes} {e : Error} (h : Wrote c data (.error e) c') : c'.Over := by
  cases h with
  | refused h =>
    unfold Lifecycle.softConnected at h
    split_ifs at h with hok hup hclosed
    · exact .inr (.inl (by simpa [status, Status.isOk] using hok))
    · exact .inr (.inr (.inl (by simpa using hup)))
    · exact .inr (.inr (.inr hclosed))
  | part _ _ hend =>
    cases hend with
    | closed _ _ h => exact .inr (.inr (.inr h))
    | aborted h => exact .inl h
    | failed hstatus => exact .inr (.inl hstatus)

/-! ## Reading -/

theorem available_steps [Separate β] {budget : Nat} {c c' : Client β slots} {r : Except Error Nat}
    (h : c.available budget = some (r, c')) : Steps c {} c' := by
  unfold available at h
  cases hguard : c.lifecycle.softConnected (Engine.state c.board) with
  | error e =>
    rw [hguard] at h
    cases h
    exact .refl
  | ok u =>
    rw [hguard] at h
    obtain ⟨hok, -, -⟩ := Lifecycle.softConnected_ok hguard
    obtain ⟨⟨state, c₁⟩, hpump, heq⟩ := Option.map_eq_some_iff.1 h
    obtain ⟨hs, hend⟩ := pump_spec hok hpump
    obtain rfl : (c₁.countUnread state).2 = c' := congrArg Prod.snd heq
    unfold countUnread
    split_ifs with habort hstate hisOk hrecv hclosed htake
    all_goals try exact hs
    -- an idle flush follows a run of the pump that came to rest
    cases hend with
    | failed hstate => simp [hstate, EngineState.invalid] at htake
    | closed hstate _ hclosed' => exact absurd (hstate ▸ hclosed') hclosed
    | rested hstate hlife hopen hsend hpending =>
      subst hstate
      exact hs.quiet (.idle ((status_of_lifecycle hlife).trans hok) hopen hsend hpending htake (by simpa using hrecv))

/-- a read that began with `c` ends with the bytes it took from the engine, or with an error and has taken none -/
inductive Took (c : Client β slots) : Except Error Bytes → Client β slots → Prop
  | bytes {taken c'} (hs : Steps c { taken } c') : Took c (.ok taken) c'
  | error {e c'} (hs : Steps c {} c') : Took c (.error e) c'

theorem Steps.takeUnread {c c' : Client β slots} (hs : Steps c {} c') (room : Nat) :
    Took c (.ok (c'.takeUnread room).1) (c'.takeUnread room).2 :=
  .bytes (hs.trans (Step.take room).steps)

theorem read_spec [Separate β] {budget room : Nat} {c c' : Client β slots} {r : Except Error Bytes}
    (h : c.read budget room = some (r, c')) : Took c r c' := by
  unfold read at h
  split_ifs at h with hroom
  · cases h
    exact .bytes .refl
  cases havail : c.available budget with
  | none => simp [havail, Result.andThen] at h
  | some answer =>
    obtain ⟨counted, c₁⟩ := answer
    have hs := available_steps havail
    rw [havail] at h
    cases counted with
    | error e => cases h; exact .error hs
    | ok count =>
      simp only [Result.andThen] at h
      split_ifs at h with hcount
      · cases h
        exact .bytes hs
      · cases h
        exact hs.takeUnread room

theorem blockingRead_spec [Separate β] {budget room : Nat} {c c' : Client β slots} {r : Except Error Bytes}
    (h : c.blockingRead budget room = some (r, c')) : Took c r c' := by
  unfold blockingRead at h
  split_ifs at h with hroom
  · cases h
    exact .bytes .refl
  cases hguard : c.lifecycle.softConnected (Engine.state c.board) with
  | error e =>
    -- a closed engine is the end of the stream
    rw [hguard] at h
    cases e with
    | engineClosed => cases h; exact .bytes .refl
    | _ => cases h; exact .error .refl
  | ok u =>
    rw [hguard] at h
    obtain ⟨hok, -, -⟩ := Lifecycle.softConnected_ok hguard
    obtain ⟨⟨waited, c₁⟩, hdrive, heq⟩ := Option.map_eq_some_iff.1 h
    obtain ⟨hs, -⟩ := drive_spec hok hdrive
    cases waited with
    | ok u => cases heq; exact hs.takeUnread room
    | error e =>
      cases e with
      | engineClosed => cases heq; exact .bytes hs
      | _ => cases heq; exact .error hs

theorem peek_steps [Separate β] {budget : Nat} {c c' : Client β slots} {r : Except Error (Option UInt8)}
    (h : c.peek budget = some (r, c')) : Steps c {} c' := by
  unfold peek at h
  cases havail : c.available budget with
  | none => simp [havail, Result.andThen] at h
  | some answer =>
    obtain ⟨counted, c₁⟩ := answer
    have hs := available_steps havail
    rw [havail] at h
    cases counted <;> cases h <;> exact hs

theorem readReady_steps [Separate β] {budget : Nat} {c c' : Client β slots} {r : Except Error Bool}
    (h : c.readReady budget = some (r, c')) : Steps c {} c' := by
  obtain ⟨⟨counted, c₁⟩, havail, heq⟩ := Option.map_eq_some_iff.1 h
  have hs := available_steps havail
  have hc : c₁ = c' := by
    simp only at heq
    split at heq <;> exact congrArg Prod.snd heq
  exact hc ▸ hs

/-- a buffer was filled by what was taken, or something was taken and something failed -/
theorem readExact_spec [Separate β] {budget length : Nat} {c c' : Client β slots} {r : Except FillError Bytes}
    (h : c.readExact budget length = some (r, c')) :
    ∃ taken, Steps c { taken } c' ∧ ∀ bytes, r = .ok bytes → bytes = taken := by
  induction length using Nat.strongRecOn generalizing c r with
  | ind length ih =>
    unfold readExact at h
    split_ifs at h with hlength
    · cases h
      exact ⟨[], .refl, fun _ h => by cases h; rfl⟩
    split at h
    · simp at h
    · next e c₁ hread =>
      cases h
      cases blockingRead_spec hread with
      | error hs => exact ⟨[], hs, fun _ h => by cases h⟩
    · next c₁ hread =>
      cases h
      cases blockingRead_spec hread with
      | bytes hs => exact ⟨[], hs, fun _ h => by cases h⟩
    · next byte more c₁ hread =>
      obtain ⟨⟨r₂, c₂⟩, hrest, heq⟩ := Option.map_eq_some_iff.1 h
      cases heq
      cases blockingRead_spec hread with
      | bytes hs =>
        obtain ⟨taken, hs₂, htaken⟩ := ih _ (by omega) hrest
        refine ⟨(byte :: more) ++ taken, hs.trans hs₂, ?_⟩
        intro bytes hbytes
        cases r₂ with
        | error e => simp [Except.map] at hbytes
        | ok rest =>
          rw [htaken rest rfl] at hbytes
          simpa [Except.map] using hbytes.symm

/-! ## Driving and closing -/

theorem update_steps [Separate β] {budget : Nat} {c c' : Client β slots} {r : Except Error EngineState}
    (h : c.update budget = some (r, c')) : Steps c {} c' := by
  unfold update at h
  cases hguard : c.lifecycle.mayPump with
  | error e =>
    rw [hguard] at h
    cases h
    exact .refl
  | ok u =>
    rw [hguard] at h
    obtain ⟨⟨state, c₁⟩, hpump, heq⟩ := Option.map_eq_some_iff.1 h
    obtain ⟨hs, -⟩ := pump_spec (Lifecycle.mayPump_ok hguard) hpump
    have hc : c₁ = c' := by
      simp only at heq
      split_ifs at heq <;> exact congrArg Prod.snd heq
    exact hc ▸ hs

theorem runUntil_steps [Separate β] {budget : Nat} {target : EngineState} {c c' : Client β slots}
    {r : Except Error Unit} (h : c.runUntil budget target = some (r, c')) : Steps c {} c' := by
  unfold runUntil at h
  cases hguard : c.lifecycle.mayPump with
  | error e =>
    rw [hguard] at h
    cases h
    exact .refl
  | ok u =>
    rw [hguard] at h
    exact (drive_spec (Lifecycle.mayPump_ok hguard) h).1

theorem flush_steps [Separate β] {budget : Nat} {c c' : Client β slots} {r : Except Error Unit}
    (h : c.flush budget = some (r, c')) : Steps c {} c' := by
  unfold flush at h
  cases hguard : c.lifecycle.mayPump with
  | error e =>
    rw [hguard] at h
    cases h
    exact .refl
  | ok u =>
    rw [hguard] at h
    simp only at h
    split_ifs at h with hpending
    · cases h
      exact .refl
    · exact (drive_spec (Lifecycle.mayPump_ok hguard) h).1

/-- a stop comes to its end with a teardown, whatever goes before -/
theorem stop_spec [Separate β] {budget : Nat} {c c' : Client β slots} (h : c.stop budget = some c') :
    ∃ flow c₁, Steps c flow c₁ ∧ flow.stored = [] ∧ flow.taken = [] ∧ c' = c₁.teardown := by
  simp only [stop] at h
  split_ifs at h with hopen hup
  · obtain ⟨c₁, hclose, rfl⟩ := Option.map_eq_some_iff.1 h
    obtain ⟨⟨r, c₂⟩, hflush, rfl⟩ := Option.map_eq_some_iff.1 hclose
    have hconnected : c.lifecycle.engineConnected = true := by
      simp only [Bool.and_eq_true] at hopen
      exact hopen.1.1
    have hpoll : Steps c {} c.polled := Step.poll.steps
    have hs := (hpoll.snoc (.closing hconnected)).quiet (.drop (Engine.state c.board) rfl)
    exact ⟨_, _, hs.trans (flush_steps hflush), rfl, rfl, rfl⟩
  · cases h
    exact ⟨_, _, Step.poll.steps, rfl, rfl, rfl⟩
  · cases h
    exact ⟨_, _, .refl, rfl, rfl, rfl⟩

theorem connected_steps [Separate β] (c : Client β slots) : Steps c {} c.connected.2 := by
  simp only [connected]
  split_ifs with h
  · simp only [Bool.and_eq_true, Bool.not_eq_true'] at h
    obtain ⟨⟨hup, hopen⟩, hdown⟩ := h
    have hflags : c.polled.flags = c.flags := Separate.connected_state c.board
    exact (Step.failed (.peerGone hup (hflags ▸ hopen) hdown)).steps
  · exact Step.poll.steps

/-! ## All requests -/

/-- how a request agrees with its reply on the plaintext that was moved -/
structure Fits (request : Request) (reply : Reply) (flow : Flow) : Prop where
  /-- what was stored is the beginning of what was to be written -/
  stored : flow.stored <+: request.offered
  /-- a write that succeeds has stored everything -/
  all : reply.error? = none → flow.stored = request.offered
  /-- what was taken was returned, unless a buffer could not be filled -/
  taken : flow.taken = reply.returned ∨ ∃ length e, request = .readExact length ∧ reply = .filled (.error e)
  /-- only a stop begins a shutdown -/
  closes : flow.closes = true → request = .stop

/-- a request that moves no plaintext -/
theorem Fits.of_quiet {request : Request} {reply : Reply} (hoffered : request.offered = [])
    (hreturned : reply.returned = []) : Fits request reply {} :=
  ⟨List.nil_prefix, fun _ => hoffered.symm, .inl hreturned.symm, nofun⟩

theorem Took.fits {request : Request} {c c' : Client β slots} {r : Except Error Bytes} (hoffered : request.offered = [])
    (h : Took c r c') : ∃ flow, Steps c flow c' ∧ Fits request (.bytes r) flow := by
  cases h with
  | bytes hs => exact ⟨_, hs, List.nil_prefix, fun _ => hoffered.symm, .inl rfl, nofun⟩
  | error hs => exact ⟨_, hs, .of_quiet hoffered rfl⟩

/-- a write takes all of its data or fails, whatever form its answer is given -/
theorem Wrote.fits {request : Request} {c c' : Client β slots} {r : Except Error Nat} {reply : Reply}
    (h : Wrote c request.offered r c') (hreturned : reply.returned = [])
    (herror : ∀ e, r = .error e → reply.error? ≠ none) :
    ∃ flow, Steps c flow c' ∧ Fits request reply flow := by
  cases h with
  | refused =>
    exact ⟨{}, .refl, List.nil_prefix, fun h => absurd h (herror _ rfl), .inl hreturned.symm, nofun⟩
  | all hs => exact ⟨_, hs, List.prefix_refl _, fun _ => rfl, .inl hreturned.symm, nofun⟩
  | part hs hpart =>
    exact ⟨_, hs, hpart, fun h => absurd h (herror _ rfl), .inl hreturned.symm, nofun⟩

/-- a call that writes and fails is the last one that could write -/
theorem perform_over [Separate β] {budget : Nat} {c c' : Client β slots} {request : Request} {reply : Reply}
    (hwrites : request.writes = true) (hfailed : reply.error?.isSome = true)
    (h : c.perform budget request = some (reply, c')) : c'.Over := by
  cases request with
  | write data =>
    obtain ⟨⟨r, c₁⟩, hwrite, heq⟩ := Option.map_eq_some_iff.1 h
    cases heq
    cases r with
    | error e => exact (write_spec hwrite).over
    | ok count => simp [Reply.error?] at hfailed
  | writeAll data =>
    obtain ⟨⟨r, c₁⟩, hall, heq⟩ := Option.map_eq_some_iff.1 h
    cases heq
    unfold writeAll at hall
    split_ifs at hall with hdata
    · cases hall
      simp [Reply.error?] at hfailed
    · obtain ⟨⟨r₂, c₂⟩, hwrite, heq⟩ := Option.map_eq_some_iff.1 hall
      cases heq
      cases r₂ with
      | error e => exact (write_spec hwrite).over
      | ok count => simp [Reply.error?, Except.map] at hfailed
  | _ => simp [Request.writes] at hwrites

/-- **Every request but a connect is a sequence of steps**, and moves the plaintext that its reply tells. -/
theorem perform_steps [Separate β] {budget : Nat} {c c' : Client β slots} {request : Request} {reply : Reply}
    (hconnect : request.opens = false) (h : c.perform budget request = some (reply, c')) :
    ∃ flow, Steps c flow c' ∧ Fits request reply flow := by
  cases request with
  | connect => simp [Request.opens] at hconnect
  | write data =>
    obtain ⟨⟨r, c₁⟩, hwrite, heq⟩ := Option.map_eq_some_iff.1 h
    cases heq
    exact (write_spec hwrite).fits rfl (by rintro e rfl; simp [Reply.error?])
  | writeAll data =>
    obtain ⟨⟨r, c₁⟩, hall, heq⟩ := Option.map_eq_some_iff.1 h
    cases heq
    unfold writeAll at hall
    split_ifs at hall with hdata
    · cases hall
      rw [List.isEmpty_iff] at hdata
      exact ⟨{}, .refl, .of_quiet hdata rfl⟩
    · obtain ⟨⟨r₂, c₂⟩, hwrite, heq⟩ := Option.map_eq_some_iff.1 hall
      cases heq
      exact (write_spec hwrite).fits rfl (by rintro e rfl; simp [Reply.error?, Except.map])
  | read room =>
    obtain ⟨⟨r, c₁⟩, hread, heq⟩ := Option.map_eq_some_iff.1 h
    cases heq
    exact (read_spec hread).fits rfl
  | blockingRead room =>
    obtain ⟨⟨r, c₁⟩, hread, heq⟩ := Option.map_eq_some_iff.1 h
    cases heq
    exact (blockingRead_spec hread).fits rfl
  | readExact length =>
    obtain ⟨⟨r, c₁⟩, hread, heq⟩ := Option.map_eq_some_iff.1 h
    cases heq
    obtain ⟨taken, hs, htaken⟩ := readExact_spec hread
    refine ⟨_, hs, List.nil_prefix, fun _ => rfl, ?_, nofun⟩
    cases r with
    | ok bytes => exact .inl (htaken bytes rfl).symm
    | error e => exact .inr ⟨length, e, rfl, rfl⟩
  | connected =>
    cases h
    exact ⟨_, connected_steps c, .of_quiet rfl rfl⟩
  | stop =>
    obtain ⟨c₁, hstop, heq⟩ := Option.map_eq_some_iff.1 h
    cases heq
    obtain ⟨flow, c₂, hs, hstored, htaken, rfl⟩ := stop_spec hstop
    refine ⟨flow, hs.quiet .down, ?_, fun _ => hstored, .inl htaken, fun _ => rfl⟩
    rw [hstored]
    exact List.nil_prefix
  | flush =>
    obtain ⟨⟨r, c₁⟩, hflush, heq⟩ := Option.map_eq_some_iff.1 h
    cases heq
    exact ⟨_, flush_steps hflush, .of_quiet rfl rfl⟩
  | peek =>
    obtain ⟨⟨r, c₁⟩, hpeek, heq⟩ := Option.map_eq_some_iff.1 h
    cases heq
    exact ⟨_, peek_steps hpeek, .of_quiet rfl rfl⟩
  | available =>
    obtain ⟨⟨r, c₁⟩, havail, heq⟩ := Option.map_eq_some_iff.1 h
    cases heq
    exact ⟨_, available_steps havail, .of_quiet rfl rfl⟩
  | update =>
    obtain ⟨⟨r, c₁⟩, hupdate, heq⟩ := Option.map_eq_some_iff.1 h
    cases heq
    exact ⟨_, update_steps hupdate, .of_quiet rfl rfl⟩
  | runUntil target =>
    obtain ⟨⟨r, c₁⟩, hrun, heq⟩ := Option.map_eq_some_iff.1 h
    cases heq
    exact ⟨_, runUntil_steps hrun, .of_quiet rfl rfl⟩
  | readReady =>
    obtain ⟨⟨r, c₁⟩, hready, heq⟩ := Option.map_eq_some_iff.1 h
    cases heq
    exact ⟨_, readReady_steps hready, .of_quiet rfl rfl⟩

end Client

end TlsClient

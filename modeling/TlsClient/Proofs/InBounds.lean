/-
No request touches a buffer out of range.

The client of the other modules works on lists and drops what does not fit. Here it works by position, behind a guard
that writes down each slice, index, copy and difference of lengths before it is made: what it copies in a write and in a
read, and the entries it looks up and takes out of its session cache. The guard of `Guarded` writes down the rest.
- `InStep`: a client behind an intact guard, and the same client without it;
- `SessionCache.notedFind?`, `SessionCache.notedRemember`: the cache by position;
- `notedTake`, `notedWrite`, `notedConnect`, …: the operations of the client by position;
- `InStep.write`, `InStep.readExact`, …: each of them keeps in step with the operation on lists;
- `NotedUnderway`: the clients that a request passes, whether or not it comes back;
- `accesses_in_range`: every request keeps in step, from every state of a client and a board, and every access is in
  range, also in a request that does not come back.
-/
import TlsClient.Proofs.GuardedBoard
import TlsClient.Proofs.Underway

namespace TlsClient

namespace Bytes

/-- `count` bytes from a position on -/
def part (bytes : Bytes) (start count : Nat) : Bytes := (bytes.drop start).take count

theorem length_part {bytes : Bytes} {start count : Nat} (h : start + count ≤ bytes.length) :
    (part bytes start count).length = count := by
  simp only [part, List.length_take, List.length_drop]
  omega

end Bytes

/-! ## The session cache by position -/

namespace SessionCache

variable {slots : Nat}

/-- look the valid session of a host up by its position -/
def notedFind? (c : SessionCache slots) : Option String → List Access × Option Session
  | none => ([], none)
  | some name =>
    match c.entries.findIdx? fun s => s.valid && s.isFor name with
    | none => ([], none)
    | some index => ([.element index c.entries.length], c.entries[index]?)

/-- take the entry of a host out by its position -/
def notedRemove (c : SessionCache slots) (name : String) : List Access × SessionCache slots :=
  match c.entries.findIdx? (·.isFor name) with
  | none => ([], c)
  | some index => ([.element index c.entries.length], ⟨c.entries.eraseIdx index⟩)

/-- take the first entry out if no slot is free -/
def notedMakeRoom (c : SessionCache slots) : List Access × SessionCache slots :=
  if slots ≤ c.entries.length then ([.element 0 c.entries.length], ⟨c.entries.eraseIdx 0⟩) else ([], c)

/-- append a new entry, and note how room was made for it -/
def notedAppend (c : SessionCache slots) (name : String) (p : SessionParameters) :
    List Access × Bool × SessionCache slots :=
  match Session.new? (some name) with
  | none => ([], false, c)
  | some fresh =>
    let s := fresh.store p
    if s.valid then (c.notedMakeRoom.1, true, ⟨c.notedMakeRoom.2.entries ++ [s]⟩) else ([], false, c)

/-- keep the parameters of a handshake, and note which entries were taken out -/
def notedRemember (c : SessionCache slots) (name : String) (p : SessionParameters) :
    List Access × Bool × SessionCache slots :=
  if slots = 0 then ([], false, c)
  else if !p.resumable then ((c.notedRemove name).1, false, (c.notedRemove name).2)
  else match c.entries.find? (·.isFor name) with
    | some s => ([], (s.store p).valid, ⟨changeFirst (·.isFor name) (·.store p) c.entries⟩)
    | none => c.notedAppend name p

theorem notedFind?_snd (c : SessionCache slots) (host : Option String) : (c.notedFind? host).2 = c.find? host := by
  cases host with
  | none => rfl
  | some name =>
    rw [find?, List.find?_eq_bind_findIdx?_getElem?, notedFind?]
    cases c.entries.findIdx? fun s => s.valid && s.isFor name <;> rfl

theorem notedRemove_snd (c : SessionCache slots) (name : String) : (c.notedRemove name).2 = c.remove (some name) := by
  rw [remove, List.eraseP_eq_eraseIdx, notedRemove]
  cases c.entries.findIdx? (·.isFor name) <;> rfl

theorem notedMakeRoom_snd (c : SessionCache slots) : c.notedMakeRoom.2 = c.makeRoom := by
  unfold notedMakeRoom makeRoom
  split_ifs
  · rw [List.eraseIdx_zero]
  · rfl

theorem notedAppend_snd (c : SessionCache slots) (name : String) (p : SessionParameters) :
    (c.notedAppend name p).2 = c.append name p := by
  unfold notedAppend append
  cases Session.new? (some name) with
  | none => rfl
  | some fresh =>
    simp only [notedMakeRoom_snd]
    split_ifs <;> rfl

/-- **To forget what was noted gives the cache.** -/
theorem notedRemember_snd (c : SessionCache slots) (name : String) (p : SessionParameters) :
    (c.notedRemember name p).2 = c.remember name p := by
  unfold notedRemember remember
  split_ifs
  · rfl
  · rw [notedRemove_snd]
  · cases c.entries.find? (·.isFor name) with
    | some s => rfl
    | none => exact c.notedAppend_snd name p

/-- a position that was found is one of the list -/
theorem findIdx?_inRange {α : Type} {entries : List α} {test : α → Bool} {index : Nat}
    (h : entries.findIdx? test = some index) : (Access.element index entries.length).InRange :=
  (List.findIdx?_eq_some_iff_getElem.1 h).1

theorem notedFind?_inRange (c : SessionCache slots) (host : Option String) :
    ∀ a ∈ (c.notedFind? host).1, a.InRange := by
  cases host with
  | none => simp [notedFind?]
  | some name =>
    cases hindex : c.entries.findIdx? fun s => s.valid && s.isFor name with
    | none => simp [notedFind?, hindex]
    | some index => simpa [notedFind?, hindex] using findIdx?_inRange hindex

theorem notedRemove_inRange (c : SessionCache slots) (name : String) : ∀ a ∈ (c.notedRemove name).1, a.InRange := by
  cases hindex : c.entries.findIdx? (·.isFor name) with
  | none => simp [notedRemove, hindex]
  | some index => simpa [notedRemove, hindex] using findIdx?_inRange hindex

/-- a cache that has slots, and none of them free, has an oldest entry -/
theorem notedMakeRoom_inRange (c : SessionCache slots) (hslots : slots ≠ 0) :
    ∀ a ∈ c.notedMakeRoom.1, a.InRange := by
  unfold notedMakeRoom
  split_ifs with hfull
  · have hsome : (Access.element 0 c.entries.length).InRange := Nat.lt_of_lt_of_le (Nat.pos_of_ne_zero hslots) hfull
    simpa using hsome
  · simp

theorem notedRemember_inRange (c : SessionCache slots) (name : String) (p : SessionParameters) :
    ∀ a ∈ (c.notedRemember name p).1, a.InRange := by
  unfold notedRemember
  split_ifs with hslots
  · simp
  · exact c.notedRemove_inRange name
  · cases c.entries.find? (·.isFor name) with
    | some s => simp
    | none =>
      simp only [notedAppend]
      cases Session.new? (some name) with
      | none => simp
      | some fresh =>
        simp only
        split_ifs
        · exact c.notedMakeRoom_inRange hslots
        · simp

end SessionCache

namespace Client

variable {slots : Nat}

/-! ## Behind a guard -/

/-- the client behind a guard that has seen nothing yet -/
def guard (c : Client SimBoard slots) : Client Guarded slots := c.onto ⟨c.board, []⟩

/-- the client without its guard -/
def unguard (c : Client Guarded slots) : Client SimBoard slots := c.onto c.board.board

/-- accesses of the client itself -/
def note (accesses : List Access) (c : Client Guarded slots) : Client Guarded slots :=
  { c with board := c.board.note accesses }

/-- a client behind an intact guard, and the same client without it -/
abbrev InStep (c : Client Guarded slots) (d : Client SimBoard slots) : Prop := Alike Guarded.likeness c d

theorem InStep.of_guard (c : Client SimBoard slots) : InStep c.guard c :=
  .onto ⟨rfl, fun _ ha => nomatch ha⟩

theorem InStep.unguard {c : Client Guarded slots} {d : Client SimBoard slots} (h : InStep c d) : c.unguard = d := by
  cases h with
  | onto h =>
    have hboard : _ = c.board.board := Guarded.Around.board h
    rw [hboard]
    rfl

theorem InStep.intact {c : Client Guarded slots} {d : Client SimBoard slots} (h : InStep c d) : c.board.Intact :=
  Guarded.Around.intact (Alike.board h)

theorem InStep.note {c : Client Guarded slots} {d : Client SimBoard slots} (h : InStep c d) {accesses : List Access}
    (haccesses : ∀ a ∈ accesses, a.InRange) : InStep (c.note accesses) d := by
  cases h with
  | onto h => exact .onto (Guarded.Around.note h haccesses)

/-! ## Reading by position -/

/-- what it takes to copy unread plaintext into a buffer of `room` bytes -/
def takeAccesses (room : Nat) (unread : Bytes) : List Access :=
  let count := min room unread.length
  [.front count room, .front count unread.length, .copy (min count room) (unread.take count).length]

/-- take up to `room` decrypted bytes -/
def notedTake (room : Nat) (c : Client Guarded slots) : Bytes × Client Guarded slots :=
  (c.note (takeAccesses room (Engine.recvAppBuf c.board))).takeUnread room

/-- take up to `room` decrypted bytes; none if nothing has arrived yet -/
def notedRead (budget room : Nat) (c : Client Guarded slots) : Result Guarded slots Bytes :=
  if room = 0 then some (.ok [], c)
  else
    (c.available budget).andThen fun count c =>
      if count = 0 then some (.ok [], c)
      else
        let taken := c.notedTake room
        some (.ok taken.1, taken.2)

/-- wait for data and take up to `room` bytes of it -/
def notedBlockingRead (budget room : Nat) (c : Client Guarded slots) : Result Guarded slots Bytes :=
  if room = 0 then some (.ok [], c)
  else
    match c.lifecycle.softConnected (Engine.state c.board) with
    | .error .engineClosed => some (.ok [], c)
    | .error e => some (.error e, c)
    | .ok () =>
      (c.drive budget { recvApp := true }).map fun r =>
        match r.1 with
        | .ok () =>
          let taken := r.2.notedTake room
          (.ok taken.1, taken.2)
        | .error .engineClosed => (.ok [], r.2)
        | .error e => (.error e, r.2)

/-- read until `length` bytes are there; what was read is cut off the buffer -/
def notedReadExact (budget length : Nat) (c : Client Guarded slots) :
    Option (Except FillError Bytes × Client Guarded slots) :=
  if length = 0 then some (.ok [], c)
  else
    match c.notedBlockingRead budget length with
    | none => none
    | some (.error e, c) => some (.error (.error e), c)
    | some (.ok [], c) => some (.error .unexpectedEof, c)
    | some (.ok (byte :: more), c) =>
      ((c.note [.slice (more.length + 1) length length]).notedReadExact budget (length - (more.length + 1))).map
        fun r => (r.1.map ((byte :: more) ++ ·), r.2)
termination_by length

/-! ## Writing by position -/

/-- how much of the data behind a position fits into a window behind another one -/
def fitting (capacity start : Nat) (data : Bytes) (copied : Nat) : Nat := min (capacity - start) (data.length - copied)

/-- what it takes to copy data from a position on into a window from another one on -/
def storeAccesses (window : Bytes) (start : Nat) (data : Bytes) (copied : Nat) : List Access :=
  let count := fitting window.length start data copied
  [.difference window.length start, .difference data.length copied, .slice start (start + count) window.length,
    .slice copied (copied + count) data.length,
    .copy (Bytes.part window start count).length (Bytes.part data copied count).length]

/-- hand over and wait; then go on from the same position -/
def notedAwait (budget copied : Nat) (c : Client Guarded slots) :
    Option (Turn (Nat × Client Guarded slots) (Except Error Unit × Client Guarded slots)) :=
  (c.handStored.drive budget { sendApp := true }).map fun r =>
    match r.1 with
    | .ok () => .again (copied, r.2)
    | .error e => .done (.error e, r.2)

/-- one turn of a write of `data`, of which so many bytes are copied; an access out of range ends it -/
def notedTurn (budget : Nat) (data : Bytes) (job : Nat × Client Guarded slots) :
    Option (Turn (Nat × Client Guarded slots) (Except Error Unit × Client Guarded slots)) :=
  let copied := job.1
  let c := job.2
  if copied < data.length then
    let state := Engine.state c.board
    let window := Engine.sendAppBuf c.board
    let capacity := window.1.length
    let c := { c with board := window.2 }
    if c.backlog.pending < capacity then
      let count := fitting capacity c.backlog.pending data copied
      let c := c.note (storeAccesses window.1 c.backlog.pending data copied)
      if c.board.Intact then
        let c := c.storePlaintext capacity (Bytes.part data copied count)
        if c.backlog.pending < capacity then some (.again (copied + count, c))
        else c.notedAwait budget (copied + count)
      else some (.done (.error (.status .internal), c))
    else if capacity < c.backlog.pending then some (.done (.error (.status .internal), c.fail .internal))
    else if capacity = 0 && state.sendApp then some (.done (.error (.status .engineWrite), c.fail .engineWrite))
    else c.notedAwait budget copied
  else some (.done (.ok (), c))

/-- store `data` for sending; answers its length -/
def notedWrite (budget : Nat) (data : Bytes) (c : Client Guarded slots) : Result Guarded slots Nat :=
  match c.lifecycle.softConnected (Engine.state c.board) with
  | .error e => some (.error e, c)
  | .ok () => (repeatTurn (notedTurn budget data) budget (0, c)).map fun r => (r.1.map fun () => data.length, r.2)

/-- write all of `data`; what was written is cut off it -/
def notedWriteAll (budget : Nat) (data : Bytes) (c : Client Guarded slots) : Result Guarded slots Unit :=
  if data.isEmpty then some (.ok (), c)
  else
    (c.notedWrite budget data).andThen fun count c => some (.ok (), c.note [.slice count data.length data.length])

/-! ## Connecting by position -/

/-- offer the session remembered for the server, if there is one -/
def notedOffer (server : Option String) (c : Client Guarded slots) : Client Guarded slots :=
  let found := c.sessions.notedFind? server
  let c := c.note found.1
  match found.2 with
  | some s => { c with board := Engine.offer s.parameters c.board }
  | none => c

/-- remember the session the engine ended up with; a server without a name has none -/
def notedKeep (server : Option String) (c : Client Guarded slots) : Client Guarded slots :=
  match server with
  | some name =>
    let kept := c.sessions.notedRemember name (Engine.sessionParameters c.board)
    { c.note kept.1 with sessions := kept.2.2 }
  | none => c

/-- the handshake is over -/
def notedConclude (server : Option String) (waited : Except Error Unit × Client Guarded slots) :
    Except Error Unit × Client Guarded slots :=
  match waited with
  | (.ok (), c) => (.ok (), notedKeep server { c with lifecycle := c.lifecycle.established })
  | (.error e, c) => concludeHandshake server (.error e, c)

/-- the engine has its entropy, and the session to resume if there is one -/
def notedPrepared (entropy : Bytes) (server : Option String) (c : Client Guarded slots) : Client Guarded slots :=
  { c with lifecycle := c.lifecycle.beginHandshake, board := Engine.injectEntropy entropy c.board }.notedOffer server

/-- run the handshake over an open socket -/
def notedHandshake (budget : Nat) (entropy : Bytes) (server : Option String) (c : Client Guarded slots) :
    Result Guarded slots Unit :=
  let c := c.notedPrepared entropy server
  match (Engine.reset server c.board).1 with
  | .error _ => some (.error (.status .engineConnect), (c.started server).fail .engineConnect)
  | .ok () => ((c.started server).drive budget { sendApp := true }).map (notedConclude server)

/-- open a connection to a host and complete a handshake -/
def notedConnect (budget : Nat) (draw : Nat → Bytes) (host : Host) (portNumber : Nat) (c : Client Guarded slots) :
    Result Guarded slots Unit :=
  if (Transport.connected c.board).1 then some (.error .alreadyConnected, c.polled)
  else
    match (Transport.connect host portNumber c.polled.board).1 with
    | .error _ =>
      some (.error (.status .transportConnect),
        { c.dialled host portNumber with lifecycle := (c.dialled host portNumber).lifecycle.fail .transportConnect })
    | .ok () => (c.dialled host portNumber).notedHandshake budget (draw entropyLength) host.name?

/-- run one request; those that touch no buffer themselves are as they were -/
def notedPerform (budget : Nat) (c : Client Guarded slots) : Request → Option (Reply × Client Guarded slots)
  | .connect host portNumber draw => (c.notedConnect budget draw host portNumber).map fun r => (.done r.1, r.2)
  | .write data => (c.notedWrite budget data).map fun r => (.count r.1, r.2)
  | .read room => (c.notedRead budget room).map fun r => (.bytes r.1, r.2)
  | .blockingRead room => (c.notedBlockingRead budget room).map fun r => (.bytes r.1, r.2)
  | .readExact length => (c.notedReadExact budget length).map fun r => (.filled r.1, r.2)
  | .writeAll data => (c.notedWriteAll budget data).map fun r => (.done r.1, r.2)
  | request => c.perform budget request

/-! ## In step -/

section Reading

variable {c : Client Guarded slots} {d : Client SimBoard slots}

theorem takeAccesses_inRange (room : Nat) (unread : Bytes) : ∀ a ∈ takeAccesses room unread, a.InRange := by
  intro a ha
  simp only [takeAccesses, List.mem_cons, List.not_mem_nil, or_false] at ha
  rcases ha with rfl | rfl | rfl
  · exact Access.front_inRange (Nat.min_le_left _ _)
  · exact Access.front_inRange (Nat.min_le_right _ _)
  · simp only [Access.InRange, List.length_take]
    omega

theorem InStep.take (h : InStep c d) (room : Nat) : Agree InStep (c.notedTake room) (d.takeUnread room) :=
  Alike.takeUnread (h.note (takeAccesses_inRange room _)) room

theorem InStep.read (h : InStep c d) (budget room : Nat) :
    Option.Rel (Agree InStep) (c.notedRead budget room) (d.read budget room) := by
  unfold notedRead Client.read
  split_ifs
  · exact .some ⟨rfl, h⟩
  apply rel_andThen (Alike.available h budget)
  intro count c' d' h'
  split_ifs
  · exact .some ⟨rfl, h'⟩
  · exact .some ((InStep.take h' room).reply Except.ok)

theorem InStep.blockingRead (h : InStep c d) (budget room : Nat) :
    Option.Rel (Agree InStep) (c.notedBlockingRead budget room) (d.blockingRead budget room) := by
  simp only [notedBlockingRead, Client.blockingRead, Alike.lifecycle h, Alike.state h]
  split_ifs
  · exact .some ⟨rfl, h⟩
  cases c.lifecycle.softConnected (Engine.state c.board) with
  | error e => cases e <;> exact .some ⟨rfl, h⟩
  | ok u =>
    apply rel_map_agree (Alike.drive h budget { recvApp := true })
    intro waited c' d' h'
    cases waited with
    | ok u => exact (InStep.take h' room).reply Except.ok
    | error e => cases e <;> exact ⟨rfl, h'⟩

end Reading

/-- a read answers no more bytes than there is room for -/
theorem blockingRead_length {β : Type} [Board β] {budget room : Nat} {c c' : Client β slots} {bytes : Bytes}
    (h : c.blockingRead budget room = some (.ok bytes, c')) : bytes.length ≤ room := by
  unfold Client.blockingRead at h
  split_ifs at h
  · cases h
    exact Nat.zero_le _
  cases hguard : c.lifecycle.softConnected (Engine.state c.board) with
  | error e =>
    rw [hguard] at h
    cases e <;> cases h
    exact Nat.zero_le _
  | ok u =>
    rw [hguard] at h
    obtain ⟨⟨waited, c₁⟩, -, heq⟩ := Option.map_eq_some_iff.1 h
    cases waited with
    | ok u =>
      cases heq
      exact List.length_take_le room _
    | error e =>
      cases e <;> cases heq
      exact Nat.zero_le _

/-- a buffer is filled in step: by induction on what is left to fill, which no read exceeds -/
theorem InStep.readExact {c : Client Guarded slots} {d : Client SimBoard slots} (h : InStep c d)
    (budget length : Nat) : Option.Rel (Agree InStep) (c.notedReadExact budget length) (d.readExact budget length) := by
  induction length using Nat.strongRecOn generalizing c d with
  | ind length ih =>
    have hread := InStep.blockingRead h budget length
    have hbound := @blockingRead_length slots SimBoard _ budget length d
    rw [notedReadExact, Client.readExact]
    split_ifs
    · exact .some ⟨rfl, h⟩
    generalize c.notedBlockingRead budget length = x at hread ⊢
    generalize d.blockingRead budget length = y at hread hbound ⊢
    cases hread with
    | none => exact .none
    | some hread =>
      obtain ⟨r, c', d', rfl, rfl, h'⟩ := hread.parts
      rcases r with e | _ | ⟨byte, more⟩
      · exact .some ⟨rfl, h'⟩
      · exact .some ⟨rfl, h'⟩
      · have hcut : (Access.slice (more.length + 1) length length).InRange := ⟨hbound rfl, Nat.le_refl _⟩
        have hnoted : InStep (c'.note [.slice (more.length + 1) length length]) d' :=
          InStep.note h' (by simpa using hcut)
        apply rel_map_agree (ih (length - (more.length + 1)) (by omega) hnoted)
        intro rest c'' d'' h''
        exact ⟨rfl, h''⟩

section Writing

variable {c : Client Guarded slots} {d : Client SimBoard slots} {data : Bytes}

theorem storeAccesses_inRange {window : Bytes} {start copied : Nat} (hroom : start < window.length)
    (hleft : copied ≤ data.length) : ∀ a ∈ storeAccesses window start data copied, a.InRange := by
  have htarget : start + fitting window.length start data copied ≤ window.length := by
    unfold fitting
    omega
  have hsource : copied + fitting window.length start data copied ≤ data.length := by
    unfold fitting
    omega
  intro a ha
  simp only [storeAccesses, List.mem_cons, List.not_mem_nil, or_false] at ha
  rcases ha with rfl | rfl | rfl | rfl | rfl
  · exact Nat.le_of_lt hroom
  · exact hleft
  · exact ⟨Nat.le_add_right _ _, htarget⟩
  · exact ⟨Nat.le_add_right _ _, hsource⟩
  · exact (Bytes.length_part hsource).trans (Bytes.length_part htarget).symm

/-- what fits is what a window takes of a list -/
theorem storePlaintext_part {β : Type} [Board β] (c : Client β slots) (capacity : Nat) (copied : Nat) :
    c.storePlaintext capacity (Bytes.part data copied (fitting capacity c.backlog.pending data copied)) =
      c.storePlaintext capacity (data.drop copied) := by
  have htake :
      (Bytes.part data copied (fitting capacity c.backlog.pending data copied)).take (capacity - c.backlog.pending) =
        (data.drop copied).take (capacity - c.backlog.pending) := by
    rw [List.take_eq_take_min (l := data.drop copied), List.length_drop, Bytes.part, List.take_take]
    congr 1
    unfold fitting
    omega
  simp only [storePlaintext, htake]

/-- what is left of a list behind what fits -/
theorem drop_fitting {capacity start copied : Nat} :
    (data.drop copied).drop (capacity - start) = data.drop (copied + fitting capacity start data copied) := by
  rw [List.drop_eq_drop_min, List.drop_drop, List.length_drop]
  rfl

/-- a write at a position of its data, and the same write with the rest of it -/
structure Copying (data : Bytes) (job : Nat × Client Guarded slots) (job' : Bytes × Client SimBoard slots) : Prop where
  position : job.1 ≤ data.length
  rest : job'.1 = data.drop job.1
  clients : InStep job.2 job'.2

theorem InStep.await (h : InStep c d) (budget : Nat) {copied : Nat} (hposition : copied ≤ data.length) :
    Option.Rel (Turn.Rel (Copying data) (Agree InStep)) (c.notedAwait budget copied)
      (d.awaitWindow budget (data.drop copied)) := by
  apply rel_map_agree (Alike.drive (Alike.handStored h) budget { sendApp := true })
  intro waited c' d' h'
  cases waited with
  | error e => exact .done ⟨rfl, h'⟩
  | ok u => exact .again ⟨hposition, rfl, h'⟩

/-- what fits is copied, and noted before -/
theorem InStep.store {b : SimBoard} (h : Guarded.likeness.like c.pending c.board b) {copied : Nat}
    (hroom : c.backlog.pending < (Engine.sendAppBuf c.board).1.length) (hposition : copied ≤ data.length) :
    InStep
      (({ c with board := (Engine.sendAppBuf c.board).2 }.note
          (storeAccesses (Engine.sendAppBuf c.board).1 c.backlog.pending data copied)).storePlaintext
        (Engine.sendAppBuf c.board).1.length
        (Bytes.part data copied (fitting (Engine.sendAppBuf c.board).1.length c.backlog.pending data copied)))
      ((c.onto (Engine.sendAppBuf b).2).storePlaintext (Engine.sendAppBuf c.board).1.length (data.drop copied)) := by
  have hnoted := InStep.note (.onto h) (storeAccesses_inRange hroom hposition)
  have hstored := Alike.storePlaintext hnoted (data.drop copied) (Nat.le_of_lt hroom)
  rw [← storePlaintext_part] at hstored
  exact hstored

/-- one turn of a write: both have no more to copy, both fill the window up, or both find no room in it -/
theorem Copying.turn {job : Nat × Client Guarded slots} {job' : Bytes × Client SimBoard slots}
    (h : Copying data job job') (budget : Nat) :
    Option.Rel (Turn.Rel (Copying data) (Agree InStep)) (notedTurn budget data job) (writeTurn budget job') := by
  obtain ⟨copied, c⟩ := job
  obtain ⟨rest, d⟩ := job'
  obtain ⟨hposition, hrest, hclients⟩ := h
  simp only at hposition hrest hclients
  subst hrest
  cases hclients with
  | @onto b h =>
  obtain ⟨hlength, hopened⟩ := Guarded.likeness.sendAppBuf h
  have hwindow : InStep { c with board := (Engine.sendAppBuf c.board).2 } (c.onto (Engine.sendAppBuf b).2) :=
    .onto hopened
  simp only [notedTurn, writeTurn, Guarded.likeness.state h, hlength, List.isEmpty_iff, List.drop_eq_nil_iff]
  by_cases hleft : copied < data.length
  case neg =>
    rw [if_neg hleft, if_pos (Nat.le_of_not_lt hleft)]
    exact .some (.done ⟨rfl, .onto h⟩)
  rw [if_pos hleft, if_neg (Nat.not_le_of_lt hleft)]
  by_cases hroom : c.backlog.pending < (Engine.sendAppBuf c.board).1.length
  case neg =>
    rw [if_neg hroom, if_neg hroom]
    split_ifs
    · exact .some (.done ⟨rfl, Alike.fail hwindow .internal⟩)
    · exact .some (.done ⟨rfl, Alike.fail hwindow .engineWrite⟩)
    · exact InStep.await hwindow budget hposition
  have hstored := InStep.store h hroom hposition
  have hintact := InStep.intact (InStep.note hwindow (storeAccesses_inRange hroom hposition))
  have hcopied : copied + fitting (Engine.sendAppBuf c.board).1.length c.backlog.pending data copied ≤ data.length := by
    unfold fitting
    omega
  rw [if_pos hroom, if_pos hroom, if_pos hintact, drop_fitting, Alike.backlog hstored]
  split_ifs
  · exact .some (.again ⟨hcopied, rfl, hstored⟩)
  · exact InStep.await hstored budget hcopied

theorem InStep.write (h : InStep c d) (budget : Nat) (data : Bytes) :
    Option.Rel (Agree InStep) (c.notedWrite budget data) (d.write budget data) := by
  simp only [notedWrite, Client.write, Alike.lifecycle h, Alike.state h]
  cases c.lifecycle.softConnected (Engine.state c.board) with
  | error e => exact .some ⟨rfl, h⟩
  | ok u =>
    have hjob : Copying data (0, c) (data, d) := ⟨Nat.zero_le _, rfl, h⟩
    apply rel_map_agree (repeatTurn_rel (fun _ _ h => h.turn budget) budget hjob)
    intro r c' d' h'
    exact ⟨rfl, h'⟩

/-- a write answers the length of its data -/
theorem write_answer {β : Type} [Board β] {budget count : Nat} {c c' : Client β slots}
    (h : c.write budget data = some (.ok count, c')) : count = data.length := by
  unfold Client.write at h
  cases hguard : c.lifecycle.softConnected (Engine.state c.board) with
  | error e => rw [hguard] at h; cases h
  | ok u =>
    rw [hguard] at h
    obtain ⟨⟨r, c₁⟩, -, heq⟩ := Option.map_eq_some_iff.1 h
    cases r <;> cases heq
    rfl

theorem InStep.writeAll (h : InStep c d) (budget : Nat) (data : Bytes) :
    Option.Rel (Agree InStep) (c.notedWriteAll budget data) (d.writeAll budget data) := by
  have hwrite := InStep.write h budget data
  have hanswer {count : Nat} {d' : Client SimBoard slots} (hd : d.write budget data = some (.ok count, d')) :=
    write_answer hd
  unfold notedWriteAll Client.writeAll
  split_ifs
  · exact .some ⟨rfl, h⟩
  generalize c.notedWrite budget data = x at hwrite ⊢
  generalize d.write budget data = y at hwrite hanswer ⊢
  cases hwrite with
  | none => exact .none
  | some hwrite =>
    obtain ⟨r, c', d', rfl, rfl, h'⟩ := hwrite.parts
    cases r with
    | error e => exact .some ⟨rfl, h'⟩
    | ok count =>
      have hcut : (Access.slice count data.length data.length).InRange := ⟨Nat.le_of_eq (hanswer rfl), Nat.le_refl _⟩
      exact .some ⟨rfl, InStep.note h' (by simpa using hcut)⟩

end Writing

section Connecting

variable {c : Client Guarded slots} {d : Client SimBoard slots}

theorem notedOffer_eq (server : Option String) (c : Client Guarded slots) :
    c.notedOffer server = (c.note (c.sessions.notedFind? server).1).offerSession server := by
  simp only [notedOffer, offerSession, SessionCache.notedFind?_snd]
  rfl

theorem notedKeep_eq (name : String) (c : Client Guarded slots) :
    notedKeep (some name) c =
      (keepSession (some name) c).note (c.sessions.notedRemember name (Engine.sessionParameters c.board)).1 := by
  simp only [notedKeep, keepSession, SessionCache.notedRemember_snd]
  rfl

theorem InStep.offer (h : InStep c d) (server : Option String) :
    InStep (c.notedOffer server) (d.offerSession server) := by
  rw [notedOffer_eq]
  exact Alike.offerSession (h.note (c.sessions.notedFind?_inRange server)) server

theorem InStep.keep (h : InStep c d) (server : Option String) : InStep (notedKeep server c) (keepSession server d) := by
  cases server with
  | none => exact h
  | some name =>
    rw [notedKeep_eq]
    exact InStep.note (Alike.keepSession h (some name)) (c.sessions.notedRemember_inRange name _)

theorem InStep.conclude (h : InStep c d) (server : Option String) (waited : Except Error Unit) :
    Agree InStep (notedConclude server (waited, c)) (concludeHandshake server (waited, d)) := by
  cases waited with
  | error e => exact Alike.concludeHandshake h server (.error e)
  | ok u =>
    have hestablished : InStep { c with lifecycle := c.lifecycle.established }
        { d with lifecycle := d.lifecycle.established } := by
      cases h with | onto h => exact .onto h
    exact ⟨rfl, InStep.keep hestablished server⟩

theorem InStep.prepare (h : InStep c d) (entropy : Bytes) (server : Option String) :
    InStep (c.notedPrepared entropy server) (d.prepared entropy server) := by
  have hseeded :
      InStep { c with lifecycle := c.lifecycle.beginHandshake, board := Engine.injectEntropy entropy c.board }
        { d with lifecycle := d.lifecycle.beginHandshake, board := Engine.injectEntropy entropy d.board } := by
    cases h with | onto h => exact .onto (Guarded.likeness.injectEntropy entropy h)
  exact InStep.offer hseeded server

theorem handshake_eq {β : Type} [Board β] (budget : Nat) (entropy : Bytes) (server : Option String)
    (c : Client β slots) :
    c.handshake budget entropy server =
      match (Engine.reset server (c.prepared entropy server).board).1 with
      | .error _ =>
        some (.error (.status .engineConnect), ((c.prepared entropy server).started server).fail .engineConnect)
      | .ok () =>
        (((c.prepared entropy server).started server).drive budget { sendApp := true }).map
          (concludeHandshake server) :=
  rfl

theorem InStep.handshake (h : InStep c d) (budget : Nat) (entropy : Bytes) (server : Option String) :
    Option.Rel (Agree InStep) (c.notedHandshake budget entropy server) (d.handshake budget entropy server) := by
  have hstarted := Alike.started (InStep.prepare h entropy server) server
  rw [notedHandshake, handshake_eq, hstarted.answer]
  cases (Engine.reset server (c.notedPrepared entropy server).board).1 with
  | error e => exact .some ⟨rfl, Alike.fail hstarted.after .engineConnect⟩
  | ok u =>
    apply rel_map_agree (Alike.drive hstarted.after budget { sendApp := true })
    intro waited c' d' h'
    exact InStep.conclude h' server waited

theorem connect_dialled {β : Type} [Board β] (budget : Nat) (draw : Nat → Bytes) (host : Host) (portNumber : Nat)
    (c : Client β slots) :
    c.connect budget draw host portNumber =
      if (Transport.connected c.board).1 then some (.error .alreadyConnected, c.polled)
      else
        match (Transport.connect host portNumber c.polled.board).1 with
        | .error _ =>
          some (.error (.status .transportConnect),
            { c.dialled host portNumber with
              lifecycle := (c.dialled host portNumber).lifecycle.fail .transportConnect })
        | .ok () => (c.dialled host portNumber).handshake budget (draw entropyLength) host.name? :=
  rfl

theorem InStep.connect (h : InStep c d) (budget : Nat) (draw : Nat → Bytes) (host : Host) (portNumber : Nat) :
    Option.Rel (Agree InStep) (c.notedConnect budget draw host portNumber) (d.connect budget draw host portNumber) := by
  have hpolled := Alike.polled h
  have hdialled := Alike.dialled h host portNumber
  rw [notedConnect, connect_dialled, hpolled.answer, hdialled.answer]
  split_ifs
  · exact .some ⟨rfl, hpolled.after⟩
  cases (Transport.connect host portNumber c.polled.board).1 with
  | error e => exact .some ⟨rfl, Alike.recorded hdialled.after .transportConnect⟩
  | ok u => exact InStep.handshake hdialled.after budget (draw entropyLength) host.name?

end Connecting

/-! ## On the way -/

/-- the clients from which the wait in a turn of a write begins: the window was filled up, or had been full before -/
inductive NotedWait (data : Bytes) : Nat × Client Guarded slots → Client Guarded slots → Prop
  | filled {copied c} (hleft : copied < data.length) (hroom : c.pending < c.window.length)
      (hover : c.window.length ≤ c.pending + (data.length - copied)) :
      NotedWait data (copied, c)
        ((c.openWindow.note (storeAccesses c.window c.pending data copied)).storePlaintext c.window.length
          (Bytes.part data copied (fitting c.window.length c.pending data copied))).handStored
  | full {copied c} (hleft : copied < data.length) (hfull : c.window.length = c.pending) :
      NotedWait data (copied, c) c.openWindow.handStored

/-- the clients that a write passes, between its turns and in its waits -/
inductive NotedWriting (budget : Nat) (data : Bytes) (c : Client Guarded slots) : Client Guarded slots → Prop
  | turn {copied c'} (h : Passes (notedTurn budget data) (0, c) (copied, c')) : NotedWriting budget data c c'
  | wait {job c₁ c'} (h : Passes (notedTurn budget data) (0, c) job) (hmove : NotedWait data job c₁)
      (hwait : c₁.Waiting budget { sendApp := true } c') : NotedWriting budget data c c'

/-- The clients that a request passes by position, whether or not it comes back. A request that makes no access of its
own before it comes back passes what it passes on lists. -/
inductive NotedUnderway (budget : Nat) : Client Guarded slots → Request → Client Guarded slots → Prop
  | plain {c c' request} (h : c.Underway budget request c') : NotedUnderway budget c request c'
  | readMore {c c₁ c' length byte more} (hread : c.notedBlockingRead budget length = some (.ok (byte :: more), c₁))
      (h : NotedUnderway budget (c₁.note [.slice (more.length + 1) length length])
        (.readExact (length - (more.length + 1))) c') : NotedUnderway budget c (.readExact length) c'
  | write {c c' data} (hup : c.lifecycle.softConnected c.flags = .ok ()) (h : c.NotedWriting budget data c') :
      NotedUnderway budget c (.write data) c'
  | writeAll {c c' data} (hsome : data ≠ []) (h : NotedUnderway budget c (.write data) c') :
      NotedUnderway budget c (.writeAll data) c'
  | connect {c c' host portNumber draw} (hdown : (Transport.connected c.board).1 = false)
      (hdial : (Transport.connect host portNumber c.polled.board).1 = .ok ())
      (hreset : (Engine.reset host.name?
        ((c.dialled host portNumber).notedPrepared (draw entropyLength) host.name?).board).1 = .ok ())
      (h : (((c.dialled host portNumber).notedPrepared (draw entropyLength) host.name?).started host.name?).Waiting
        budget { sendApp := true } c') : NotedUnderway budget c (.connect host portNumber draw) c'

section Underway

variable {budget : Nat} {data : Bytes} {c c' : Client Guarded slots} {d : Client SimBoard slots}

/-- what a write hands over before it waits is in step -/
theorem Copying.wait {job : Nat × Client Guarded slots} {job' : Bytes × Client SimBoard slots}
    {c₁ : Client Guarded slots} (h : Copying data job job') (hmove : NotedWait data job c₁) :
    ∃ d₁, InStep c₁ d₁ := by
  obtain ⟨hposition, -, hclients⟩ := h
  cases hmove with
  | filled hleft hroom hover =>
    have hstored := InStep.store (Alike.board hclients) hroom hposition
    exact ⟨_, Alike.handStored hstored⟩
  | full hleft hfull =>
    have hopened := (Guarded.likeness.sendAppBuf (Alike.board hclients)).2
    exact ⟨_, Alike.handStored (.onto hopened)⟩

theorem InStep.writing (h : InStep c d) (hwrite : c.NotedWriting budget data c') : ∃ d', InStep c' d' := by
  have hjob : Copying data (0, c) (data, d) := ⟨Nat.zero_le _, rfl, h⟩
  cases hwrite with
  | turn hpasses =>
    obtain ⟨job', -, h'⟩ := hpasses.rel (fun _ _ h => h.turn budget) hjob
    exact ⟨_, h'.clients⟩
  | wait hpasses hmove hwait =>
    obtain ⟨job', -, h₁⟩ := hpasses.rel (fun _ _ h => h.turn budget) hjob
    obtain ⟨d₁, h₂⟩ := h₁.wait hmove
    obtain ⟨d', -, h'⟩ := Alike.waiting h₂ hwait
    exact ⟨d', h'⟩

/-- **Wherever a request passes, it is in step.** -/
theorem InStep.underway {request : Request} (h : InStep c d) (hunderway : c.NotedUnderway budget request c') :
    ∃ d', InStep c' d' := by
  induction hunderway generalizing d with
  | plain hplain =>
    obtain ⟨d', -, h'⟩ := Alike.underway h hplain
    exact ⟨d', h'⟩
  | @readMore _ _ _ length byte more hread _ ih =>
    have hreads := InStep.blockingRead h budget length
    have hbound := @blockingRead_length slots SimBoard _ budget length d
    rw [hread] at hreads
    obtain ⟨⟨r, d₁⟩, hread', hagree⟩ := rel_some hreads
    obtain rfl : r = .ok (byte :: more) := hagree.answer
    have hcut : (Access.slice (more.length + 1) length length).InRange := ⟨hbound hread', Nat.le_refl _⟩
    exact ih (InStep.note hagree.after (by simpa using hcut))
  | write _ hwrite => exact h.writing hwrite
  | writeAll _ _ ih => exact ih h
  | @connect _ _ host portNumber draw _ _ _ hwait =>
    have hprepared := InStep.prepare (Alike.dialled h host portNumber).after (draw entropyLength) host.name?
    obtain ⟨d', -, h'⟩ := Alike.waiting (Alike.started hprepared host.name?).after hwait
    exact ⟨d', h'⟩

end Underway

/-! ## Every request -/

theorem InStep.perform {c : Client Guarded slots} {d : Client SimBoard slots} (h : InStep c d) (budget : Nat)
    (request : Request) : Option.Rel (Agree InStep) (c.notedPerform budget request) (d.perform budget request) := by
  cases request with
  | connect host portNumber draw =>
    exact rel_map_agree (InStep.connect h budget draw host portNumber) fun _ _ _ h' => ⟨rfl, h'⟩
  | write data => exact rel_map_agree (InStep.write h budget data) fun _ _ _ h' => ⟨rfl, h'⟩
  | read room => exact rel_map_agree (InStep.read h budget room) fun _ _ _ h' => ⟨rfl, h'⟩
  | blockingRead room => exact rel_map_agree (InStep.blockingRead h budget room) fun _ _ _ h' => ⟨rfl, h'⟩
  | readExact length => exact rel_map_agree (InStep.readExact h budget length) fun _ _ _ h' => ⟨rfl, h'⟩
  | writeAll data => exact rel_map_agree (InStep.writeAll h budget data) fun _ _ _ h' => ⟨rfl, h'⟩
  | flush => exact Alike.perform h budget .flush
  | peek => exact Alike.perform h budget .peek
  | available => exact Alike.perform h budget .available
  | update => exact Alike.perform h budget .update
  | runUntil target => exact Alike.perform h budget (.runUntil target)
  | stop => exact Alike.perform h budget .stop
  | connected => exact Alike.perform h budget .connected
  | readReady => exact Alike.perform h budget .readReady

/-- **No request makes an access out of range**, whatever state its client, its engine and its socket are in, and
however large its budget. By position and behind a guard it does what it does on lists, and all that the guard writes
down is in range. A request that does not come back is held up in its loops: wherever these pass, all accesses until
then are in range. -/
theorem accesses_in_range (budget : Nat) (c : Client SimBoard slots) (request : Request) :
    (c.guard.notedPerform budget request).map (fun x => (x.1, x.2.unguard)) = c.perform budget request ∧
      (∀ x ∈ c.guard.notedPerform budget request, ∀ a ∈ x.2.board.accesses, a.InRange) ∧
      ∀ c', c.guard.NotedUnderway budget request c' → ∀ a ∈ c'.board.accesses, a.InRange := by
  have hloops : ∀ c', c.guard.NotedUnderway budget request c' → ∀ a ∈ c'.board.accesses, a.InRange := by
    intro c' hunderway
    obtain ⟨d', h'⟩ := InStep.underway (InStep.of_guard c) hunderway
    exact h'.intact
  have hboth := InStep.perform (InStep.of_guard c) budget request
  generalize c.guard.notedPerform budget request = x at hboth ⊢
  generalize c.perform budget request = y at hboth ⊢
  cases hboth with
  | none => simpa using hloops
  | some hagree =>
    obtain ⟨reply, c', d', rfl, rfl, h'⟩ := hagree.parts
    have hintact : ∀ a ∈ c'.board.accesses, a.InRange := InStep.intact h'
    refine ⟨?_, ?_, hloops⟩
    · rw [Option.map_some, InStep.unguard h']
    · simpa using hintact

/-- a client whose window has room for one more byte -/
def nearlyFull : Client SimBoard 1 where
  board :=
    { socket := { isConnected := true, writeChunk := some 3 }
      engine := { phase := .app, capacity := 4, plainWindow := [1, 2, 3, 0], unread := [5, 6] } }
  lifecycle := ⟨.connected, true, .ok⟩
  backlog := ⟨3⟩

/-- a client that remembers a host, with a peer that stays silent and a clock that stands still -/
def reconnecting : Client SimBoard 1 where
  board := { engine := { hello := [1, 2], serverFlight := 1 }, time := { tick := 0 } }
  config := { pollDelayMs := 0 }
  sessions := (SessionCache.empty.remember "a" sampleParameters).2

/-- a write that fills the window up, sends it in two parts, and stores its last byte in a fresh one; and a connect that
is still under way after 50 turns, and has looked up a session and sent its hello -/
theorem accesses_in_range_filled_window :
    (∃ reply w,
      nearlyFull.guard.notedPerform 50 (.write [9, 10]) = some (reply, w) ∧
        nearlyFull.perform 50 (.write [9, 10]) = some (reply, w.unguard) ∧
        w.board.accesses =
          [.difference 4 3, .difference 2 0, .slice 3 4 4, .slice 0 1 2, .copy 1 1, .front 4 4, .front 3 4, .front 3 4,
            .front 1 1, .front 1 1, .difference 4 0, .difference 2 1, .slice 0 1 4, .slice 1 2 2, .copy 1 1] ∧
        ∀ a ∈ w.board.accesses, a.InRange) ∧
      (reconnecting.guard.notedPerform 50 (.connect (.name "a") 443 fun _ => [])).isNone = true ∧
        ∃ w, reconnecting.guard.NotedUnderway 50 (.connect (.name "a") 443 fun _ => []) w ∧
          w.board.accesses = [.element 0 1, .front 2 2, .front 2 2] ∧ ∀ a ∈ w.board.accesses, a.InRange := by
  have haccesses : (nearlyFull.guard.notedPerform 50 (.write [9, 10])).map (fun x => x.2.board.accesses) =
      some [.difference 4 3, .difference 2 0, .slice 3 4 4, .slice 0 1 2, .copy 1 1, .front 4 4, .front 3 4,
        .front 3 4, .front 1 1, .front 1 1, .difference 4 0, .difference 2 1, .slice 0 1 4, .slice 1 2 2,
        .copy 1 1] := by decide +kernel
  have hstuck : (reconnecting.guard.notedPerform 50 (.connect (.name "a") 443 fun _ => [])).isNone = true := by
    decide +kernel
  constructor
  · obtain ⟨⟨reply, w⟩, hrun, hnoted⟩ := Option.map_eq_some_iff.1 haccesses
    obtain ⟨hsame, hrange, -⟩ := accesses_in_range 50 nearlyFull (.write [9, 10])
    rw [hrun] at hsame hrange
    exact ⟨reply, w, hrun, hsame.symm, hnoted, hrange (reply, w) rfl⟩
  · -- the hello is sent, and then there is nothing to receive
    have hpump : (((reconnecting.guard.dialled (.name "a") 443).notedPrepared [] (some "a")).started (some "a")).Waiting
        50 { sendApp := true } _ := ⟨_, .here, .on rfl .here⟩
    have hunderway : reconnecting.guard.NotedUnderway 50 (.connect (.name "a") 443 fun _ => []) _ :=
      .connect rfl rfl rfl hpump
    obtain ⟨-, -, hrange⟩ := accesses_in_range 50 reconnecting (.connect (.name "a") 443 fun _ => [])
    exact ⟨hstuck, _, hunderway, by decide +kernel, hrange _ hunderway⟩

end Client

end TlsClient

/-
Two boards that a client cannot tell apart.

A likeness relates the states of two boards that answer the calls of a client alike. Two things are never told to a
client, so the boards may differ in them: the bytes of a window that the engine hands out, of which a client looks at
the length only, and whatever a board keeps for itself. How far the windows for plaintext have to agree depends on how
much of them is in use, which is known to the client alone; the relation is given for every such count.
- `Agree`: the same answer, and states that are related;
- `Likeness`: what two boards have to promise, call by call;
- `Alike`: two clients on such boards that are the same beside their boards;
- `Alike.drive`, `Alike.connect`, …: every operation gives the same answer on both, and leaves clients that are alike;
  the loops turn by turn;
- `Alike.perform`: so does every request, whatever its budget.
-/
import Mathlib.Tactic.SplitIfs
import TlsClient.Proofs.Handshakes

namespace TlsClient

/-! ## The same answers -/

section Answers

variable {α ω σ τ : Type} {P : σ → τ → Prop}

/-- the same answer, and states that are related -/
structure Agree (P : σ → τ → Prop) (x : α × σ) (y : α × τ) : Prop where
  answer : y.1 = x.1
  after : P x.2 y.2

theorem Agree.parts {x : α × σ} {y : α × τ} (h : Agree P x y) : ∃ a s t, x = (a, s) ∧ y = (a, t) ∧ P s t :=
  ⟨x.1, x.2, y.2, rfl, Prod.ext h.answer rfl, h.after⟩

/-- two outcomes that agree still do when their answers are put in another form -/
theorem Agree.reply {x : α × σ} {y : α × τ} (h : Agree P x y) (form : α → ω) :
    Agree P (form x.1, x.2) (form y.1, y.2) :=
  ⟨congrArg form h.answer, h.after⟩

/-- what is related to a result is a result -/
theorem rel_some {ω' : Type} {Q : ω → ω' → Prop} {a : ω} {y : Option ω'} (h : Option.Rel Q (some a) y) :
    ∃ b, y = some b ∧ Q a b := by
  cases h with
  | some h => exact ⟨_, rfl, h⟩

theorem rel_imp {ω' : Type} {P Q : ω → ω' → Prop} {x : Option ω} {y : Option ω'} (h : Option.Rel P x y)
    (himp : ∀ a b, P a b → Q a b) : Option.Rel Q x y := by
  cases h with
  | some h => exact .some (himp _ _ h)
  | none => exact .none

/-- what is made of two results that are related is related -/
theorem rel_map {α' ω' : Type} {P : α → α' → Prop} {Q : ω → ω' → Prop} {f : α → ω} {g : α' → ω'} {x : Option α}
    {y : Option α'} (h : Option.Rel P x y) (hmake : ∀ a b, P a b → Q (f a) (g b)) :
    Option.Rel Q (x.map f) (y.map g) := by
  cases h with
  | some h => exact .some (hmake _ _ h)
  | none => exact .none

/-- what is made of two outcomes that agree is related -/
theorem rel_map_agree {ω' : Type} {Q : ω → ω' → Prop} {f : α × σ → ω} {g : α × τ → ω'} {x : Option (α × σ)}
    {y : Option (α × τ)} (h : Option.Rel (Agree P) x y) (hmake : ∀ a s t, P s t → Q (f (a, s)) (g (a, t))) :
    Option.Rel Q (x.map f) (y.map g) := by
  apply rel_map h
  intro x y hxy
  obtain ⟨a, s, t, rfl, rfl, hst⟩ := hxy.parts
  exact hmake a s t hst

/-- turns of two loops that both go on, or both end -/
inductive Turn.Rel {β : Type} (P : σ → τ → Prop) (Q : α → β → Prop) : Turn σ α → Turn τ β → Prop
  | again {s t} (h : P s t) : Rel P Q (.again s) (.again t)
  | done {a b} (h : Q a b) : Rel P Q (.done a) (.done b)

/-- two loops whose turns are related end alike, or use their budgets up alike -/
theorem repeatTurn_rel {β : Type} {Q : α → β → Prop} {turn : σ → Option (Turn σ α)} {turn' : τ → Option (Turn τ β)}
    (hturn : ∀ s t, P s t → Option.Rel (Turn.Rel P Q) (turn s) (turn' t)) (budget : Nat) {s : σ} {t : τ} (h : P s t) :
    Option.Rel Q (repeatTurn turn budget s) (repeatTurn turn' budget t) := by
  induction budget generalizing s t with
  | zero => exact .none
  | succ budget ih =>
    have hstep := hturn s t h
    rw [repeatTurn, repeatTurn]
    generalize turn s = x at hstep ⊢
    generalize turn' t = y at hstep ⊢
    cases hstep with
    | none => exact .none
    | some hrel =>
      cases hrel with
      | again hnext => exact ih hnext
      | done hend => exact .some hend

end Answers

/-! ## Boards that are alike -/

/-- states of two boards that answer alike; the count says how many bytes of the window for plaintext are in use -/
structure Likeness (β γ : Type) [Board β] [Board γ] where
  like : Nat → β → γ → Prop
  /-- alike, and so are the windows for ciphertext that were handed out last -/
  filling : Nat → β → γ → Prop
  /-- less of a window is in use -/
  relax {n : Nat} {b : β} {b' : γ} (h : like n b b') : like 0 b b'
  /-- the window for ciphertext is not filled -/
  release {n : Nat} {b : β} {b' : γ} (h : filling n b b') : like n b b'
  connect {n : Nat} {b : β} {b' : γ} (host : Host) (portNumber : Nat) (h : like n b b') :
    Agree (like n) (Transport.connect host portNumber b) (Transport.connect host portNumber b')
  write {n : Nat} {b : β} {b' : γ} (bytes : Bytes) (h : like n b b') :
    Agree (like n) (Transport.write bytes b) (Transport.write bytes b')
  /-- a read asks for no more than the window just handed out holds -/
  read {n : Nat} {b : β} {b' : γ} {room : Nat} (h : like n b b') (hroom : room ≤ (Engine.recvRecBuf b).1.length) :
    Agree (filling n) (Transport.read room (Engine.recvRecBuf b).2) (Transport.read room (Engine.recvRecBuf b').2)
  available {n : Nat} {b : β} {b' : γ} (h : like n b b') :
    Agree (like n) (Transport.available b) (Transport.available b')
  flush {n : Nat} {b : β} {b' : γ} (h : like n b b') : Agree (like n) (Transport.flush b) (Transport.flush b')
  stop {n : Nat} {b : β} {b' : γ} (h : like n b b') : like n (Transport.stop b) (Transport.stop b')
  connected {n : Nat} {b : β} {b' : γ} (h : like n b b') :
    Agree (like n) (Transport.connected b) (Transport.connected b')
  state {n : Nat} {b : β} {b' : γ} (h : like n b b') : Engine.state b' = Engine.state b
  sendRecBuf {n : Nat} {b : β} {b' : γ} (h : like n b b') : Engine.sendRecBuf b' = Engine.sendRecBuf b
  sendRecAck {n : Nat} {b : β} {b' : γ} (length : Nat) (h : like n b b') :
    like n (Engine.sendRecAck length b) (Engine.sendRecAck length b')
  recvRecBuf {n : Nat} {b : β} {b' : γ} (h : like n b b') :
    (Engine.recvRecBuf b').1.length = (Engine.recvRecBuf b).1.length ∧
      filling n (Engine.recvRecBuf b).2 (Engine.recvRecBuf b').2
  fillRecvRec {n : Nat} {b : β} {b' : γ} (bytes : Bytes) (h : filling n b b') :
    filling n (Engine.fillRecvRec bytes b) (Engine.fillRecvRec bytes b')
  recvRecAck {n : Nat} {b : β} {b' : γ} (length : Nat) (h : filling n b b') :
    like n (Engine.recvRecAck length b) (Engine.recvRecAck length b')
  sendAppBuf {n : Nat} {b : β} {b' : γ} (h : like n b b') :
    (Engine.sendAppBuf b').1.length = (Engine.sendAppBuf b).1.length ∧
      like n (Engine.sendAppBuf b).2 (Engine.sendAppBuf b').2
  /-- what is stored next to what is in use is in use itself -/
  storeSendApp {n : Nat} {b : β} {b' : γ} {bytes : Bytes} (h : like n b b')
    (hfits : n + bytes.length ≤ (Engine.sendAppBuf b).1.length) :
    like (n + bytes.length) (Engine.storeSendApp n bytes (Engine.sendAppBuf b).2)
      (Engine.storeSendApp n bytes (Engine.sendAppBuf b').2)
  /-- what is in use is handed over -/
  sendAppAck {n : Nat} {b : β} {b' : γ} (h : like n b b') : like 0 (Engine.sendAppAck n b) (Engine.sendAppAck n b')
  recvAppBuf {n : Nat} {b : β} {b' : γ} (h : like n b b') : Engine.recvAppBuf b' = Engine.recvAppBuf b
  recvAppAck {n : Nat} {b : β} {b' : γ} (length : Nat) (h : like n b b') :
    like n (Engine.recvAppAck length b) (Engine.recvAppAck length b')
  flushApp {n : Nat} {b : β} {b' : γ} (force : Bool) (h : like n b b') :
    like n (Engine.flushApp force b) (Engine.flushApp force b')
  reset {n : Nat} {b : β} {b' : γ} (server : Option String) (h : like n b b') :
    Agree (like n) (Engine.reset server b) (Engine.reset server b')
  sessionParameters {n : Nat} {b : β} {b' : γ} (h : like n b b') :
    Engine.sessionParameters b' = Engine.sessionParameters b
  offer {n : Nat} {b : β} {b' : γ} (p : SessionParameters) (h : like n b b') :
    like n (Engine.offer p b) (Engine.offer p b')
  injectEntropy {n : Nat} {b : β} {b' : γ} (bytes : Bytes) (h : like n b b') :
    like n (Engine.injectEntropy bytes b) (Engine.injectEntropy bytes b')
  now {n : Nat} {b : β} {b' : γ} (h : like n b b') : Agree (like n) (Timer.now b) (Timer.now b')
  delay {n : Nat} {b : β} {b' : γ} (ms : Nat) (h : like n b b') : like n (Timer.delay ms b) (Timer.delay ms b')
  headroom {n : Nat} {b : β} {b' : γ} (required : Nat) (h : like n b b') :
    Agree (like n) (Probe.headroom required b) (Probe.headroom required b')

namespace Client

variable {β γ : Type} [Board β] [Board γ] {slots : Nat}

/-- the client on another board -/
abbrev onto (c : Client β slots) (b : γ) : Client γ slots :=
  ⟨b, c.config, c.sessions, c.lifecycle, c.backlog, c.stats, c.abort⟩

/-- two clients that are the same beside their boards, on boards that are alike as far as the window is in use -/
inductive Alike (R : Likeness β γ) : Client β slots → Client γ slots → Prop
  | onto {c : Client β slots} {b : γ} (h : R.like c.pending c.board b) : Alike R c (c.onto b)

variable {R : Likeness β γ} {c : Client β slots} {d : Client γ slots}

section Parts

variable (h : Alike R c d)

include h

theorem Alike.board : R.like c.pending c.board d.board := by
  cases h with | onto h => exact h

theorem Alike.config : d.config = c.config := by
  cases h with | onto h => rfl

theorem Alike.sessions : d.sessions = c.sessions := by
  cases h with | onto h => rfl

theorem Alike.lifecycle : d.lifecycle = c.lifecycle := by
  cases h with | onto h => rfl

theorem Alike.backlog : d.backlog = c.backlog := by
  cases h with | onto h => rfl

theorem Alike.stats : d.stats = c.stats := by
  cases h with | onto h => rfl

theorem Alike.abort : d.abort = c.abort := by
  cases h with | onto h => rfl

theorem Alike.state : Engine.state d.board = Engine.state c.board := R.state h.board

end Parts

/-! ## The pump -/

section Pump

variable (h : Alike R c d)

include h

theorem Alike.dropUnread (state : EngineState) : Alike R (c.dropUnread state) (d.dropUnread state) := by
  cases h with
  | onto h =>
    simp only [Client.dropUnread, R.recvAppBuf h]
    split_ifs
    · exact .onto (R.recvAppAck _ h)
    · exact .onto h

/-- the socket was stopped, and the backlog forgotten -/
theorem Alike.shut :
    Alike R
      { c with
        board := Transport.stop (Transport.flush c.board).2
        backlog := .empty
        lifecycle := c.lifecycle.closed }
      { d with
        board := Transport.stop (Transport.flush d.board).2
        backlog := .empty
        lifecycle := d.lifecycle.closed } := by
  cases h with | onto h => exact .onto (R.relax (R.stop (R.flush h).after))

theorem Alike.teardown : Alike R c.teardown d.teardown := by
  rw [Client.teardown, Client.teardown, h.state]
  exact (h.dropUnread (Engine.state c.board)).shut

/-- a failure was put on record -/
theorem Alike.recorded (s : Status) :
    Alike R { c with lifecycle := c.lifecycle.fail s } { d with lifecycle := d.lifecycle.fail s } := by
  cases h with | onto h => exact .onto h

theorem Alike.fail (s : Status) : Alike R (c.fail s) (d.fail s) := (h.recorded s).teardown

theorem Alike.sendRecord : Agree (Alike R) c.sendRecord d.sendRecord := by
  cases h with
  | onto h =>
    obtain ⟨attempt, b₁, b₁', hx, hy, h₁⟩ := (R.write (Engine.sendRecBuf c.board) h).parts
    obtain ⟨flushed, b₂, b₂', hx₂, hy₂, h₂⟩ := (R.flush h₁).parts
    simp only [Client.sendRecord, R.sendRecBuf h, hx, hy]
    split_ifs
    · exact ⟨rfl, .onto h⟩
    cases attempt with
    | error e => exact ⟨rfl, .onto h₁⟩
    | ok written =>
      simp only [hx₂, hy₂]
      split_ifs
      · exact ⟨rfl, .onto h₁⟩
      · exact ⟨rfl, .onto h₁⟩
      cases flushed with
      | error e => exact ⟨rfl, .onto h₂⟩
      | ok u => exact ⟨rfl, .onto (R.sendRecAck written h₂)⟩

theorem Alike.handPending : Alike R c.handPending d.handPending := by
  cases h with | onto h => exact .onto (R.sendAppAck h)

theorem Alike.handOver (state : EngineState) : Agree (Alike R) (c.handOver state) (d.handOver state) := by
  cases h with
  | onto h =>
    obtain ⟨hlength, hopened⟩ := R.sendAppBuf h
    simp only [Client.handOver, hlength]
    split_ifs
    · exact ⟨rfl, .onto h⟩
    · exact ⟨rfl, .onto hopened⟩
    · exact ⟨rfl, .onto hopened⟩
    · exact ⟨rfl, .onto (R.sendAppAck hopened)⟩

theorem Alike.fillWindow (available : Nat) : Agree (Alike R) (c.fillWindow available) (d.fillWindow available) := by
  cases h with
  | onto h =>
    obtain ⟨hlength, hopened⟩ := R.recvRecBuf h
    unfold Client.fillWindow
    simp only
    rw [hlength]
    obtain ⟨attempt, b₁, b₁', hx, hy, h₁⟩ := (R.read h (Nat.min_le_left _ available)).parts
    rw [hx, hy]
    split_ifs
    · exact ⟨rfl, .onto (R.release hopened)⟩
    cases attempt with
    | error e => exact ⟨rfl, .onto (R.release h₁)⟩
    | ok reading =>
      have hfilled := R.fillRecvRec reading.moved h₁
      simp only
      split_ifs
      · exact ⟨rfl, .onto (R.release hfilled)⟩
      · exact ⟨rfl, .onto (R.release hfilled)⟩
      · exact ⟨rfl, .onto (R.recvRecAck reading.claimed hfilled)⟩

theorem Alike.awaitPeer : Agree (Alike R) c.awaitPeer d.awaitPeer := by
  cases h with
  | onto h =>
    obtain ⟨up, b₁, b₁', hx, hy, h₁⟩ := (R.connected h).parts
    simp only [Client.awaitPeer, hx, hy]
    split_ifs
    · exact ⟨rfl, .onto (R.delay _ h₁)⟩
    · exact ⟨rfl, .onto h₁⟩

theorem Alike.receiveRecord : Agree (Alike R) c.receiveRecord d.receiveRecord := by
  cases h with
  | onto h =>
    obtain ⟨polled, b₁, b₁', hx, hy, h₁⟩ := (R.available h).parts
    obtain ⟨free, b₂, b₂', hx₂, hy₂, h₂⟩ := (R.headroom c.config.minHeadroom h₁).parts
    simp only [Client.receiveRecord, hx, hy]
    cases polled with
    | error e => exact ⟨rfl, .onto h₁⟩
    | ok available =>
      have hpolled : Alike R { c with board := b₁ } (c.onto b₁') := .onto h₁
      have hprobed : Alike R { c with board := b₂ } (c.onto b₂') := .onto h₂
      simp only [hx₂, hy₂]
      split_ifs
      · exact hpolled.awaitPeer
      · cases free with
        | insufficient => exact ⟨rfl, hprobed⟩
        | corrupted => exact ⟨rfl, .onto h₂⟩
        | sufficient => exact hprobed.fillWindow available

end Pump

theorem Agree.afterStep {x : Except Status Unit × Client β slots} {y : Except Status Unit × Client γ slots}
    (h : Agree (Alike R) x y) : Turn.Rel (Alike R) (Agree (Alike R)) (afterStep x) (afterStep y) := by
  obtain ⟨step, c, d, rfl, rfl, hcd⟩ := h.parts
  cases step with
  | error s => exact .done ⟨rfl, hcd.fail s⟩
  | ok u => exact .again hcd

theorem Alike.pumpTurn (h : Alike R c d) : Turn.Rel (Alike R) (Agree (Alike R)) c.pumpTurn d.pumpTurn := by
  obtain ⟨received, c₁, d₁, hx, hy, h₁⟩ := h.receiveRecord.parts
  simp only [Client.pumpTurn, h.state, h.backlog, hx, hy]
  split_ifs
  · exact .done ⟨rfl, h⟩
  · exact Agree.afterStep h.sendRecord
  · exact Agree.afterStep (h.handOver _)
  · cases received with
    | error s => exact .done ⟨rfl, h₁.fail s⟩
    | ok got =>
      cases got with
      | record => exact .again h₁
      | nothing => exact .done ⟨rfl, h₁⟩
  · exact .done ⟨rfl, h⟩

theorem Alike.pump (h : Alike R c d) (budget : Nat) :
    Option.Rel (Agree (Alike R)) (c.pump budget) (d.pump budget) :=
  repeatTurn_rel (fun _ _ h => .some h.pumpTurn) budget h

theorem Alike.update (h : Alike R c d) (budget : Nat) :
    Option.Rel (Agree (Alike R)) (c.update budget) (d.update budget) := by
  simp only [Client.update, h.lifecycle]
  cases c.lifecycle.mayPump with
  | error e => exact .some ⟨rfl, h⟩
  | ok u =>
    apply rel_map_agree (h.pump budget)
    intro state c' d' h'
    simp only [h'.abort, h'.lifecycle]
    split_ifs
    · exact ⟨rfl, h'⟩
    · exact ⟨rfl, h'⟩
    · exact ⟨rfl, h'⟩

/-! ## Waiting -/

section Waiting

variable (h : Alike R c d)

include h

theorem Alike.discardUnread : Turn.Rel (Alike R) (Agree (Alike R)) c.discardUnread d.discardUnread := by
  have hfailed := h.fail .engineWrite
  cases h with
  | onto h =>
    simp only [Client.discardUnread, R.recvAppBuf h]
    split_ifs
    · exact .done ⟨rfl, hfailed⟩
    · exact .again (.onto (R.relax (R.recvAppAck _ h)))

theorem Alike.resolve (target state : EngineState) :
    Turn.Rel (Alike R) (Agree (Alike R)) (c.resolve target state) (d.resolve target state) := by
  have hdiscarded := h.discardUnread
  unfold Client.resolve
  split_ifs
  · exact hdiscarded
  · cases h with | onto h => exact .again (.onto (R.flushApp false h))
  · exact .again h

theorem Alike.judge (target : EngineState) (start : Nat) (state : EngineState) :
    Turn.Rel (Alike R) (Agree (Alike R)) (c.judge target start state) (d.judge target start state) := by
  cases h with
  | onto h =>
    obtain ⟨now, b₁, b₁', hx, hy, h₁⟩ := (R.now h).parts
    have hread : Alike R { c with board := b₁ } (c.onto b₁') := .onto h₁
    simp only [Client.judge, hx, hy]
    split_ifs
    · exact .done ⟨rfl, .onto h⟩
    · exact .done ⟨rfl, .onto h⟩
    · exact .done ⟨rfl, .onto h⟩
    · exact .done ⟨rfl, hread.fail .engineWrite⟩
    · exact .done ⟨rfl, hread⟩
    · exact hread.resolve target state

theorem Alike.driveTurn (budget : Nat) (target : EngineState) (start : Nat) :
    Option.Rel (Turn.Rel (Alike R) (Agree (Alike R))) (driveTurn budget target start c)
      (driveTurn budget target start d) := by
  apply rel_map_agree (h.pump budget)
  intro state c' d' h'
  exact h'.judge target start state

/-- a wait ends alike: the clock shows the same time at its start, and each of its turns ends alike -/
theorem Alike.drive (budget : Nat) (target : EngineState) :
    Option.Rel (Agree (Alike R)) (c.drive budget target) (d.drive budget target) := by
  cases h with
  | onto h =>
    obtain ⟨now, b₁, b₁', hx, hy, h₁⟩ := (R.now h).parts
    have hread : Alike R { c with board := b₁ } (c.onto b₁') := .onto h₁
    simp only [Client.drive, hx, hy]
    exact repeatTurn_rel (fun _ _ h => h.driveTurn budget target now) budget hread

theorem Alike.runUntil (budget : Nat) (target : EngineState) :
    Option.Rel (Agree (Alike R)) (c.runUntil budget target) (d.runUntil budget target) := by
  simp only [Client.runUntil, h.lifecycle]
  cases c.lifecycle.mayPump with
  | error e => exact .some ⟨rfl, h⟩
  | ok u => exact h.drive budget target

theorem Alike.flush (budget : Nat) : Option.Rel (Agree (Alike R)) (c.flush budget) (d.flush budget) := by
  simp only [Client.flush, h.lifecycle, h.backlog]
  cases c.lifecycle.mayPump with
  | error e => exact .some ⟨rfl, h⟩
  | ok u =>
    simp only
    split_ifs
    · exact .some ⟨rfl, h⟩
    · exact h.drive budget { recvApp := true }

end Waiting

/-! ## Writing -/

section Writing

variable (h : Alike R c d)

include h

theorem Alike.handStored : Alike R c.handStored d.handStored := by
  rw [Client.handStored, Client.handStored, h.backlog]
  split_ifs
  · exact h.handPending
  · exact h

theorem Alike.awaitWindow (budget : Nat) (rest : Bytes) :
    Option.Rel (Turn.Rel (Agree (Alike R)) (Agree (Alike R))) (c.awaitWindow budget rest)
      (d.awaitWindow budget rest) := by
  apply rel_map_agree (h.handStored.drive budget { sendApp := true })
  intro waited c' d' h'
  cases waited with
  | error e => exact .done ⟨rfl, h'⟩
  | ok u => exact .again ⟨rfl, h'⟩

/-- plaintext stored behind what is in use leaves the windows alike as far as they are in use then -/
theorem Alike.storePlaintext (data : Bytes) (hroom : c.pending ≤ (Engine.sendAppBuf c.board).1.length) :
    Alike R
      ({ c with board := (Engine.sendAppBuf c.board).2 }.storePlaintext (Engine.sendAppBuf c.board).1.length data)
      ({ d with board := (Engine.sendAppBuf d.board).2 }.storePlaintext (Engine.sendAppBuf c.board).1.length data) := by
  cases h with
  | onto h =>
    have hfits : c.pending + (data.take ((Engine.sendAppBuf c.board).1.length - c.pending)).length ≤
        (Engine.sendAppBuf c.board).1.length := by
      rw [List.length_take]
      omega
    exact .onto (R.storeSendApp h hfits)

end Writing

/-- moves of two writes that both end, both go on, or both wait, with clients that are alike -/
inductive WriteMove.Rel (R : Likeness β γ) : WriteMove β slots → WriteMove γ slots → Prop
  | ended {r r'} (h : Agree (Alike R) r r') : Rel R (.ended r) (.ended r')
  | more {job job'} (h : Agree (Alike R) job job') : Rel R (.more job) (.more job')
  | wait {rest c d} (h : Alike R c d) : Rel R (.wait rest c) (.wait rest d)

/-- what a turn of a write does, up to the wait in it -/
theorem Agree.writeMove {job : Bytes × Client β slots} {job' : Bytes × Client γ slots}
    (hjob : Agree (Alike R) job job') : WriteMove.Rel R (writeMove job) (writeMove job') := by
  obtain ⟨rest, c, d, rfl, rfl, hcd⟩ := hjob.parts
  cases hcd with
  | @onto b h =>
    obtain ⟨hlength, hopened⟩ := R.sendAppBuf h
    have hwindow : Alike R { c with board := (Engine.sendAppBuf c.board).2 } (c.onto (Engine.sendAppBuf b).2) :=
      .onto hopened
    simp only [Client.writeMove, R.state h, hlength]
    by_cases hrest : rest.isEmpty = true
    · rw [if_pos hrest, if_pos hrest]
      exact .ended ⟨rfl, .onto h⟩
    rw [if_neg hrest, if_neg hrest]
    by_cases hroom : c.backlog.pending < (Engine.sendAppBuf c.board).1.length
    · have hstored := Alike.storePlaintext (.onto h) rest (Nat.le_of_lt hroom)
      rw [if_pos hroom, if_pos hroom, hstored.backlog]
      split_ifs
      · exact .more ⟨rfl, hstored⟩
      · exact .wait hstored
    · rw [if_neg hroom, if_neg hroom]
      split_ifs
      · exact .ended ⟨rfl, hwindow.fail .internal⟩
      · exact .ended ⟨rfl, hwindow.fail .engineWrite⟩
      · exact .wait hwindow

/-- one turn of a write -/
theorem Agree.writeTurn {job : Bytes × Client β slots} {job' : Bytes × Client γ slots}
    (hjob : Agree (Alike R) job job') (budget : Nat) :
    Option.Rel (Turn.Rel (Agree (Alike R)) (Agree (Alike R))) (writeTurn budget job) (writeTurn budget job') := by
  have hmove := Agree.writeMove hjob
  rw [writeTurn_eq, writeTurn_eq]
  generalize Client.writeMove job = move at hmove ⊢
  generalize Client.writeMove job' = move' at hmove ⊢
  cases hmove with
  | ended h => exact .some (.done h)
  | more h => exact .some (.again h)
  | wait h => exact h.awaitWindow budget _

theorem Alike.write (h : Alike R c d) (budget : Nat) (data : Bytes) :
    Option.Rel (Agree (Alike R)) (c.write budget data) (d.write budget data) := by
  simp only [Client.write, h.lifecycle, h.state]
  cases c.lifecycle.softConnected (Engine.state c.board) with
  | error e => exact .some ⟨rfl, h⟩
  | ok u =>
    have hjob : Agree (Alike R) (data, c) (data, d) := ⟨rfl, h⟩
    apply rel_map_agree (repeatTurn_rel (fun _ _ h => Agree.writeTurn h budget) budget hjob)
    intro r c' d' h'
    exact ⟨rfl, h'⟩

theorem Alike.writeAll (h : Alike R c d) (budget : Nat) (data : Bytes) :
    Option.Rel (Agree (Alike R)) (c.writeAll budget data) (d.writeAll budget data) := by
  unfold Client.writeAll
  split_ifs
  · exact .some ⟨rfl, h⟩
  · apply rel_map_agree (h.write budget data)
    intro r c' d' h'
    exact ⟨rfl, h'⟩

/-! ## Reading -/

/-- to go on with an answer ends alike, if what follows does -/
theorem rel_andThen {α ω : Type} {x : Result β slots α} {y : Result γ slots α}
    (hfirst : Option.Rel (Agree (Alike R)) x y) {next : α → Client β slots → Result β slots ω}
    {next' : α → Client γ slots → Result γ slots ω}
    (hnext : ∀ a c d, Alike R c d → Option.Rel (Agree (Alike R)) (next a c) (next' a d)) :
    Option.Rel (Agree (Alike R)) (x.andThen next) (y.andThen next') := by
  cases hfirst with
  | none => exact .none
  | some hfirst =>
    obtain ⟨r, c', d', rfl, rfl, h'⟩ := hfirst.parts
    cases r with
    | error e => exact .some ⟨rfl, h'⟩
    | ok a => exact hnext a c' d' h'

section Reading

variable (h : Alike R c d)

include h

theorem Alike.countUnread (state : EngineState) : Agree (Alike R) (c.countUnread state) (d.countUnread state) := by
  cases h with
  | onto h =>
    simp only [Client.countUnread, R.recvAppBuf h]
    split_ifs
    · exact ⟨rfl, .onto h⟩
    · exact ⟨rfl, .onto h⟩
    · exact ⟨rfl, .onto h⟩
    · exact ⟨rfl, .onto h⟩
    · exact ⟨rfl, .onto h⟩
    · exact ⟨rfl, .onto (R.flushApp false h)⟩
    · exact ⟨rfl, .onto h⟩

theorem Alike.available (budget : Nat) :
    Option.Rel (Agree (Alike R)) (c.available budget) (d.available budget) := by
  simp only [Client.available, h.lifecycle, h.state]
  cases c.lifecycle.softConnected (Engine.state c.board) with
  | error e => exact .some ⟨rfl, h⟩
  | ok u =>
    apply rel_map_agree (h.pump budget)
    intro state c' d' h'
    exact h'.countUnread state

theorem Alike.takeUnread (room : Nat) : Agree (Alike R) (c.takeUnread room) (d.takeUnread room) := by
  cases h with
  | onto h =>
    simp only [Client.takeUnread, R.recvAppBuf h]
    split_ifs
    · exact ⟨rfl, .onto h⟩
    · exact ⟨rfl, .onto (R.recvAppAck _ h)⟩

theorem Alike.read (budget room : Nat) : Option.Rel (Agree (Alike R)) (c.read budget room) (d.read budget room) := by
  unfold Client.read
  split_ifs
  · exact .some ⟨rfl, h⟩
  apply rel_andThen (h.available budget)
  intro count c' d' h'
  split_ifs
  · exact .some ⟨rfl, h'⟩
  · exact .some ((h'.takeUnread room).reply Except.ok)

theorem Alike.peek (budget : Nat) : Option.Rel (Agree (Alike R)) (c.peek budget) (d.peek budget) := by
  unfold Client.peek
  apply rel_andThen (h.available budget)
  intro count c' d' h'
  rw [R.recvAppBuf h'.board]
  exact .some ⟨rfl, h'⟩

theorem Alike.readReady (budget : Nat) :
    Option.Rel (Agree (Alike R)) (c.readReady budget) (d.readReady budget) := by
  apply rel_map_agree (h.available budget)
  intro counted c' d' h'
  cases counted with
  | ok count => exact ⟨rfl, h'⟩
  | error e => cases e <;> exact ⟨rfl, h'⟩

theorem Alike.blockingRead (budget room : Nat) :
    Option.Rel (Agree (Alike R)) (c.blockingRead budget room) (d.blockingRead budget room) := by
  simp only [Client.blockingRead, h.lifecycle, h.state]
  split_ifs
  · exact .some ⟨rfl, h⟩
  cases c.lifecycle.softConnected (Engine.state c.board) with
  | error e => cases e <;> exact .some ⟨rfl, h⟩
  | ok u =>
    apply rel_map_agree (h.drive budget { recvApp := true })
    intro waited c' d' h'
    cases waited with
    | ok u => exact (h'.takeUnread room).reply Except.ok
    | error e => cases e <;> exact ⟨rfl, h'⟩

end Reading

/-- a buffer is filled alike, or is not: by induction on what is left to fill -/
theorem Alike.readExact (h : Alike R c d) (budget length : Nat) :
    Option.Rel (Agree (Alike R)) (c.readExact budget length) (d.readExact budget length) := by
  induction length using Nat.strongRecOn generalizing c d with
  | ind length ih =>
    have hread := h.blockingRead budget length
    rw [Client.readExact, Client.readExact]
    split_ifs
    · exact .some ⟨rfl, h⟩
    generalize c.blockingRead budget length = x at hread ⊢
    generalize d.blockingRead budget length = y at hread ⊢
    cases hread with
    | none => exact .none
    | some hread =>
      obtain ⟨r, c', d', rfl, rfl, h'⟩ := hread.parts
      rcases r with e | _ | ⟨byte, more⟩
      · exact .some ⟨rfl, h'⟩
      · exact .some ⟨rfl, h'⟩
      · apply rel_map_agree (ih (length - (more.length + 1)) (by omega) h')
        intro rest c'' d'' h''
        exact ⟨rfl, h''⟩

/-! ## Opening and closing -/

section Connecting

variable (h : Alike R c d)

include h

theorem Alike.keepSession (server : Option String) : Alike R (keepSession server c) (keepSession server d) := by
  cases h with
  | onto h =>
    cases server with
    | none => exact .onto h
    | some name =>
      simp only [Client.keepSession, R.sessionParameters h]
      exact .onto h

theorem Alike.offerSession (server : Option String) : Alike R (c.offerSession server) (d.offerSession server) := by
  cases h with
  | onto h =>
    simp only [Client.offerSession]
    cases c.sessions.find? server with
    | none => exact .onto h
    | some s => exact .onto (R.offer s.parameters h)

theorem Alike.concludeHandshake (server : Option String) (waited : Except Error Unit) :
    Agree (Alike R) (concludeHandshake server (waited, c)) (concludeHandshake server (waited, d)) := by
  cases waited with
  | ok u =>
    have hestablished : Alike R { c with lifecycle := c.lifecycle.established }
        { d with lifecycle := d.lifecycle.established } := by
      cases h with | onto h => exact .onto h
    exact ⟨rfl, hestablished.keepSession server⟩
  | error e =>
    have hended : Alike R (if c.lifecycle.status.isOk then c.fail .engineConnect else c)
        (if d.lifecycle.status.isOk then d.fail .engineConnect else d) := by
      rw [h.lifecycle]
      split_ifs
      · exact h.fail .engineConnect
      · exact h
    exact ⟨by simp only [Client.concludeHandshake, hended.lifecycle], hended⟩

theorem Alike.polled :
    Agree (Alike R) ((Transport.connected c.board).1, c.polled) ((Transport.connected d.board).1, d.polled) := by
  cases h with | onto h => exact ⟨(R.connected h).answer, .onto (R.connected h).after⟩

theorem Alike.dialled (host : Host) (portNumber : Nat) :
    Agree (Alike R) ((Transport.connect host portNumber c.polled.board).1, c.dialled host portNumber)
      ((Transport.connect host portNumber d.polled.board).1, d.dialled host portNumber) := by
  cases h with
  | onto h =>
    have hdialled := R.connect host portNumber (R.relax (R.connected h).after)
    exact ⟨hdialled.answer, .onto hdialled.after⟩

theorem Alike.prepared (entropy : Bytes) (server : Option String) :
    Alike R (c.prepared entropy server) (d.prepared entropy server) := by
  have hseeded :
      Alike R
        { c with lifecycle := c.lifecycle.beginHandshake, board := Engine.injectEntropy entropy c.board }
        { d with lifecycle := d.lifecycle.beginHandshake, board := Engine.injectEntropy entropy d.board } := by
    cases h with | onto h => exact .onto (R.injectEntropy entropy h)
  exact hseeded.offerSession server

theorem Alike.started (server : Option String) :
    Agree (Alike R) ((Engine.reset server c.board).1, c.started server)
      ((Engine.reset server d.board).1, d.started server) := by
  cases h with | onto h => exact ⟨(R.reset server h).answer, .onto (R.reset server h).after⟩

theorem Alike.connect (budget : Nat) (draw : Nat → Bytes) (host : Host) (portNumber : Nat) :
    Option.Rel (Agree (Alike R)) (c.connect budget draw host portNumber) (d.connect budget draw host portNumber) := by
  have hpolled := h.polled
  have hdialled := h.dialled host portNumber
  have hlaunched :=
    Alike.started (Alike.prepared hdialled.after (draw entropyLength) host.name?) host.name?
  rw [connect_eq, connect_eq, hpolled.answer, hdialled.answer, hlaunched.answer]
  split_ifs
  · exact .some ⟨rfl, hpolled.after⟩
  cases (Transport.connect host portNumber c.polled.board).1 with
  | error e => exact .some ⟨rfl, Alike.recorded hdialled.after .transportConnect⟩
  | ok u =>
    cases (Engine.reset host.name? ((c.dialled host portNumber).prepared (draw entropyLength) host.name?).board).1 with
    | error e => exact .some ⟨rfl, Alike.fail hlaunched.after .engineConnect⟩
    | ok u =>
      apply rel_map_agree (Alike.drive hlaunched.after budget { sendApp := true })
      intro waited c' d' h'
      exact h'.concludeHandshake host.name? waited

theorem Alike.closeGracefully (budget : Nat) (state : EngineState) :
    Option.Rel (Alike R) (c.closeGracefully budget state) (d.closeGracefully budget state) := by
  have hclosing : Alike R { c with lifecycle := c.lifecycle.closing } { d with lifecycle := d.lifecycle.closing } := by
    cases h with | onto h => exact .onto h
  apply rel_map_agree ((hclosing.dropUnread state).flush budget)
  intro r c' d' h'
  exact h'

theorem Alike.stop (budget : Nat) : Option.Rel (Alike R) (c.stop budget) (d.stop budget) := by
  have hdown := h.teardown
  cases h with
  | onto h =>
    obtain ⟨up, b₁, b₁', hx, hy, h₁⟩ := (R.connected h).parts
    have hpolled : Alike R { c with board := b₁ } (c.onto b₁') := .onto h₁
    simp only [Client.stop, R.state h, hx, hy]
    split_ifs
    · apply rel_map (hpolled.closeGracefully budget (Engine.state c.board))
      intro c' d' h'
      exact h'.teardown
    · exact .some hpolled.teardown
    · exact .some hdown

theorem Alike.connected : Agree (Alike R) c.connected d.connected := by
  cases h with
  | onto h =>
    obtain ⟨up, b₁, b₁', hx, hy, h₁⟩ := (R.connected h).parts
    have hpolled : Alike R { c with board := b₁ } (c.onto b₁') := .onto h₁
    simp only [Client.connected, hx, hy, R.state h₁]
    split_ifs
    · exact ⟨rfl, hpolled.fail .transportWrite⟩
    · exact ⟨rfl, hpolled⟩

end Connecting

/-! ## All requests -/

/-- **A request does the same to both.** It is answered alike and leaves clients that are alike, or it runs out of its
budget on both. -/
theorem Alike.perform (h : Alike R c d) (budget : Nat) (request : Request) :
    Option.Rel (Agree (Alike R)) (c.perform budget request) (d.perform budget request) := by
  cases request with
  | connect host portNumber draw =>
    exact rel_map_agree (h.connect budget draw host portNumber) fun _ _ _ h' => ⟨rfl, h'⟩
  | write data => exact rel_map_agree (h.write budget data) fun _ _ _ h' => ⟨rfl, h'⟩
  | flush => exact rel_map_agree (h.flush budget) fun _ _ _ h' => ⟨rfl, h'⟩
  | read room => exact rel_map_agree (h.read budget room) fun _ _ _ h' => ⟨rfl, h'⟩
  | peek => exact rel_map_agree (h.peek budget) fun _ _ _ h' => ⟨rfl, h'⟩
  | available => exact rel_map_agree (h.available budget) fun _ _ _ h' => ⟨rfl, h'⟩
  | update => exact rel_map_agree (h.update budget) fun _ _ _ h' => ⟨rfl, h'⟩
  | runUntil target => exact rel_map_agree (h.runUntil budget target) fun _ _ _ h' => ⟨rfl, h'⟩
  | stop => exact rel_map (h.stop budget) fun _ _ h' => ⟨rfl, h'⟩
  | connected => exact .some (h.connected.reply Reply.verdict)
  | blockingRead room => exact rel_map_agree (h.blockingRead budget room) fun _ _ _ h' => ⟨rfl, h'⟩
  | readExact length => exact rel_map_agree (h.readExact budget length) fun _ _ _ h' => ⟨rfl, h'⟩
  | readReady => exact rel_map_agree (h.readReady budget) fun _ _ _ h' => ⟨rfl, h'⟩
  | writeAll data => exact rel_map_agree (h.writeAll budget data) fun _ _ _ h' => ⟨rfl, h'⟩

end Client

end TlsClient

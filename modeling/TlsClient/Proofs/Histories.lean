/-
Histories: what happens to a client on a simulated board, one event after another.

An event is a request to the client or a change from outside: to the socket, the engine, the time, the memory probe, the
sessions or the deadline. A history yields the requests with their replies (`Exchange`), in order.
- `undergo_invariant`: what holds at the start and is kept by every event holds at the end;
- `accepted`, `firstRefused`: the plaintext that the writes of a history have accepted, and that of the first one that
  failed;
- `returned`, `pushed`: the plaintext that its reads have returned, and the bytes that its peer has sent.
-/
import TlsClient.Proofs.Handshakes

namespace TlsClient

/-- something that happens to a client on a simulated board -/
inductive Event where
  | request (r : Request)
  | socket (edit : SocketEdit)
  | engine (edit : EngineEdit)
  /-- forget the session of a host -/
  | forget (name : String)
  | setTimeout (ms : Nat)
  /-- let time pass -/
  | advance (ms : Nat)
  /-- put another memory probe in -/
  | probe (probe : SimProbe)

/-- a request and its reply -/
abbrev Exchange : Type := Request × Reply

namespace Exchange

/-- did the call fail? -/
def failed (x : Exchange) : Bool := x.2.error?.isSome

/-- the plaintext that a call has accepted -/
def accepted (x : Exchange) : Bytes := if x.failed then [] else x.1.offered

/-- the plaintext that a call has returned -/
def returned (x : Exchange) : Bytes := x.2.returned

end Exchange

/-- is it a write that failed? -/
def Exchange.failedWrite (x : Exchange) : Bool := x.1.writes && x.failed

/-- the plaintext that was accepted, in order -/
def accepted (log : List Exchange) : Bytes := log.flatMap Exchange.accepted

/-- the plaintext that was returned, in order -/
def returned (log : List Exchange) : Bytes := log.flatMap Exchange.returned

/-- the plaintext of the first write that failed -/
def firstRefused (log : List Exchange) : Bytes := ((log.find? Exchange.failedWrite).map fun x => x.1.offered).getD []

/-- the bytes that an event brings to the socket -/
def Event.pushed : Event → Bytes
  | .socket (.push bytes) => bytes
  | _ => []

/-- the bytes that the peer has sent, in order -/
def pushed (events : List Event) : Bytes := events.flatMap Event.pushed

/-! ## One more exchange -/

theorem Exchange.accepted_of_failed {x : Exchange} (h : x.failed = true) : x.accepted = [] := if_pos h

theorem Exchange.accepted_of_ok {x : Exchange} (h : x.failed = false) : x.accepted = x.1.offered := if_neg (by simp [h])

theorem accepted_snoc (log : List Exchange) (x : Exchange) : accepted (log ++ [x]) = accepted log ++ x.accepted := by
  simp [accepted]

theorem returned_snoc (log : List Exchange) (x : Exchange) : returned (log ++ [x]) = returned log ++ x.returned := by
  simp [returned]

theorem pushed_snoc (events : List Event) (event : Event) :
    pushed (events ++ [event]) = pushed events ++ event.pushed := by
  simp [pushed]

/-- the first write that failed is not changed by what comes after it -/
theorem firstRefused_snoc_of_failed {log : List Exchange} (x : Exchange) (h : ∃ y ∈ log, y.failedWrite = true) :
    firstRefused (log ++ [x]) = firstRefused log := by
  obtain ⟨y, hfind⟩ := Option.isSome_iff_exists.1 (List.find?_isSome.2 h)
  simp only [firstRefused, List.find?_append, hfind, Option.some_or]

theorem firstRefused_snoc_of_none {log : List Exchange} {x : Exchange} (h : ∀ y ∈ log, y.failedWrite = false)
    (hx : x.failedWrite = true) : firstRefused (log ++ [x]) = x.1.offered := by
  have hnone : log.find? Exchange.failedWrite = none := by
    rw [List.find?_eq_none]
    intro y hy
    rw [h y hy]
    decide
  simp [firstRefused, List.find?_append, hnone, hx]

/-- a call that is answered without an error has succeeded -/
theorem Reply.ok_of_done {r : Except Error Unit} (h : (Reply.done r).error? = .none) : r = .ok () := by
  cases r with
  | ok u => rfl
  | error e => cases h

theorem Request.offered_of_not_writes {r : Request} (h : r.writes = false) : r.offered = [] := by
  cases r with
  | write | writeAll => simp [writes] at h
  | _ => rfl

namespace Client

/-- a call that is no failed write stores what it accepts -/
theorem Fits.stored_eq_accepted {r : Request} {reply : Reply} {flow : Flow} (h : Fits r reply flow)
    (hx : Exchange.failedWrite (r, reply) = false) : flow.stored = Exchange.accepted (r, reply) := by
  cases hfailed : Exchange.failed (r, reply) with
  | true =>
    rw [Exchange.accepted_of_failed hfailed]
    have hwrites : r.writes = false := by
      simpa [Exchange.failedWrite, hfailed] using hx
    have hstored := h.stored
    rw [Request.offered_of_not_writes hwrites] at hstored
    exact List.prefix_nil.1 hstored
  | false =>
    rw [Exchange.accepted_of_ok hfailed]
    exact h.all (by simpa [Exchange.failed] using hfailed)

/-- a call that stores nothing accepts nothing -/
theorem Fits.accepted_eq_nil {r : Request} {reply : Reply} {flow : Flow} (h : Fits r reply flow)
    (hstored : flow.stored = []) : Exchange.accepted (r, reply) = [] := by
  cases hfailed : Exchange.failed (r, reply) with
  | true => exact Exchange.accepted_of_failed hfailed
  | false =>
    rw [Exchange.accepted_of_ok hfailed, ← h.all (by simpa [Exchange.failed] using hfailed)]
    exact hstored

variable {slots : Nat}

/-- a change from outside; a request changes nothing by itself -/
def disturb (c : Client SimBoard slots) : Event → Client SimBoard slots
  | .request _ => c
  | .socket edit => { c with board.socket := c.board.socket.edit edit }
  | .engine edit => { c with board.engine := c.board.engine.edit edit }
  | .forget name => c.forgetSession name
  | .setTimeout ms => c.setTimeout ms
  | .advance ms => { c with board.time := c.board.time.advance ms }
  | .probe probe => { c with board.probe := probe }

/-- let events happen one after the other; `none` if a request does not come back -/
def undergo (budget : Nat) (c : Client SimBoard slots) : List Event → Option (List Exchange × Client SimBoard slots)
  | [] => some ([], c)
  | .request r :: rest =>
    match c.perform budget r with
    | none => none
    | some (reply, c) => (c.undergo budget rest).map fun rest => ((r, reply) :: rest.1, rest.2)
  | event :: rest => (c.disturb event).undergo budget rest

/-- what every event keeps holds at the end; it may speak of the events so far and of their log -/
theorem undergo_invariant {P : Event → Prop} {I : List Event → List Exchange → Client SimBoard slots → Prop}
    (hrequest : ∀ {budget past done c c' r reply}, P (.request r) → I past done c →
      c.perform budget r = some (reply, c') → I (past ++ [.request r]) (done ++ [(r, reply)]) c')
    (hdisturb : ∀ {past done c event}, P event → I past done c → I (past ++ [event]) done (c.disturb event))
    {budget : Nat} {c c' : Client SimBoard slots} {events : List Event} {log : List Exchange}
    (hevents : ∀ event ∈ events, P event) (past : List Event) (done : List Exchange) (h₀ : I past done c)
    (h : c.undergo budget events = some (log, c')) : I (past ++ events) (done ++ log) c' := by
  induction events generalizing c past done log with
  | nil =>
    cases h
    rwa [List.append_nil, List.append_nil]
  | cons event rest ih =>
    have hrest : ∀ event ∈ rest, P event := fun e he => hevents e (List.mem_cons_of_mem _ he)
    have hevent := hevents event List.mem_cons_self
    rw [List.append_cons past]
    cases event with
    | request r =>
      simp only [undergo] at h
      cases hperform : c.perform budget r with
      | none => simp [hperform] at h
      | some answer =>
        obtain ⟨reply, c₁⟩ := answer
        rw [hperform] at h
        obtain ⟨⟨log₁, c₂⟩, hrun, heq⟩ := Option.map_eq_some_iff.1 h
        cases heq
        rw [List.append_cons done]
        exact ih hrest _ _ (hrequest hevent h₀ hperform) hrun
    | _ => exact ih hrest _ _ (hdisturb hevent h₀) h

/-- a new client whose peer answers the hello with one byte and whose plaintext window has four -/
def newcomer : Client SimBoard 1 :=
  .new { socket := { incoming := [9] }, engine := { hello := [1, 2], serverFlight := 1, capacity := 4 } } {}

/-- the same, on an engine that shares one buffer -/
def sharingNewcomer : Client SimBoard 1 := { newcomer with board.engine.sharedBuffer := true }

end Client

end TlsClient

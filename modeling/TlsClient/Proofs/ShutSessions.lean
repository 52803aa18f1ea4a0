/-
What a client does while no session is open.

No session is open when a failure is on record, or when the client was never connected or was shut down. All calls that
need a session are refused by one of two guards; `stop` and `connected` have no guard and tear down, but a failure that
is on record stays.
- `Shut`: no session is open;
- `Request.failure`: the reply of a call that fails;
- `Still`: the status, the bytes on the socket, and what the engine has queued and taken, are what they were;
- `perform_shut`: every call that does not connect is refused with the reason on record, and leaves all of this still;
- `still_while_shut`: so is every sequence of such calls, from every state that a client reaches.
-/
import TlsClient.Proofs.Reachability

namespace TlsClient

/-- does the request ask for anything? to read no bytes and to write none of them make no call -/
def Request.asks : Request → Bool
  | .read room | .blockingRead room => decide (0 < room)
  | .readExact length => decide (0 < length)
  | .writeAll data => !data.isEmpty
  | _ => true

/-- does the request move plaintext? all of these are refused by the same guard -/
def Request.plain : Request → Bool
  | .write _ | .writeAll _ | .available | .peek | .readReady | .read _ | .blockingRead _ | .readExact _ => true
  | _ => false

/-- the reply of a call that fails; a stop has none, and no session is usable -/
def Request.failure (e : Error) : Request → Reply
  | .connect .. | .flush | .runUntil _ | .writeAll _ => .done (.error e)
  | .write _ | .available => .count (.error e)
  | .read _ | .blockingRead _ => .bytes (.error e)
  | .readExact _ => .filled (.error (.error e))
  | .peek => .byte (.error e)
  | .update => .state (.error e)
  | .readReady => .ready (.error e)
  | .stop => .none
  | .connected => .verdict false

namespace Client

variable {slots : Nat}

/-- no session is open: a failure is on record, or the client was never connected, or it was shut down -/
def Shut (c : Client SimBoard slots) : Prop := c.status ≠ .ok ∨ c.phase = .idle ∨ c.phase = .closed

/-- why a call is refused while no session is open -/
def refusal (c : Client SimBoard slots) : Error := if c.status = .ok then .notConnected else .status c.status

/-- no byte was moved, and the record of failures is what it was -/
structure Still (c c' : Client SimBoard slots) : Prop where
  status : c'.status = c.status
  written : c'.socket.written = c.socket.written
  incoming : c'.socket.incoming = c.socket.incoming
  writeCalls : c'.socket.writeCalls = c.socket.writeCalls
  polls : c'.socket.polls = c.socket.polls
  outgoing : c'.engine.outgoing = c.engine.outgoing
  handovers : c'.engine.handovers = c.engine.handovers
  plaintext : c'.engine.plaintext = c.engine.plaintext

theorem Still.refl (c : Client SimBoard slots) : Still c c := ⟨rfl, rfl, rfl, rfl, rfl, rfl, rfl, rfl⟩

theorem Still.trans {c c' c'' : Client SimBoard slots} (h : Still c c') (h' : Still c' c'') : Still c c'' where
  status := h'.status.trans h.status
  written := h'.written.trans h.written
  incoming := h'.incoming.trans h.incoming
  writeCalls := h'.writeCalls.trans h.writeCalls
  polls := h'.polls.trans h.polls
  outgoing := h'.outgoing.trans h.outgoing
  handovers := h'.handovers.trans h.handovers
  plaintext := h'.plaintext.trans h.plaintext

theorem Still.dropUnread (c : Client SimBoard slots) (state : EngineState) : Still c (c.dropUnread state) := by
  obtain ⟨unread, hdrained⟩ := c.engine.drained_frame state
  rw [dropUnread_eq, hdrained]
  exact ⟨rfl, rfl, rfl, rfl, rfl, rfl, rfl, rfl⟩

/-- a teardown drops what is unread and stored, and nothing that is queued -/
theorem Still.teardown (c : Client SimBoard slots) : Still c c.teardown := by
  obtain ⟨unread, hdrained⟩ := c.engine.drained_frame c.engine.state
  rw [teardown_eq, hdrained]
  exact ⟨rfl, rfl, rfl, rfl, rfl, rfl, rfl, rfl⟩

/-- **The first failure wins.** -/
theorem Still.fail {c : Client SimBoard slots} (h : c.status ≠ .ok) (s : Status) : Still c (c.fail s) := by
  rw [Client.fail, Lifecycle.fail_of_status h]
  exact .teardown c

theorem Shut.teardown (c : Client SimBoard slots) : Shut c.teardown := by
  by_cases hok : c.teardown.status = .ok
  · have hisOk : c.teardown.lifecycle.status.isOk = true := (Status.isOk_iff _).2 hok
    exact .inr (.inr (if_pos hisOk))
  · exact .inl hok

/-! ## The guards -/

/-- a client with a clean record is never connected, or shut down, only without a session -/
theorem Shut.of_ok {c : Client SimBoard slots} (h : Shut c) (hcoherent : Coherent c) (hok : c.status = .ok) :
    (c.lifecycle.stage = .idle ∨ c.lifecycle.stage = .closed) ∧ c.lifecycle.engineConnected = false := by
  have hisOk : c.lifecycle.status.isOk = true := (Status.isOk_iff _).2 hok
  have hphase : c.phase = c.lifecycle.stage := if_pos hisOk
  have hstage : c.lifecycle.stage = .idle ∨ c.lifecycle.stage = .closed := by
    rcases h with hfailed | hidle | hclosed
    · exact absurd hok hfailed
    · exact .inl (hphase ▸ hidle)
    · exact .inr (hphase ▸ hclosed)
  refine ⟨hstage, ?_⟩
  cases hup : c.lifecycle.engineConnected with
  | false => rfl
  | true =>
    rcases hstage with hidle | hclosed
    · rcases hcoherent.stage hup with hlive | hlive <;> rw [hidle] at hlive <;> cases hlive
    · rcases hcoherent.stage hup with hlive | hlive <;> rw [hclosed] at hlive <;> cases hlive

theorem Shut.softConnected {c : Client SimBoard slots} (h : Shut c) (hcoherent : Coherent c) (engine : EngineState) :
    c.lifecycle.softConnected engine = .error c.refusal := by
  by_cases hok : c.status = .ok
  · obtain ⟨-, hdown⟩ := h.of_ok hcoherent hok
    have hisOk : c.lifecycle.status.isOk = true := (Status.isOk_iff _).2 hok
    simp [Lifecycle.softConnected, refusal, hisOk, hdown, hok]
  · have hstatus : c.lifecycle.status ≠ .ok := hok
    simp [Lifecycle.softConnected, refusal, Status.isOk, status, hstatus]

theorem Shut.mayPump {c : Client SimBoard slots} (h : Shut c) (hcoherent : Coherent c) :
    c.lifecycle.mayPump = .error c.refusal := by
  by_cases hok : c.status = .ok
  · obtain ⟨hstage, -⟩ := h.of_ok hcoherent hok
    have hisOk : c.lifecycle.status.isOk = true := (Status.isOk_iff _).2 hok
    rcases hstage with hstage | hstage <;> simp [Lifecycle.mayPump, refusal, hisOk, hstage, hok]
  · have hstatus : c.lifecycle.status ≠ .ok := hok
    rw [Lifecycle.mayPump_of_status hstatus, refusal, if_neg hok, status]

theorem flush_refused {c : Client SimBoard slots} {e : Error} (budget : Nat) (h : c.lifecycle.mayPump = .error e) :
    c.flush budget = some (.error e, c) := by
  simp only [flush, h]

theorem available_refused {c : Client SimBoard slots} {e : Error} (budget : Nat)
    (h : c.lifecycle.softConnected c.flags = .error e) : c.available budget = some (.error e, c) := by
  simp only [available, h]

/-- a refusal is no end of the stream, but for a closed engine -/
theorem blockingRead_refused {c : Client SimBoard slots} {e : Error} {room : Nat} (budget : Nat) (hroom : room ≠ 0)
    (h : c.lifecycle.softConnected c.flags = .error e) :
    c.blockingRead budget room = some (if e = .engineClosed then .ok [] else .error e, c) := by
  simp only [blockingRead, if_neg hroom, h]
  cases e <;> rfl

/-- **A call that moves plaintext is refused by its guard, and then changes nothing.** -/
theorem perform_refused {c : Client SimBoard slots} {r : Request} {e : Error} (hplain : r.plain = true)
    (hasks : r.asks = true) (h : c.lifecycle.softConnected c.flags = .error e) (budget : Nat) :
    ∃ reply, c.perform budget r = some (reply, c) ∧ (e ≠ .engineClosed → reply = r.failure e) := by
  cases r with
  | write data =>
    simp only [perform, write, h]
    exact ⟨_, rfl, fun _ => rfl⟩
  | writeAll data =>
    have hdata : ¬data.isEmpty = true := by simpa [Request.asks] using hasks
    simp only [perform, writeAll, write, if_neg hdata, h]
    exact ⟨_, rfl, fun _ => rfl⟩
  | available =>
    simp only [perform, available_refused budget h]
    exact ⟨_, rfl, fun _ => rfl⟩
  | peek =>
    simp only [perform, peek, available_refused budget h]
    exact ⟨_, rfl, fun _ => rfl⟩
  | readReady =>
    simp only [perform, readReady, available_refused budget h]
    cases e with
    | engineClosed => exact ⟨_, rfl, fun hopen => absurd rfl hopen⟩
    | _ => exact ⟨_, rfl, fun _ => rfl⟩
  | read room =>
    have hroom : room ≠ 0 := Nat.ne_of_gt (by simpa [Request.asks] using hasks)
    simp only [perform, read, if_neg hroom, available_refused budget h]
    exact ⟨_, rfl, fun _ => rfl⟩
  | blockingRead room =>
    have hroom : room ≠ 0 := Nat.ne_of_gt (by simpa [Request.asks] using hasks)
    simp only [perform, blockingRead_refused budget hroom h]
    exact ⟨_, rfl, fun hopen => by rw [if_neg hopen]; rfl⟩
  | readExact length =>
    have hlength : length ≠ 0 := Nat.ne_of_gt (by simpa [Request.asks] using hasks)
    rw [perform, readExact, if_neg hlength, blockingRead_refused budget hlength h]
    split_ifs with hclosed
    · exact ⟨_, rfl, fun hopen => absurd hclosed hopen⟩
    · exact ⟨_, rfl, fun _ => rfl⟩
  | _ => cases hplain

theorem refusal_ne_engineClosed (c : Client SimBoard slots) : c.refusal ≠ .engineClosed := by
  unfold refusal
  split_ifs
  · exact nofun
  · exact nofun

/-! ## The calls -/

/-- a stop only tears down: with a failure on record, the flush before it is refused -/
theorem stop_shut {c : Client SimBoard slots} (h : Shut c) (hcoherent : Coherent c) (budget : Nat) :
    ∃ c', c.stop budget = some c' ∧ Still c c' ∧ Shut c' := by
  simp only [stop]
  split_ifs with hopen hup
  · have hconnected : c.lifecycle.engineConnected = true := by
      simp only [Bool.and_eq_true] at hopen
      exact hopen.1.1
    have hfailed : c.status ≠ .ok := by
      intro hok
      rw [(h.of_ok hcoherent hok).2] at hconnected
      cases hconnected
    let closing : Client SimBoard slots := { c with lifecycle := c.lifecycle.closing }
    have hguard : (closing.dropUnread (Engine.state c.board)).lifecycle.mayPump = .error (.status c.status) := by
      rw [dropUnread_eq]
      exact Lifecycle.mayPump_of_status (l := c.lifecycle.closing) hfailed
    have hclose : c.closeGracefully budget (Engine.state c.board) = some (closing.dropUnread (Engine.state c.board)) := by
      simp only [closeGracefully]
      rw [flush_refused budget hguard]
      rfl
    have hclosing : Still c closing := ⟨rfl, rfl, rfl, rfl, rfl, rfl, rfl, rfl⟩
    exact ⟨_, congrArg (Option.map Client.teardown) hclose,
      (hclosing.trans (.dropUnread closing _)).trans (.teardown _), .teardown _⟩
  · exact ⟨_, rfl, .teardown c.polled, .teardown _⟩
  · exact ⟨_, rfl, .teardown c, .teardown _⟩

/-- a socket that vanished adds nothing to the record -/
theorem connected_shut {c : Client SimBoard slots} (h : Shut c) (hcoherent : Coherent c) :
    c.connected.1 = false ∧ Still c c.connected.2 ∧ Shut c.connected.2 := by
  by_cases hok : c.status = .ok
  · obtain ⟨-, hdown⟩ := h.of_ok hcoherent hok
    simp only [connected, hdown, Bool.false_and, Bool.false_eq_true, if_false, Lifecycle.verdict, Bool.and_false]
    exact ⟨trivial, .refl c, h⟩
  · have hstatus : c.lifecycle.status ≠ .ok := hok
    have hfail : Still c (c.polled.fail .transportWrite) := Still.fail (c := c.polled) hok .transportWrite
    simp only [connected]
    split_ifs
    · exact ⟨rfl, hfail, .inl (by rw [hfail.status]; exact hok)⟩
    · exact ⟨by simp [Lifecycle.verdict, Status.isOk, hstatus], .refl c, h⟩

/-- **While no session is open, a call that does not connect is refused and moves nothing.** -/
theorem perform_shut {c : Client SimBoard slots} {r : Request} (h : Shut c) (hcoherent : Coherent c)
    (hopens : r.opens = false) (hasks : r.asks = true) (budget : Nat) :
    ∃ c', c.perform budget r = some (r.failure c.refusal, c') ∧ Still c c' ∧ Shut c' := by
  have hpump := h.mayPump hcoherent
  -- all calls but two leave the client as it is
  have hsame : c.perform budget r = some (r.failure c.refusal, c) → ∃ c', c.perform budget r =
      some (r.failure c.refusal, c') ∧ Still c c' ∧ Shut c' := fun hperform => ⟨c, hperform, .refl c, h⟩
  cases r with
  | connect => cases hopens
  | stop =>
    obtain ⟨c', hstop, hstill, hshut⟩ := stop_shut h hcoherent budget
    refine ⟨c', ?_, hstill, hshut⟩
    simp only [perform, hstop]
    rfl
  | connected =>
    obtain ⟨hverdict, hstill, hshut⟩ := connected_shut h hcoherent
    refine ⟨c.connected.2, ?_, hstill, hshut⟩
    simp only [perform, hverdict]
    rfl
  | flush =>
    apply hsame
    simp only [perform, flush_refused budget hpump]
    rfl
  | update =>
    apply hsame
    simp only [perform, update, hpump]
    rfl
  | runUntil target =>
    apply hsame
    simp only [perform, runUntil, hpump]
    rfl
  | _ =>
    apply hsame
    obtain ⟨reply, hperform, hreply⟩ := perform_refused rfl hasks (h.softConnected hcoherent c.flags) budget
    rw [hperform, hreply c.refusal_ne_engineClosed]

/-- a sequence of such calls: by induction, since each of them keeps the status and leaves no session open -/
theorem undergo_shut {c : Client SimBoard slots} {requests : List Request} (h : Shut c) (hcoherent : Coherent c)
    (hrequests : ∀ r ∈ requests, r.opens = false ∧ r.asks = true) (budget : Nat) :
    ∃ c', c.undergo budget (requests.map .request) = some (requests.map fun r => (r, r.failure c.refusal), c') ∧
      Still c c' := by
  induction requests generalizing c with
  | nil => exact ⟨c, rfl, .refl c⟩
  | cons r rest ih =>
    obtain ⟨hopens, hasks⟩ := hrequests r List.mem_cons_self
    obtain ⟨c₁, hperform, hstill, hshut⟩ := perform_shut h hcoherent hopens hasks budget
    have hrest : ∀ r ∈ rest, r.opens = false ∧ r.asks = true := fun r hr => hrequests r (List.mem_cons_of_mem _ hr)
    obtain ⟨c₂, hrun, hstill'⟩ := ih hshut (perform_coherent hcoherent hperform) hrest
    have hrefusal : c₁.refusal = c.refusal := by rw [refusal, refusal, hstill.status]
    rw [hrefusal] at hrun
    refine ⟨c₂, ?_, hstill.trans hstill'⟩
    simp only [List.map_cons, undergo, hperform, hrun]
    rfl

/-- **Nothing moves while no session is open, and the first failure wins.** In every state that a new client reaches, by
whatever requests and changes from outside, in which no session is open: whatever calls follow that do not connect, each
is refused with the status on record, or for want of a connection, and neither the status changes, nor the bytes on the
socket, nor what the engine has queued and taken. -/
theorem still_while_shut {board : SimBoard} {config : Config} {c : Client SimBoard slots} {requests : List Request}
    (hreaches : Reaches (fun _ _ => True) (new board config) c) (hshut : c.Shut)
    (hrequests : ∀ r ∈ requests, r.opens = false ∧ r.asks = true) (budget : Nat) :
    ∃ c', c.undergo budget (requests.map .request) = some (requests.map fun r => (r, r.failure c.refusal), c') ∧
      Still c c' :=
  undergo_shut hshut (hreaches.coherent (.new board config)) hrequests budget

/-- the socket vanishes under a session with unread plaintext, and the peer refuses to be called again -/
theorem still_while_shut_refused :
    ∃ c : Client SimBoard 1,
      Reaches (fun _ _ => True)
        (new { socket := { incoming := [9] }, engine := { hello := [1, 2], serverFlight := 1, capacity := 4 } } {}) c ∧
      c.status = .transportConnect ∧ c.lifecycle.engineConnected = true ∧ c.engine.unread = [5] ∧
      ∃ c',
        c.undergo 0 [.request .update, .request .connected, .request (.write [1]), .request .stop,
            .request (.blockingRead 2)] =
          some ([(.update, .state (.error (.status .transportConnect))), (.connected, .verdict false),
            (.write [1], .count (.error (.status .transportConnect))), (.stop, .none),
            (.blockingRead 2, .bytes (.error (.status .transportConnect)))], c') ∧ Still c c' := by
  have hplayed :
      (newcomer.undergo 50 [.request (.connect (.name "a") 443 fun _ => []), .socket (.push [5]), .request .available,
        .socket (.isConnected false), .socket (.acceptsConnect false),
        .request (.connect (.name "b") 443 fun _ => [])]).map
          (fun s => (s.2.status, s.2.lifecycle.engineConnected, s.2.engine.unread)) =
        some (.transportConnect, true, [5]) := by
    decide +kernel
  obtain ⟨⟨log, c⟩, hrun, heq⟩ := Option.map_eq_some_iff.1 hplayed
  obtain ⟨hstatus, hup, hunread⟩ : c.status = .transportConnect ∧ c.lifecycle.engineConnected = true ∧
      c.engine.unread = [5] := by
    simpa using heq
  have hreaches : Reaches (fun _ _ => True) newcomer c := .of_undergo (fun _ _ _ => trivial) hrun
  have hrefusal : c.refusal = .status .transportConnect := by simp [refusal, hstatus]
  have hcalls : ∀ r ∈ [Request.update, .connected, .write [1], .stop, .blockingRead 2],
      r.opens = false ∧ r.asks = true := by
    simp [Request.opens, Request.asks]
  obtain ⟨c', hcalls, hstill⟩ := still_while_shut hreaches (.inl (by rw [hstatus]; decide)) hcalls 0
  rw [hrefusal] at hcalls
  exact ⟨c, hreaches, hstatus, hup, hunread, c', hcalls, hstill⟩

end Client

end TlsClient

/-
A client that is stopped once more.

A stop comes to its end with a teardown, whether a graceful shutdown went before, failed, or was skipped. So what the
next stop finds does not depend on what the first one found: no session, nothing stored, the socket closed, and nothing
unread that the flags of the engine report. All it does is to flush and to close the socket again.
- `SimEngine.shown_drained`: what the flags reported unread is gone, or they reported none and still do not;
- `stop_of_down`, `teardown_of_drained`: on every board, a stop without a session is a teardown, and a teardown with
  nothing to discard makes two calls;
- `Stopped`, `Stopped.teardown`: what a teardown leaves;
- `Stopped.stop`, `Stopped.overheard`: what another stop does, and what it says to the board;
- `Stopped.stops`: what any number of them do;
- `stop_idempotent`: all this for every client, whatever state it is stopped in.
Nothing is assumed of the engine or the socket. Flags may be forced, and the flush inside the first stop may fail.
-/
import TlsClient.Proofs.LifecycleStates
import TlsClient.Proofs.Termination
import TlsClient.Proofs.Transcripts

namespace TlsClient

/-- after unread plaintext was dropped by its own flags, an engine reports none that is there -/
theorem SimEngine.shown_drained (e : SimEngine) (hrecv : (e.drained e.state).state.recvApp = true) :
    (e.drained e.state).unread = [] := by
  unfold drained at hrecv ⊢
  split_ifs at hrecv ⊢ with hreports
  · rfl
  · exact absurd hrecv hreports

namespace Client

/-! ## On every board -/

section

variable {β : Type} [Board β] {slots : Nat} {c : Client β slots}

theorem stop_of_down (hdown : c.lifecycle.engineConnected = false) (budget : Nat) :
    c.stop budget = some c.teardown := by
  simp [stop, hdown]

/-- with nothing unread that the flags report, a teardown only flushes and closes the socket -/
theorem teardown_of_drained (hshown : c.flags.recvApp = true → Engine.recvAppBuf c.board = []) :
    c.teardown =
      { c with
        board := Transport.stop (Transport.flush c.board).2
        backlog := .empty
        lifecycle := c.lifecycle.closed } := by
  have hkept : c.dropUnread c.flags = c := by
    refine if_neg fun hdrop => ?_
    obtain ⟨hrecv, hsome⟩ := Bool.and_eq_true_iff.1 hdrop
    rw [hshown hrecv] at hsome
    exact absurd hsome (by decide)
  rw [teardown, hkept]

end

variable {slots : Nat} {c c' : Client SimBoard slots} {budget : Nat}

/-! ## What a stop leaves -/

/-- the connection was torn down, nothing is stored, and nothing is unread that the flags report -/
structure Stopped (c : Client SimBoard slots) : Prop extends Down c where
  backlog : c.backlog = .empty
  shown : c.engine.state.recvApp = true → c.engine.unread = []

theorem Stopped.teardown (c : Client SimBoard slots) : Stopped c.teardown := by
  refine ⟨.teardown c, ?_, ?_⟩
  · rw [teardown_eq]
  · rw [teardown_eq]
    exact SimEngine.shown_drained c.engine

/-- a stop leaves a stopped client, however it went -/
theorem Stopped.of_stop (h : c.stop budget = some c') : Stopped c' := by
  -- whatever came before it, the last thing that a stop does is a teardown
  obtain ⟨_, c₁, -, -, -, rfl⟩ := stop_spec h
  exact .teardown c₁

theorem Stopped.closed (h : Stopped c) : c.lifecycle.closed = c.lifecycle := by
  rw [Lifecycle.closed, ← h.stage, ← h.session]

/-- the socket was flushed and closed that many more times -/
def shutMore (times : Nat) (c : Client SimBoard slots) : Client SimBoard slots :=
  { c with
    board.socket.flushes := c.socket.flushes + times
    board.socket.stops := c.socket.stops + times }

theorem shutMore_add (times more : Nat) (c : Client SimBoard slots) :
    (c.shutMore times).shutMore more = c.shutMore (times + more) := by
  simp only [shutMore, Nat.add_assoc]

theorem Stopped.shutMore (h : Stopped c) (times : Nat) : Stopped (c.shutMore times) :=
  ⟨⟨h.stage, h.session, h.socket⟩, h.backlog, h.shown⟩

/-! ## What another stop does -/

/-- to tear a stopped client down flushes and closes its socket once more, and changes nothing else -/
theorem Stopped.teardown_again (h : Stopped c) : c.teardown = c.shutMore 1 := by
  have hsocket : c.socket.shut = { c.socket with flushes := c.socket.flushes + 1, stops := c.socket.stops + 1 } := by
    rw [SimSocket.shut, ← h.socket]
  have hboard : Transport.stop (Transport.flush c.board).2 = { c.board with socket := c.socket.shut } := rfl
  rw [teardown_of_drained h.shown, h.closed, ← h.backlog, hboard, hsocket]
  rfl

/-- **To stop a stopped client is to tear it down again.** -/
theorem Stopped.stop (h : Stopped c) (budget : Nat) : c.stop budget = some (c.shutMore 1) := by
  rw [stop_of_down h.session, h.teardown_again]

/-- what another stop says to the board: to flush and to close the socket, and no more -/
theorem Stopped.overheard (h : Stopped c) (budget : Nat) :
    ∃ o, c.overhear.stop budget = some o ∧ o.carry Overheard.forget = c.shutMore 1 ∧
      o.board.said = [.call (.flush true), .call .stop] := by
  have htorn := teardown_of_drained (c := c.overhear) h.shown
  refine ⟨c.overhear.teardown, stop_of_down (c := c.overhear) h.session budget, ?_, ?_⟩
  · rw [← h.teardown_again, htorn]
    exact (teardown_of_drained h.shown).symm
  · rw [htorn]
    rfl

theorem Stopped.stops (h : Stopped c) (budget times : Nat) :
    c.undergo budget (List.replicate times (.request .stop)) =
      some (List.replicate times (.stop, .none), c.shutMore times) := by
  induction times generalizing c with
  | zero => rfl
  | succ times ih =>
    simp only [List.replicate_succ, undergo, perform, h.stop, Option.map_some, ih (h.shutMore 1), shutMore_add]
    rw [Nat.add_comm]

theorem Stopped.connected (h : Stopped c) : c.connected = (false, c) := by
  have hsocket : (Transport.connected c.board).1 = false := h.socket
  have hpolled : c.polled = c := rfl
  simp [Client.connected, Lifecycle.verdict, h.session, hsocket, hpolled]

/-- **To stop twice is to stop once.** Whatever the state of client, engine and socket:
- after a stop no session is up, nothing is stored, the socket is closed, and the client says that it is not connected,
  which leaves on record what was on record;
- another stop leaves all of client and board as it is, but for the counts of flushes and closures of the socket, which
  both go up by one. To the board it says to flush and to close the socket, and nothing else: it acknowledges nothing,
  reads, writes and polls nothing, and takes no time. Any number of stops go on like this;
- a stop comes to an end, if to read the clock takes time at all. -/
theorem stop_idempotent (c : Client SimBoard slots) :
    (∀ budget c', c.stop budget = some c' →
      (c'.lifecycle.engineConnected = false ∧ c'.pending = 0 ∧ c'.socket.isConnected = false ∧
        c'.connected.1 = false ∧ c'.connected.2.status = c'.status) ∧
      ∀ again,
        c'.stop again = some (c'.shutMore 1) ∧
          (∃ o, c'.overhear.stop again = some o ∧ o.carry Overheard.forget = c'.shutMore 1 ∧
            o.board.said = [.call (.flush true), .call .stop]) ∧
          ∀ times, c'.undergo again (List.replicate times (.request .stop)) =
            some (List.replicate times (.stop, .none), c'.shutMore times)) ∧
    (0 < c.tick → ∃ c', Settles (fun budget => c.stop budget) c') := by
  refine ⟨fun budget c' hstop => ?_, fun htick => stop_settles htick⟩
  have hstopped : Stopped c' := .of_stop hstop
  have hpending : c'.pending = 0 := congrArg Backlog.pending hstopped.backlog
  refine ⟨⟨hstopped.session, hpending, hstopped.socket, ?_, ?_⟩, fun again => ?_⟩
  · rw [hstopped.connected]
  · rw [hstopped.connected]
  · exact ⟨hstopped.stop again, hstopped.overheard again, hstopped.stops again⟩

/-- two bytes are stored and the peer is silent: the flush inside the first stop fails, and two more stops find nothing
left to do -/
theorem stop_idempotent_failed_flush :
    ∃ c c' : Client SimBoard 1, 0 < c.tick ∧ c.pending = 2 ∧ c.stop 50 = some c' ∧ c'.status = .engineWrite ∧
      c'.socket.flushes = 4 ∧ c'.socket.stops = 2 ∧ c'.pending = 0 ∧ c'.connected.1 = false ∧
      c'.stop 50 = some (c'.shutMore 1) ∧
      c'.undergo 50 [.request .stop, .request .stop] = some ([(.stop, .none), (.stop, .none)], c'.shutMore 2) ∧
      ∃ settled, Settles (fun budget => c.stop budget) settled := by
  have hplayed :
      (newcomer.undergo 50 [.request (.connect (.name "a") 443 fun _ => []), .request (.write [5, 6]),
        .setTimeout 20]).bind
          (fun s => (s.2.stop 50).map fun c' =>
            (s.2.tick, s.2.pending, c'.status, c'.socket.flushes, c'.socket.stops)) =
        some (1, 2, .engineWrite, 4, 2) := by
    decide +kernel
  obtain ⟨⟨log, c⟩, hrun, hstopped⟩ := Option.bind_eq_some_iff.1 hplayed
  obtain ⟨c', hstop, heq⟩ := Option.map_eq_some_iff.1 hstopped
  simp only [Prod.mk.injEq] at heq
  obtain ⟨htick, hpending, hstatus, hflushes, hstops⟩ := heq
  have htick : 0 < c.tick := by
    rw [htick]
    decide
  obtain ⟨hleft, hsettles⟩ := stop_idempotent c
  obtain ⟨⟨-, hnone, -, hdown, -⟩, hagain⟩ := hleft 50 c' hstop
  obtain ⟨hsecond, -, hmore⟩ := hagain 50
  exact ⟨c, c', htick, hpending, hstop, hstatus, hflushes, hstops, hnone, hdown, hsecond, hmore 2, hsettles htick⟩

end Client

end TlsClient

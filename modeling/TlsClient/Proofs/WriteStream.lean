/-
The stream of plaintext from the writes of a client to the socket.

Plaintext is stored in the window of the engine, handed over in one of two places, and leaves in as many pieces as the
socket likes. On a connection, `Ledger` accounts for every byte of it:

  told = acked ++ (stored in the window) ++ lost        handed over, still in the window, lost in a teardown
  hello ++ acked = sent ++ (queued in the engine)       accepted by the socket, still queued

- `Ledger.move`: every step keeps the account;
- `Held`: a session is up, with nothing on record, or the socket was stopped since;
- `Ended`: from here on nothing more can be stored;
- `write_stream`: the writes of a history, the plaintext the engine got, and the bytes the socket accepted.
-/
import TlsClient.Proofs.Histories

namespace TlsClient

namespace Client

variable {slots : Nat}

/-! ## The account -/

/-- where the plaintext `told` to a connection is, and where the bytes are that the socket was to get. The connection
began with `start`, which had nothing stored. -/
structure Ledger (start : Client SimBoard slots) (told : Bytes) (c : Client SimBoard slots) : Prop where
  natural : c.engine.forced = none
  honest : c.socket.overreport = 0
  /-- the window in use is the one that the engine hands out -/
  window : 0 < c.pending → c.engine.plainWindow.length = c.engine.capacity ∧ c.pending ≤ c.engine.capacity
  account : ∃ acked sent lost,
    c.engine.plaintext = start.engine.plaintext ++ acked ∧
    c.socket.written = start.socket.written ++ sent ∧
    start.engine.outgoing ++ acked = sent ++ c.engine.outgoing ∧
    told = acked ++ c.engine.plainWindow.take c.pending ++ lost ∧
    (c.lifecycle.engineConnected = true → lost = [])

/-- plaintext in use stays in place when the window is handed out -/
theorem Ledger.take_fitted {start c : Client SimBoard slots} {told : Bytes} (h : Ledger start told c) :
    c.engine.fitted.take c.pending = c.engine.plainWindow.take c.pending := by
  rcases Nat.eq_zero_or_pos c.pending with hzero | hpos
  · rw [hzero, List.take_zero, List.take_zero]
  · rw [SimEngine.fitted, Bytes.resize_of_length (h.window hpos).1]

theorem Ledger.hand {start c c' : Client SimBoard slots} {told : Bytes} (h : Ledger start told c)
    (hengine : c'.engine = c.engine.hand c.pending) (hsocket : c'.socket = c.socket) (hpending : c'.pending = 0)
    (hlife : c'.lifecycle = c.lifecycle) : Ledger start told c' := by
  obtain ⟨acked, sent, lost, hplain, hwritten, hqueue, htold, hlost⟩ := h.account
  refine ⟨?_, ?_, ?_, acked ++ c.engine.plainWindow.take c.pending, sent, lost, ?_, ?_, ?_, ?_, ?_⟩
  · rw [hengine]; exact h.natural
  · rw [hsocket]; exact h.honest
  · rw [hpending]; exact fun hpos => absurd hpos (Nat.lt_irrefl 0)
  · rw [hengine]
    simp only [SimEngine.hand, h.take_fitted, hplain, List.append_assoc]
  · rw [hsocket]; exact hwritten
  · rw [hengine]
    simp only [SimEngine.hand, h.take_fitted]
    rw [← List.append_assoc, hqueue, List.append_assoc]
  · rw [hpending, List.take_zero, List.append_nil]; exact htold
  · rw [hlife]; exact hlost

theorem Ledger.store {start c c' : Client SimBoard slots} {told data : Bytes} (h : Ledger start told c)
    (hup : c.lifecycle.engineConnected = true) (hroom : c.pending + data.length ≤ c.engine.capacity)
    (hengine : c'.engine = { c.engine with plainWindow := Bytes.overwrite c.engine.fitted c.pending data })
    (hsocket : c'.socket = c.socket) (hpending : c'.pending = c.pending + data.length) :
    Ledger start (told ++ data) c' := by
  obtain ⟨acked, sent, lost, hplain, hwritten, hqueue, htold, hlost⟩ := h.account
  have hfit : c.pending + data.length ≤ c.engine.fitted.length := by rwa [SimEngine.length_fitted]
  refine ⟨?_, ?_, ?_, acked, sent, [], ?_, ?_, ?_, ?_, fun _ => rfl⟩
  · rw [hengine]; exact h.natural
  · rw [hsocket]; exact h.honest
  · intro _
    rw [hengine, hpending]
    exact ⟨(Bytes.length_overwrite _ _ _).trans (SimEngine.length_fitted _), hroom⟩
  · rw [hengine]; exact hplain
  · rw [hsocket]; exact hwritten
  · rw [hengine]; exact hqueue
  · rw [hengine, hpending, htold, hlost hup]
    simp only [Bytes.take_overwrite hfit, h.take_fitted, List.append_nil, List.append_assoc]

/-- what was written stays as it is: only the peer, or windows of no use, have changed -/
theorem Ledger.frame {start c c' : Client SimBoard slots} {told : Bytes} (h : Ledger start told c)
    (hengine : ∃ phase unread recvWindow plainWindow session handshakes,
      c'.engine = { c.engine with phase, unread, recvWindow, plainWindow, session, handshakes } ∧
        (plainWindow = c.engine.plainWindow ∨ c.pending = 0))
    (hsocket : c'.socket.overreport = c.socket.overreport ∧ c'.socket.written = c.socket.written)
    (hpending : c'.pending = c.pending)
    (hup : c'.lifecycle.engineConnected = true → c.lifecycle.engineConnected = true) : Ledger start told c' := by
  obtain ⟨phase, unread, recvWindow, plainWindow, session, handshakes, hengine, hwindow⟩ := hengine
  obtain ⟨acked, sent, lost, hplain, hwritten, hqueue, htold, hlost⟩ := h.account
  refine ⟨?_, ?_, ?_, acked, sent, lost, ?_, ?_, ?_, ?_, fun hup' => hlost (hup hup')⟩
  · rw [hengine]; exact h.natural
  · rw [hsocket.1]; exact h.honest
  · rw [hpending, hengine]
    intro hpos
    rcases hwindow with rfl | hzero
    · exact h.window hpos
    · omega
  · rw [hengine]; exact hplain
  · rw [hsocket.2]; exact hwritten
  · rw [hengine]; exact hqueue
  · rw [hpending, hengine, htold]
    rcases hwindow with rfl | hzero
    · rfl
    · rw [hzero, List.take_zero, List.take_zero]

theorem Ledger.lose {start c c' : Client SimBoard slots} {told : Bytes} (h : Ledger start told c)
    (hengine : ∃ plainWindow recvWindow unread, c'.engine = { c.engine with plainWindow, recvWindow, unread })
    (hsocket : c'.socket.overreport = c.socket.overreport ∧ c'.socket.written = c.socket.written)
    (hpending : c'.pending = 0) (hdown : c'.lifecycle.engineConnected = false) : Ledger start told c' := by
  obtain ⟨plainWindow, recvWindow, unread, hengine⟩ := hengine
  obtain ⟨acked, sent, lost, hplain, hwritten, hqueue, htold, -⟩ := h.account
  refine ⟨?_, ?_, ?_, acked, sent, c.engine.plainWindow.take c.pending ++ lost, ?_, ?_, ?_, ?_, ?_⟩
  · rw [hengine]; exact h.natural
  · rw [hsocket.1]; exact h.honest
  · rw [hpending]; exact fun hpos => absurd hpos (Nat.lt_irrefl 0)
  · rw [hengine]; exact hplain
  · rw [hsocket.2]; exact hwritten
  · rw [hengine]; exact hqueue
  · rw [hpending, htold]
    simp only [List.take_zero, List.append_nil, List.append_assoc]
  · rw [hdown]; exact fun hup => absurd hup (by decide)

/-- **Every step keeps the account.** -/
theorem Ledger.move {start c c' : Client SimBoard slots} {told : Bytes} {f : Flow} (h : Ledger start told c)
    (hmove : Move c f c') : Ledger start (told ++ f.stored) c' := by
  have hsame : told ++ ({} : Flow).stored = told := List.append_nil told
  cases hmove with
  | @sent count hok hsend hup hcount hpos hle =>
    obtain ⟨acked, sent, lost, hplain, hwritten, hqueue, htold, hlost⟩ := h.account
    rw [hsame]
    refine ⟨h.natural, h.honest, h.window, acked, sent ++ c.engine.outgoing.take count, lost, hplain, ?_, ?_, htold,
      hlost⟩
    · rw [← List.append_assoc, ← hwritten]
    · have hsplit : c.engine.outgoing.take count ++ c.engine.outgoing.drop (count + c.socket.overreport) =
          c.engine.outgoing := by
        rw [h.honest, Nat.add_zero, List.take_append_drop]
      calc start.engine.outgoing ++ acked
          = sent ++ c.engine.outgoing := hqueue
        _ = sent ++ (c.engine.outgoing.take count ++ c.engine.outgoing.drop (count + c.socket.overreport)) := by
            rw [hsplit]
        _ = _ := (List.append_assoc ..).symm
  | handed | full =>
    rw [hsame]
    exact h.hand rfl rfl rfl rfl
  | @received count hok hopen hpending hrecv hpos hwant hle hover =>
    rw [hsame]
    obtain ⟨phase, unread, session, handshakes, hreceive⟩ := c.engine.receive_frame (c.socket.incoming.take count)
    exact h.frame ⟨phase, unread, [], _, session, handshakes, hreceive, .inl rfl⟩ ⟨rfl, rfl⟩ rfl id
  | @failed s c₁ hs hharm =>
    rw [hsame, fail_eq]
    obtain ⟨plainWindow, recvWindow, hengine, -⟩ := hharm.engine
    obtain ⟨written, incoming, calls, polls, hsocket, -, -, hsame'⟩ := hharm.socket
    obtain ⟨unread, hdrained⟩ := c₁.engine.drained_frame c₁.engine.state
    refine h.lose ⟨plainWindow, recvWindow, unread, ?_⟩ ⟨?_, ?_⟩ rfl rfl
    · exact hdrained.trans (by rw [hengine])
    · exact (congrArg SimSocket.overreport hsocket :)
    · exact (congrArg SimSocket.written hsocket :).trans (hsame' h.honest).1
  | store hok hup htake hroom => exact h.store hup (Nat.le_of_lt hroom) rfl rfl rfl
  | @fill part hok hup htake hroom hfull =>
    -- first the plaintext is stored, then the window is handed over
    let stored : Client SimBoard slots :=
      { c with
        board.engine.plainWindow := Bytes.overwrite c.engine.fitted c.pending part
        backlog := c.backlog.advance part.length }
    have hstored : Ledger start (told ++ part) stored := h.store hup (Nat.le_of_eq hfull) rfl rfl rfl
    exact hstored.hand rfl rfl rfl rfl
  | noWindow hpending he =>
    rw [hsame]
    rcases he with rfl | rfl
    · exact ⟨h.natural, h.honest, h.window, h.account⟩
    · exact h.frame ⟨_, _, _, _, _, _, rfl, .inr hpending⟩ ⟨rfl, rfl⟩ rfl id
  | take room => rw [List.append_nil]; exact ⟨h.natural, h.honest, h.window, h.account⟩
  | drop state =>
    rw [hsame]
    obtain ⟨unread, hdrained⟩ := c.engine.drained_frame state
    exact h.frame ⟨_, unread, _, _, _, _, hdrained, .inl rfl⟩ ⟨rfl, rfl⟩ rfl id
  | down =>
    rw [hsame, teardown_eq]
    obtain ⟨unread, hdrained⟩ := c.engine.drained_frame c.engine.state
    exact h.lose ⟨_, _, unread, hdrained⟩ ⟨rfl, rfl⟩ rfl rfl
  | discard _ _ _ hpending =>
    rw [hsame]
    exact h.frame ⟨_, [], _, _, _, _, rfl, .inl rfl⟩ ⟨rfl, rfl⟩ hpending.symm id
  | closing => rw [List.append_nil]; exact ⟨h.natural, h.honest, h.window, h.account⟩
  | waited | clock | nudge | idle | poll =>
    rw [hsame]
    exact ⟨h.natural, h.honest, h.window, h.account⟩

/-! ## The session -/

/-- a session is up and nothing is on record, or the socket was stopped since; `stops` counts the stops before -/
structure Held (stops : Nat) (c : Client SimBoard slots) : Prop where
  up : c.lifecycle.engineConnected = true → c.status = .ok ∧ c.abort = false ∧ c.socket.stops = stops
  down : c.lifecycle.engineConnected = false → stops < c.socket.stops

theorem Held.stops_le {stops : Nat} {c : Client SimBoard slots} (h : Held stops c) : stops ≤ c.socket.stops := by
  cases hup : c.lifecycle.engineConnected with
  | true => exact Nat.le_of_eq (h.up hup).2.2.symm
  | false => exact Nat.le_of_lt (h.down hup)

theorem Held.shut {stops : Nat} {c c' : Client SimBoard slots} (h : Held stops c)
    (hstops : c'.socket.stops = c.socket.stops + 1) (hdown : c'.lifecycle.engineConnected = false) : Held stops c' := by
  constructor
  · intro hup
    rw [hdown] at hup
    exact absurd hup (by decide)
  · intro _
    rw [hstops]
    exact Nat.lt_succ_of_le h.stops_le

theorem Held.move {stops : Nat} {c c' : Client SimBoard slots} {f : Flow} (h : Held stops c) (hmove : Move c f c') :
    Held stops c' := by
  cases hmove with
  | @failed s c₁ hs hharm =>
    obtain ⟨written, incoming, calls, polls, hsocket, -⟩ := hharm.socket
    rw [fail_eq]
    exact h.shut (congrArg (fun socket : SimSocket => socket.stops + 1) hsocket :) rfl
  | down =>
    rw [teardown_eq]
    exact h.shut rfl rfl
  | _ => exact ⟨h.up, h.down⟩

/-- nothing more can be stored on this connection -/
def Ended (c : Client SimBoard slots) : Prop := c.lifecycle.engineConnected = false ∨ c.engine.phase = .closed

theorem Held.ended {stops : Nat} {c : Client SimBoard slots} (h : Held stops c) (hforced : c.engine.forced = none)
    (hover : c.Over) : c.Ended := by
  cases hup : c.lifecycle.engineConnected with
  | false => exact .inl hup
  | true =>
    obtain ⟨hok, habort, -⟩ := h.up hup
    rcases hover with habort' | hstatus | hdown | hclosed
    · rw [habort] at habort'
      exact absurd habort' (by decide)
    · exact absurd hok hstatus
    · rw [hup] at hdown
      exact absurd hdown (by decide)
    · exact .inr ((SimEngine.closed_iff hforced).1 hclosed)

/-- after the end there is no session that takes plaintext -/
theorem Ended.takes_none {c : Client SimBoard slots} (h : c.Ended) (hforced : c.engine.forced = none)
    (hup : c.lifecycle.engineConnected = true) : c.engine.state.sendApp = false := by
  rw [Bool.eq_false_iff]
  intro htake
  rcases h with hdown | hclosed
  · rw [hup] at hdown
    exact absurd hdown (by decide)
  · exact SimEngine.phase_ne_closed_of_sendApp hforced htake hclosed

theorem Ended.move {c c' : Client SimBoard slots} {f : Flow} (h : c.Ended) (hforced : c.engine.forced = none)
    (hmove : Move c f c') : c'.Ended ∧ f.stored = [] := by
  cases hmove with
  | store _ hup htake =>
    rw [h.takes_none hforced hup] at htake
    exact absurd htake (by decide)
  | fill _ hup htake =>
    rw [h.takes_none hforced hup] at htake
    exact absurd htake (by decide)
  | received => exact ⟨h.imp_right fun hclosed => SimEngine.receive_closed hclosed _, rfl⟩
  | noWindow _ he => exact ⟨h.imp_right fun hclosed => by rcases he with rfl | rfl <;> exact hclosed, rfl⟩
  | drop state =>
    obtain ⟨unread, hdrained⟩ := c.engine.drained_frame state
    exact ⟨h.imp_right fun hclosed => (congrArg SimEngine.phase hdrained :).trans hclosed, rfl⟩
  | failed => rw [fail_eq]; exact ⟨.inl rfl, rfl⟩
  | down => rw [teardown_eq]; exact ⟨.inl rfl, rfl⟩
  | _ => exact ⟨h, rfl⟩

theorem Steps.ledger {start c c' : Client SimBoard slots} {told : Bytes} {f : Flow} (hledger : Ledger start told c)
    (h : Steps c f c') : Ledger start (told ++ f.stored) c' := by
  refine h.invariant (I := fun f c' => Ledger start (told ++ f.stored) c') ?_ ?_
  · intro f g c₁ c₂ hledger₁ hstep
    have hledger₂ := hledger₁.move hstep.move
    rwa [List.append_assoc] at hledger₂
  · exact (List.append_nil told).symm ▸ hledger

theorem Steps.held {c c' : Client SimBoard slots} {stops : Nat} {f : Flow} (hheld : Held stops c) (h : Steps c f c') :
    Held stops c' :=
  h.invariant (I := fun _ c' => Held stops c') (fun hheld hstep => hheld.move hstep.move) hheld

theorem Steps.ended {start c c' : Client SimBoard slots} {told : Bytes} {f : Flow} (hledger : Ledger start told c)
    (hended : c.Ended) (h : Steps c f c') : c'.Ended ∧ f.stored = [] := by
  have hboth := h.invariant
    (I := fun f c' => Ledger start (told ++ f.stored) c' ∧ c'.Ended ∧ f.stored = []) ?_ ⟨?_, hended, rfl⟩
  · exact hboth.2
  · rintro f g c₁ c₂ ⟨hledger₁, hended₁, hnone⟩ hstep
    obtain ⟨hended₂, hnone'⟩ := hended₁.move hledger₁.natural hstep.move
    refine ⟨?_, hended₂, ?_⟩
    · have hledger₂ := hledger₁.move hstep.move
      rwa [List.append_assoc] at hledger₂
    · rw [Flow.stored_append, hnone, hnone', List.append_nil]
  · exact (List.append_nil told).symm ▸ hledger

end Client

/-! ## Histories -/

/-- an event that leaves the writes of a connection accounted for: no other connect, no change to the engine but a
closure, and the socket stays honest -/
def Event.keepsWrites : Event → Prop
  | .request r => r.opens = false
  | .socket (.overreport _) => False
  | .engine edit => edit = .close
  | _ => True

namespace Client

variable {slots : Nat}

/-- how the plaintext told to a connection agrees with the replies to its writes -/
inductive Told (log : List Exchange) (c : Client SimBoard slots) : Bytes → Prop
  /-- no write has failed, and everything was stored -/
  | all (hlog : ∀ x ∈ log, x.failedWrite = false) : Told log c (accepted log)
  /-- a part of the first write that failed was stored, and nothing after it -/
  | part {part} (hlog : ∃ x ∈ log, x.failedWrite = true) (hended : c.Ended) (hpart : part <+: firstRefused log) :
      Told log c (accepted log ++ part)

/-- the account of a connection and of the replies to its writes -/
structure WriteLog (start : Client SimBoard slots) (stops : Nat) (log : List Exchange) (c : Client SimBoard slots) :
    Prop where
  held : Held stops c
  told : ∃ told, Ledger start told c ∧ Told log c told

/-- **Every request keeps the account of the writes.** -/
theorem WriteLog.request {start c c' : Client SimBoard slots} {stops budget : Nat} {log : List Exchange} {r : Request}
    {reply : Reply} (h : WriteLog start stops log c) (hopens : r.opens = false)
    (hperform : c.perform budget r = some (reply, c')) : WriteLog start stops (log ++ [(r, reply)]) c' := by
  obtain ⟨flow, hs, hfits⟩ := perform_steps hopens hperform
  obtain ⟨told, hledger, htold⟩ := h.told
  have hheld := hs.held h.held
  have hledger' := hs.ledger hledger
  refine ⟨hheld, _, hledger', ?_⟩
  cases htold with
  | all hlog =>
    cases hfailed : Exchange.failedWrite (r, reply) with
    | false =>
      rw [hfits.stored_eq_accepted hfailed, ← accepted_snoc]
      apply Told.all
      intro x hx
      rcases List.mem_append.1 hx with hx | hx
      · exact hlog x hx
      · rw [List.mem_singleton.1 hx]
        exact hfailed
    | true =>
      have hboth := Bool.and_eq_true_iff.1 hfailed
      have hended : c'.Ended := hheld.ended hledger'.natural (perform_over hboth.1 hboth.2 hperform)
      have hnone : Exchange.accepted (r, reply) = [] := Exchange.accepted_of_failed hboth.2
      have haccepted : accepted (log ++ [(r, reply)]) = accepted log := by
        rw [accepted_snoc, hnone, List.append_nil]
      rw [← haccepted]
      refine .part ⟨_, List.mem_append_right _ List.mem_cons_self, hfailed⟩ hended ?_
      rw [firstRefused_snoc_of_none hlog hfailed]
      exact hfits.stored
  | @part part hlog hended hpart =>
    obtain ⟨hended', hnone⟩ := hs.ended hledger hended
    have haccepted : accepted (log ++ [(r, reply)]) = accepted log := by
      rw [accepted_snoc, hfits.accepted_eq_nil hnone, List.append_nil]
    rw [hnone, List.append_nil, ← haccepted]
    refine .part (hlog.imp fun x hx => ⟨List.mem_append_left _ hx.1, hx.2⟩) hended' ?_
    rwa [firstRefused_snoc_of_failed _ hlog]

theorem WriteLog.disturb {start c : Client SimBoard slots} {stops : Nat} {log : List Exchange} {event : Event}
    (h : WriteLog start stops log c) (hevent : event.keepsWrites) : WriteLog start stops log (c.disturb event) := by
  obtain ⟨told, hledger, htold⟩ := h.told
  -- a change that touches nothing of the account and ends no session
  have hquiet : ∀ {c' : Client SimBoard slots}, c'.lifecycle = c.lifecycle → c'.abort = c.abort →
      c'.socket.stops = c.socket.stops → Ledger start told c' → (c.Ended → c'.Ended) → WriteLog start stops log c' := by
    intro c' hlife habort hstops hledger' hended
    refine ⟨⟨?_, ?_⟩, told, hledger', ?_⟩
    · rw [status, hlife, habort, hstops]
      exact h.held.up
    · rw [hlife, hstops]
      exact h.held.down
    · cases htold with
      | all hlog => exact .all hlog
      | part hlog hend hpart => exact .part hlog (hended hend) hpart
  cases event with
  | socket edit =>
    have hsocket : (c.socket.edit edit).stops = c.socket.stops ∧ (c.socket.edit edit).written = c.socket.written ∧
        (c.socket.edit edit).overreport = c.socket.overreport := by
      cases edit with
      | overreport count => exact absurd hevent id
      | _ => exact ⟨rfl, rfl, rfl⟩
    exact hquiet rfl rfl hsocket.1
      (hledger.frame ⟨_, _, _, _, _, _, rfl, .inl rfl⟩ ⟨hsocket.2.2, hsocket.2.1⟩ rfl id) id
  | engine edit =>
    obtain rfl : edit = .close := hevent
    exact hquiet rfl rfl rfl (hledger.frame ⟨.closed, _, _, _, _, _, rfl, .inl rfl⟩ ⟨rfl, rfl⟩ rfl id) fun _ => .inr rfl
  | _ => exact hquiet rfl rfl rfl ⟨hledger.natural, hledger.honest, hledger.window, hledger.account⟩ id

/-- the account of a connection begins with the handshake -/
theorem Ledger.launched {draw : Nat → Bytes} {host : Host} {portNumber : Nat} {c : Client SimBoard slots}
    (hforced : c.engine.forced = none) (hover : c.socket.overreport = 0) (hreset : c.engine.resetError = none) :
    Ledger (c.launched draw host portNumber) [] (c.launched draw host portNumber) := by
  obtain ⟨up, hsocket⟩ := c.launched_socket draw host portNumber
  obtain ⟨phase, session, handshakes, entropy, hengine, -⟩ := launched_engine draw host portNumber hreset
  have hpending : (c.launched draw host portNumber).pending = 0 :=
    (congrArg (fun c : Client SimBoard slots => c.pending) (c.launched_clean draw host portNumber) :)
  refine ⟨?_, ?_, ?_, [], [], [], ?_, ?_, ?_, ?_, fun _ => rfl⟩
  · rw [hengine]; exact hforced
  · rw [hsocket]; exact hover
  · rw [hpending]; exact fun hpos => absurd hpos (Nat.lt_irrefl 0)
  · exact (List.append_nil _).symm
  · exact (List.append_nil _).symm
  · rw [List.append_nil, List.nil_append]
  · rw [hpending]; rfl

/-- an account may begin anew when nothing was told and nothing is queued -/
theorem Ledger.rebase {start c c' : Client SimBoard slots} (h : Ledger start [] c) (hengine : c'.engine = c.engine)
    (hsocket : c'.socket = c.socket) (hpending : c'.pending = 0) (hqueue : c.engine.outgoing = []) :
    Ledger c' [] c' := by
  refine ⟨?_, ?_, ?_, [], [], [], (List.append_nil _).symm, (List.append_nil _).symm, ?_, ?_, fun _ => rfl⟩
  · rw [hengine]; exact h.natural
  · rw [hsocket]; exact h.honest
  · rw [hpending]; exact fun hpos => absurd hpos (Nat.lt_irrefl 0)
  · rw [hengine, hqueue]
  · rw [hpending]; rfl

/-- a connect that succeeds has sent the hello and nothing else, and leaves a session with a clean account -/
theorem WriteLog.connect {budget : Nat} {draw : Nat → Bytes} {host : Host} {portNumber : Nat}
    {c c' : Client SimBoard slots} (hforced : c.engine.forced = none) (hover : c.socket.overreport = 0)
    (h : c.connect budget draw host portNumber = some (.ok (), c')) :
    c'.engine.plaintext = c.engine.plaintext ∧ c'.socket.written = c.socket.written ++ c.engine.hello ∧
      c'.engine.outgoing = [] ∧ WriteLog c' c'.socket.stops [] c' := by
  obtain ⟨hreset, c₁, hs, hend, rfl⟩ := (connect_spec h).of_ok
  rw [reset_prepared_iff] at hreset
  obtain ⟨up, hsocket⟩ := c.launched_socket draw host portNumber
  obtain ⟨phase, session, handshakes, entropy, hengine, -⟩ := launched_engine draw host portNumber hreset
  have hlife := congrArg (fun c : Client SimBoard slots => c.lifecycle) (c.launched_clean draw host portNumber)
  have hledger : Ledger (c.launched draw host portNumber) [] c₁ := hs.ledger (Ledger.launched hforced hover hreset)
  have hqueue : c₁.engine.outgoing = [] := (hend.app hledger.natural).2
  obtain ⟨acked, sent, lost, hplain, hwritten, hsent, htold, -⟩ := hledger.account
  -- nothing was told, so nothing was acked
  obtain ⟨hacked, -⟩ := List.append_eq_nil_iff.1 (List.append_eq_nil_iff.1 htold.symm).1
  rw [hacked, List.append_nil, hengine] at hplain
  rw [hacked, hqueue, List.append_nil, List.append_nil, hengine] at hsent
  rw [hsocket, ← hsent] at hwritten
  cases hend with
  | reached hlife₁ habort hopen hsend hpending hreached =>
    rw [keepSession_eq]
    have hstatus : c₁.lifecycle.status = .ok := by
      rw [hlife₁, hlife]
    refine ⟨hplain, hwritten, hqueue, ⟨fun _ => ⟨hstatus, habort, rfl⟩, fun hdown => Bool.noConfusion hdown⟩, [], ?_, ?_⟩
    · exact hledger.rebase rfl rfl hpending hqueue
    · exact .all fun x hx => absurd hx List.not_mem_nil

/-- **The stream of writes keeps its bytes and their order.** After a connect that succeeds, in every history that
leaves the writes of the connection alone:
- as long as no write has failed and the socket was not stopped, the plaintext acked and then what is stored in the
  window make up exactly what the writes were given;
- always, the plaintext acked is a beginning of what the writes were given, up to and with the first one that failed;
- the socket has accepted the hello and then a beginning of what was acked; the rest of it is queued in the engine. -/
theorem write_stream {budget budget' : Nat} {draw : Nat → Bytes} {host : Host} {portNumber : Nat}
    {c₀ c₁ c : Client SimBoard slots} {events : List Event} {log : List Exchange}
    (hforced : c₀.engine.forced = none) (hover : c₀.socket.overreport = 0)
    (hconnect : c₀.connect budget draw host portNumber = some (.ok (), c₁))
    (hevents : ∀ event ∈ events, event.keepsWrites) (hrun : c₁.undergo budget' events = some (log, c)) :
    c₁.engine.plaintext = c₀.engine.plaintext ∧ c₁.socket.written = c₀.socket.written ++ c₀.engine.hello ∧
      ∃ acked sent,
        c.engine.plaintext = c₁.engine.plaintext ++ acked ∧
        c.socket.written = c₁.socket.written ++ sent ∧
        acked = sent ++ c.engine.outgoing ∧
        ((∀ x ∈ log, x.failedWrite = false) → c.socket.stops = c₁.socket.stops →
          acked ++ c.engine.plainWindow.take c.pending = accepted log) ∧
        acked <+: accepted log ++ firstRefused log := by
  obtain ⟨hplain₁, hwritten₁, hqueue₁, hlog₁⟩ := WriteLog.connect hforced hover hconnect
  have hlog : WriteLog c₁ c₁.socket.stops ([] ++ log) c :=
    undergo_invariant (P := Event.keepsWrites) (I := fun _ => WriteLog c₁ c₁.socket.stops)
      (fun hopens h hperform => h.request hopens hperform) (fun hevent h => h.disturb hevent) hevents [] [] hlog₁ hrun
  rw [List.nil_append] at hlog
  obtain ⟨told, hledger, htold⟩ := hlog.told
  obtain ⟨acked, sent, lost, hplain, hwritten, hqueue, hsplit, hlost⟩ := hledger.account
  refine ⟨hplain₁, hwritten₁, acked, sent, hplain, hwritten, ?_, ?_, ?_⟩
  · rw [hqueue₁, List.nil_append] at hqueue
    exact hqueue
  · intro hnone hstops
    have hup : c.lifecycle.engineConnected = true := by
      cases hup : c.lifecycle.engineConnected with
      | true => rfl
      | false =>
        have hlt := hlog.held.down hup
        omega
    cases htold with
    | all _ => rw [hsplit, hlost hup, List.append_nil]
    | part hfailed =>
      obtain ⟨x, hx, hfailed⟩ := hfailed
      rw [hnone x hx] at hfailed
      exact absurd hfailed (by decide)
  · have hacked : acked <+: told := by
      rw [hsplit, List.append_assoc]
      exact List.prefix_append _ _
    refine hacked.trans ?_
    cases htold with
    | all => exact List.prefix_append _ _
    | part _ _ hpart => exact (List.prefix_append_right_inj _).2 hpart

/-- a write that fills the window once, a second write, and then a socket that breaks -/
theorem write_stream_broken_socket :
    newcomer.engine.forced = none ∧ newcomer.socket.overreport = 0 ∧
      ∃ c₁ c log,
        newcomer.connect 50 (fun _ => []) (.name "a") 443 = some (.ok (), c₁) ∧
        c₁.undergo 50 [.request (.write [5, 6, 7, 8, 9]), .request (.read 1), .socket (.writeChunk (some 1)),
          .request (.write [4]), .socket (.failWrites true), .request .flush, .request (.write [0])] = some (log, c) ∧
        accepted log = [5, 6, 7, 8, 9, 4] ∧ firstRefused log = [0] ∧
        ∃ acked sent,
          c.engine.plaintext = c₁.engine.plaintext ++ acked ∧ c.socket.written = c₁.socket.written ++ sent ∧
            acked = sent ++ c.engine.outgoing ∧ acked <+: [5, 6, 7, 8, 9, 4] ++ [0] := by
  have hplayed :
      ((newcomer.connect 50 (fun _ => []) (.name "a") 443).bind fun r =>
        (r.2.undergo 50 [.request (.write [5, 6, 7, 8, 9]), .request (.read 1), .socket (.writeChunk (some 1)),
          .request (.write [4]), .socket (.failWrites true), .request .flush, .request (.write [0])]).map fun s =>
            (r.1.isOk, accepted s.1, firstRefused s.1)) = some (true, [5, 6, 7, 8, 9, 4], [0]) := by
    decide +kernel
  obtain ⟨⟨r, c₁⟩, hconnect, hrest⟩ := Option.bind_eq_some_iff.1 hplayed
  obtain ⟨⟨log, c⟩, hrun, heq⟩ := Option.map_eq_some_iff.1 hrest
  obtain ⟨hok, haccepted, hrefused⟩ : r.isOk = true ∧ accepted log = [5, 6, 7, 8, 9, 4] ∧ firstRefused log = [0] := by
    simpa using heq
  cases r with
  | error e => simp [Except.isOk, Except.toBool] at hok
  | ok u =>
    refine ⟨rfl, rfl, c₁, c, log, hconnect, hrun, haccepted, hrefused, ?_⟩
    obtain ⟨-, -, acked, sent, hplain, hwritten, hqueue, -, hprefix⟩ :=
      write_stream rfl rfl hconnect (by simp [Event.keepsWrites, Request.opens]) hrun
    rw [haccepted, hrefused] at hprefix
    exact ⟨acked, sent, hplain, hwritten, hqueue, hprefix⟩

end Client

end TlsClient

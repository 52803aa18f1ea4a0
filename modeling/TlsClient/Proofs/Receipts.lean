/-
Where the bytes go that a connection has received.

On an engine that shares one buffer, every wait for the engine to take plaintext may drop what is unread, several times
in one call. The bytes that were taken from the socket are accounted for all the same:

  taken + wanted = flight + returned + dropped + unread

where `wanted` is what the engine still waits for of the peer's flight. The counters of the client stop at their limits.
- `Books`: the account of a connection, with the counters that go by it;
- `Move.books`: every step keeps the books, or tears the connection down;
- `taken_of_kept`: until then every reply tells what was taken;
- `Account`: what holds of a session until it is torn down or dialled again;
- `ReceiptLog.request`: so it is after every request;
- `receipts_add_up`: the books after every history of such a session.
-/
import TlsClient.Proofs.Sessions
import TlsClient.Proofs.ShutSessions

namespace TlsClient

/-- how many bytes of the peer's flight are still wanted -/
def SimEngine.wanted (e : SimEngine) : Nat :=
  match e.phase with
  | .awaiting remaining => remaining
  | .idle | .app | .closed => 0

theorem SimEngine.wanted_receive {e : SimEngine} (record : Bytes) (hpos : 0 < record.length)
    (hwant : record.length ≤ e.recvWant) :
    record.length + (e.receive record).wanted + e.unread.length = e.wanted + (e.receive record).unread.length := by
  cases hphase : e.phase with
  | idle | closed =>
    simp only [recvWant, hphase] at hwant
    omega
  | app =>
    simp only [wanted, receive, hphase, List.length_append]
    omega
  | awaiting remaining =>
    have hle : record.length ≤ remaining := by
      simp only [recvWant, hphase] at hwant
      split_ifs at hwant <;> omega
    simp only [wanted, receive, hphase, flightArrived, establish]
    split_ifs with hlast
    · show record.length + 0 + e.unread.length = remaining + e.unread.length
      omega
    · show record.length + (remaining - record.length) + e.unread.length = remaining + e.unread.length
      omega

/-- once no handshake is going on, nothing of the flight is wanted -/
theorem SimEngine.wanted_of_settled {e : SimEngine} (h : ∀ remaining, e.phase ≠ .awaiting remaining) :
    e.wanted = 0 := by
  unfold wanted
  split
  · next remaining hphase => exact absurd hphase (h remaining)
  · rfl
  · rfl
  · rfl

/-- an event that leaves what was received accounted for: no plaintext, flags or shared buffer from outside -/
def Event.keepsReceipts : Event → Prop
  | .engine (.deliver _) | .engine (.forced _) | .engine (.sharedBuffer _) => False
  | _ => True

namespace Client

variable {slots : Nat} {c c' c'' : Client SimBoard slots} {arrived : Bytes} {flight taken dropped count : Nat}
  {f : Flow}

/-! ## The books -/

/-- of the bytes that have `arrived` at the socket so many were taken: the flight, what was returned, what was dropped
for the sake of a write, and what is unread -/
structure Books (arrived : Bytes) (flight taken dropped returned : Nat) (c : Client SimBoard slots) : Prop where
  le : taken ≤ arrived.length
  incoming : c.socket.incoming = arrived.drop taken
  balance : taken + c.engine.wanted = flight + returned + dropped + c.engine.unread.length
  received : c.stats.bytesReceived = min taken maxBytes
  discarded : c.stats.discardedBytes = min dropped maxBytes

/-- the bytes are accounted for -/
def Booked (arrived : Bytes) (flight returned : Nat) (c : Client SimBoard slots) : Prop :=
  ∃ taken dropped, Books arrived flight taken dropped returned c

theorem Books.frame (h : Books arrived flight taken dropped count c)
    (hincoming : c'.socket.incoming = c.socket.incoming) (hwanted : c'.engine.wanted = c.engine.wanted)
    (hunread : c'.engine.unread = c.engine.unread) (hreceived : c'.stats.bytesReceived = c.stats.bytesReceived)
    (hdiscarded : c'.stats.discardedBytes = c.stats.discardedBytes) :
    Books arrived flight taken dropped count c' := by
  refine ⟨h.le, hincoming.trans h.incoming, ?_, hreceived.trans h.received, hdiscarded.trans h.discarded⟩
  rw [hwanted, hunread]
  exact h.balance

/-- a record is booked as it comes in -/
theorem Books.receive {record : Nat} (h : Books arrived flight taken dropped count c) (hpos : 0 < record)
    (hwant : record ≤ c.engine.recvWant) (hle : record ≤ c.socket.incoming.length)
    (hincoming : c'.socket.incoming = c.socket.incoming.drop record)
    (hengine : c'.engine = c.engine.receive (c.socket.incoming.take record))
    (hstats : c'.stats = c.stats.received record) : Books arrived flight (taken + record) dropped count c' := by
  have hthere : record ≤ arrived.length - taken := by
    rw [← List.length_drop, ← h.incoming]
    exact hle
  have hlength : (c.socket.incoming.take record).length = record := List.length_take_of_le hle
  refine ⟨?_, ?_, ?_, ?_, ?_⟩
  · have hbefore := h.le
    omega
  · rw [hincoming, h.incoming, List.drop_drop]
  · have hbalance := h.balance
    have hrecord := SimEngine.wanted_receive (e := c.engine) (c.socket.incoming.take record)
      (by rw [hlength]; exact hpos) (by rw [hlength]; exact hwant)
    rw [hlength] at hrecord
    rw [hengine]
    omega
  · rw [hstats]
    simp only [Stats.received, addUpTo, h.received]
    omega
  · rw [hstats]
    exact h.discarded

theorem Books.take (h : Books arrived flight taken dropped count c) (room : Nat) :
    Books arrived flight taken dropped (count + (c.engine.unread.take room).length)
      { c with board.engine.unread := c.engine.unread.drop room } := by
  refine ⟨h.le, h.incoming, ?_, h.received, h.discarded⟩
  have hbalance := h.balance
  have hsplit : (c.engine.unread.take room).length + (c.engine.unread.drop room).length = c.engine.unread.length := by
    rw [← List.length_append, List.take_append_drop]
  show taken + c.engine.wanted = flight + (count + (c.engine.unread.take room).length) + dropped +
    (c.engine.unread.drop room).length
  omega

/-- what is dropped for the sake of a write is booked as dropped -/
theorem Books.discard (h : Books arrived flight taken dropped count c) :
    Books arrived flight taken (dropped + c.engine.unread.length) count
      { c with
        board.engine.unread := []
        backlog := .empty
        stats := c.stats.discarded c.engine.unread.length } := by
  refine ⟨h.le, h.incoming, ?_, h.received, ?_⟩
  · have hbalance := h.balance
    show taken + c.engine.wanted = flight + count + (dropped + c.engine.unread.length) + 0
    omega
  · show addUpTo maxBytes c.stats.discardedBytes c.engine.unread.length = _
    rw [addUpTo, h.discarded]
    omega

theorem Booked.frame (h : Booked arrived flight count c)
    (hincoming : c'.socket.incoming = c.socket.incoming) (hwanted : c'.engine.wanted = c.engine.wanted)
    (hunread : c'.engine.unread = c.engine.unread) (hreceived : c'.stats.bytesReceived = c.stats.bytesReceived)
    (hdiscarded : c'.stats.discardedBytes = c.stats.discardedBytes) : Booked arrived flight count c' := by
  obtain ⟨taken, dropped, h⟩ := h
  exact ⟨taken, dropped, h.frame hincoming hwanted hunread hreceived hdiscarded⟩

theorem Booked.push (h : Booked arrived flight count c) (bytes : Bytes)
    (hincoming : c'.socket.incoming = c.socket.incoming ++ bytes) (hwanted : c'.engine.wanted = c.engine.wanted)
    (hunread : c'.engine.unread = c.engine.unread) (hstats : c'.stats = c.stats) :
    Booked (arrived ++ bytes) flight count c' := by
  obtain ⟨taken, dropped, h⟩ := h
  have hle := h.le
  refine ⟨taken, dropped, ?_, ?_, ?_, ?_, ?_⟩
  · rw [List.length_append]
    omega
  · rw [hincoming, h.incoming, List.drop_append_of_le_length hle]
  · rw [hwanted, hunread]
    exact h.balance
  · rw [hstats]
    exact h.received
  · rw [hstats]
    exact h.discarded

/-- **Every step keeps the books, or tears the connection down**, until a shutdown begins. -/
theorem Move.books (hmove : Move c f c') (hcloses : f.closes = false) (hstage : c.lifecycle.stage ≠ .closing)
    (h : Booked arrived flight count c) :
    Gone c c' ∨ Booked arrived flight (count + f.taken.length) c' := by
  cases hmove with
  | failed _ hharm => exact .inl (TornDown.of_harmed hharm _).gone
  | down => exact .inl (.teardown c)
  | closing => cases hcloses
  | drop _ hclosing => exact absurd hclosing hstage
  | received _ _ _ _ hpos hwant hle =>
    obtain ⟨taken, dropped, h⟩ := h
    exact .inr ⟨_, dropped, h.receive hpos hwant hle rfl rfl rfl⟩
  | take room =>
    obtain ⟨taken, dropped, h⟩ := h
    exact .inr ⟨taken, dropped, h.take room⟩
  | discard =>
    obtain ⟨taken, dropped, h⟩ := h
    exact .inr ⟨taken, _, h.discard⟩
  | noWindow _ he => rcases he with rfl | rfl <;> exact .inr (h.frame rfl rfl rfl rfl rfl)
  | _ => exact .inr (h.frame rfl rfl rfl rfl rfl)

/-- **A run of steps keeps the books, or tears the connection down**, until a shutdown begins. -/
theorem Steps.books (hs : Steps c f c') (hcloses : f.closes = false) (hstage : c.lifecycle.stage ≠ .closing)
    (h : Booked arrived flight count c) :
    Gone c c' ∨ c'.lifecycle = c.lifecycle ∧ Booked arrived flight (count + f.taken.length) c' := by
  refine hs.upheld (I := fun f c' => Booked arrived flight (count + f.taken.length) c') hcloses h ?_
  intro f g c₁ c₂ hlife hbooked hmove hcloses
  have hafter := hmove.books hcloses (by rwa [hlife]) hbooked
  rwa [Nat.add_assoc, ← List.length_append] at hafter

/-! ## What the books rest on -/

theorem Steps.connectCalls (hs : Steps c f c') : c'.socket.connectCalls = c.socket.connectCalls := by
  refine hs.invariant (I := fun _ c' => c'.socket.connectCalls = c.socket.connectCalls) ?_ rfl
  intro f g c₁ c₂ hbefore hstep
  refine Eq.trans ?_ hbefore
  cases hstep.move with
  | failed _ hharm =>
    obtain ⟨_, _, _, _, hsocket, -⟩ := hharm.socket
    rw [fail_eq]
    exact (congrArg SimSocket.connectCalls hsocket :)
  | down => rw [teardown_eq]; rfl
  | _ => rfl

/-- an engine with separate buffers drops nothing for the sake of a write -/
theorem Steps.discards (hs : Steps c f c') (hforced : c.engine.forced = none)
    (hshared : c.engine.sharedBuffer = false) :
    c'.stats.discards = c.stats.discards ∧ c'.stats.discardedBytes = c.stats.discardedBytes := by
  suffices hall : Setup c.engine c'.engine ∧
      c'.stats.discards = c.stats.discards ∧ c'.stats.discardedBytes = c.stats.discardedBytes from hall.2
  refine hs.invariant (I := fun _ c' => Setup c.engine c'.engine ∧
    c'.stats.discards = c.stats.discards ∧ c'.stats.discardedBytes = c.stats.discardedBytes) ?_ ⟨.refl _, rfl, rfl⟩
  rintro f g c₁ c₂ ⟨hsetup, hsame⟩ hstep
  refine ⟨hsetup.trans hstep.move.setup, ?_⟩
  cases hstep.move with
  | discard _ _ _ _ hrecv htake =>
    rw [SimEngine.sendApp_of_recvApp (hsetup.forced.trans hforced) (hsetup.sharedBuffer.trans hshared) hrecv] at htake
    cases htake
  | failed _ hharm => rw [fail_eq, hharm.rest]; exact hsame
  | down => rw [teardown_eq]; exact hsame
  | _ => exact hsame

/-! ## The session -/

/-- a session whose bytes are accounted for; nothing is dropped for the sake of a write unless the buffer is `shared` -/
structure Account (arrived : Bytes) (flight : Nat) (shared : Bool) (returned : Nat) (c : Client SimBoard slots) :
    Prop extends Established c where
  stage : c.lifecycle.stage = .connected
  booked : Booked arrived flight returned c
  buffer : c.engine.sharedBuffer = shared
  unshared : shared = false → c.stats.discards = 0 ∧ c.stats.discardedBytes = 0

variable {shared : Bool} {stops dials budget : Nat} {log : List Exchange}

theorem Account.steps (h : Account arrived flight shared count c) (hs : Steps c f c') (hcloses : f.closes = false) :
    Gone c c' ∨ Account arrived flight shared (count + f.taken.length) c' := by
  have hopen : c.lifecycle.stage ≠ .closing := by
    rw [h.stage]
    decide
  refine (hs.books hcloses hopen h.booked).imp_right ?_
  rintro ⟨hlife, hbooked⟩
  refine ⟨h.toEstablished.steps hs, hlife ▸ h.stage, hbooked, hs.setup.sharedBuffer.trans h.buffer, ?_⟩
  intro hshared
  obtain ⟨hdiscards, hbytes⟩ := hs.discards h.natural (h.buffer.trans hshared)
  obtain ⟨hnone, hzero⟩ := h.unshared hshared
  exact ⟨hdiscards.trans hnone, hbytes.trans hzero⟩

/-- the account of a session, as long as it was neither torn down nor dialled again; `stops` and `dials` count how often
that was so before -/
structure ReceiptLog (arrived : Bytes) (flight : Nat) (shared : Bool) (stops dials : Nat) (log : List Exchange)
    (c : Client SimBoard slots) : Prop where
  stops_le : stops ≤ c.socket.stops
  dials_le : dials ≤ c.socket.connectCalls
  account : c.socket.stops = stops → c.socket.connectCalls = dials →
    Account arrived flight shared (returned log).length c

theorem Connects.redials {draw : Nat → Bytes} {host : Host} {portNumber : Nat} {r : Except Error Unit}
    (h : Connects draw host portNumber c r c') :
    c' = c ∨ c.socket.stops ≤ c'.socket.stops ∧ c.socket.connectCalls < c'.socket.connectCalls := by
  obtain ⟨up, hsocket⟩ := launched_socket draw host portNumber c
  have hstops : (c.launched draw host portNumber).socket.stops = c.socket.stops := by rw [hsocket]
  have hdials : (c.launched draw host portNumber).socket.connectCalls = c.socket.connectCalls + 1 := by
    rw [hsocket]
  have hfail (c₁ : Client SimBoard slots) (s : Status) : (c₁.fail s).socket.stops = c₁.socket.stops + 1 ∧
      (c₁.fail s).socket.connectCalls = c₁.socket.connectCalls := by
    rw [fail_eq]
    exact ⟨rfl, rfl⟩
  cases h with
  | busy => exact .inl rfl
  | refused =>
    have hdialled := dialled_socket host portNumber c
    refine .inr ⟨Nat.le_of_eq (congrArg SimSocket.stops hdialled).symm, ?_⟩
    exact Nat.lt_of_lt_of_eq (Nat.lt_succ_self _) (congrArg SimSocket.connectCalls hdialled).symm
  | unstarted =>
    obtain ⟨hlater, hsame⟩ := hfail (c.launched draw host portNumber) .engineConnect
    exact .inr ⟨by omega, by omega⟩
  | @waited waited c₁ _ _ _ hs =>
    have hle := hs.stops_le
    have hcalls := hs.connectCalls
    right
    cases waited with
    | ok u =>
      rw [concludeHandshake, keepSession_eq]
      show c.socket.stops ≤ c₁.socket.stops ∧ c.socket.connectCalls < c₁.socket.connectCalls
      omega
    | error e =>
      obtain ⟨hlater, hsame⟩ := hfail c₁ .engineConnect
      simp only [concludeHandshake]
      split_ifs
      · omega
      · omega

/-- the reply to a request tells what was taken, as long as the connection was not torn down -/
theorem taken_of_kept {request : Request} {reply : Reply} (hpast : Established c)
    (hperform : c.perform budget request = some (reply, c')) (hfits : Fits request reply f)
    (hkept : c'.socket.stops = c.socket.stops) : f.taken = reply.returned ∨ c' = c ∧ reply.returned = [] := by
  rcases hfits.taken with htaken | ⟨length, e, rfl, rfl⟩
  · exact .inl htaken
  obtain ⟨⟨r, c₁⟩, hread, heq⟩ := Option.map_eq_some_iff.1 hperform
  cases heq
  cases hguard : c.lifecycle.softConnected c.flags with
  | ok u =>
    have hdown := readExact_of_admitted hpast hguard hread
    exact absurd hdown (Nat.not_lt.2 (Nat.le_of_eq hkept))
  | error e₁ =>
    have hlength : length ≠ 0 := by
      rintro rfl
      rw [readExact, if_pos rfl] at hread
      cases hread
    have hasks : (Request.readExact length).asks = true := by simpa [Request.asks] using Nat.pos_of_ne_zero hlength
    obtain ⟨reply, hsame, -⟩ := perform_refused rfl hasks hguard budget
    rw [hperform] at hsame
    cases hsame
    exact .inr ⟨rfl, rfl⟩

/-- **Every request keeps the account**, or tears the connection down, or dials again. -/
theorem ReceiptLog.request {request : Request} {reply : Reply} (h : ReceiptLog arrived flight shared stops dials log c)
    (hperform : c.perform budget request = some (reply, c')) :
    ReceiptLog arrived flight shared stops dials (log ++ [(request, reply)]) c' := by
  have hle := h.stops_le
  have hdials := h.dials_le
  rcases perform_cases hperform with ⟨host, portNumber, draw, r, rfl, rfl, hconnects⟩ | ⟨-, flow, hs, hfits⟩
  · have hsame : returned (log ++ [(.connect host portNumber draw, .done r)]) = returned log := by
      rw [returned_snoc]
      exact List.append_nil _
    rcases hconnects.redials with rfl | ⟨hstops, hmore⟩
    · refine ⟨hle, hdials, ?_⟩
      rw [hsame]
      exact h.account
    · exact ⟨by omega, by omega, fun _ hagain => by omega⟩
  have hstops := hs.stops_le
  have hcalls := hs.connectCalls
  refine ⟨by omega, by omega, ?_⟩
  intro hstops' hdials'
  have haccount := h.account (by omega) (by omega)
  have hkept : c'.socket.stops = c.socket.stops := by omega
  -- a shutdown would have ended with a teardown
  have hcloses : flow.closes = false := by
    cases hcloses : flow.closes with
    | false => rfl
    | true =>
      obtain rfl := hfits.closes hcloses
      obtain ⟨c₁, hstop, heq⟩ := Option.map_eq_some_iff.1 hperform
      cases heq
      obtain ⟨flow₁, c₂, hs₁, -, -, rfl⟩ := stop_spec hstop
      have hbefore := hs₁.stops_le
      rw [teardown_eq] at hkept
      have hmore : c₂.socket.stops + 1 = c.socket.stops := hkept
      omega
  rw [returned_snoc, List.length_append]
  rcases taken_of_kept haccount.toEstablished hperform hfits hkept with htaken | ⟨rfl, hnone⟩
  · rcases haccount.steps hs hcloses with hgone | hafter
    · have hmore := hgone.stops
      omega
    · rw [htaken] at hafter
      exact hafter
  · rw [show Exchange.returned (request, reply) = [] from hnone]
    exact haccount

/-! ## Histories -/

/-- a change from outside that brings `bytes` to the socket, and does no more to the engine than to close it -/
theorem Account.outside (h : Account arrived flight shared count c) (bytes : Bytes)
    (hrest : c'.lifecycle = c.lifecycle ∧ c'.stats = c.stats ∧ c'.abort = c.abort)
    (hincoming : c'.socket.incoming = c.socket.incoming ++ bytes)
    (hengine : c'.engine.forced = c.engine.forced ∧ c'.engine.sharedBuffer = c.engine.sharedBuffer ∧
      c'.engine.unread = c.engine.unread)
    (hphase : c'.engine.phase = c.engine.phase ∨ c'.engine.phase = .closed) :
    Account (arrived ++ bytes) flight shared count c' := by
  obtain ⟨hlife, hstats, habort⟩ := hrest
  obtain ⟨hforced, hshared, hunread⟩ := hengine
  have hsettled : ∀ remaining, c'.engine.phase ≠ .awaiting remaining := by
    intro remaining
    rcases hphase with hsame | hclosed
    · rw [hsame]
      exact h.settled remaining
    · exact settled_of_past (.inr hclosed) remaining
  have hstatus : c'.status = c.status := status_of_lifecycle hlife
  refine ⟨⟨hforced.trans h.natural, hsettled, h.blamed.of_eq habort hstatus⟩, hlife ▸ h.stage, ?_,
    hshared.trans h.buffer, ?_⟩
  · refine h.booked.push bytes hincoming ?_ hunread hstats
    rw [SimEngine.wanted_of_settled hsettled, SimEngine.wanted_of_settled h.settled]
  · rw [hstats]
    exact h.unshared

theorem Account.disturb {event : Event} (h : Account arrived flight shared count c) (hevent : event.keepsReceipts) :
    Account (arrived ++ event.pushed) flight shared count (c.disturb event) := by
  have hnone : c.socket.incoming = c.socket.incoming ++ [] := (List.append_nil _).symm
  cases event with
  | socket edit =>
    cases edit with
    | push bytes => exact h.outside bytes ⟨rfl, rfl, rfl⟩ rfl ⟨rfl, rfl, rfl⟩ (.inl rfl)
    | _ => exact h.outside [] ⟨rfl, rfl, rfl⟩ hnone ⟨rfl, rfl, rfl⟩ (.inl rfl)
  | engine edit =>
    cases edit with
    | deliver | forced | sharedBuffer => exact absurd hevent id
    | close => exact h.outside [] ⟨rfl, rfl, rfl⟩ hnone ⟨rfl, rfl, rfl⟩ (.inr rfl)
    | _ => exact h.outside [] ⟨rfl, rfl, rfl⟩ hnone ⟨rfl, rfl, rfl⟩ (.inl rfl)
  | _ => exact h.outside [] ⟨rfl, rfl, rfl⟩ hnone ⟨rfl, rfl, rfl⟩ (.inl rfl)

theorem disturb_counts (c : Client SimBoard slots) (event : Event) :
    (c.disturb event).socket.stops = c.socket.stops ∧
      (c.disturb event).socket.connectCalls = c.socket.connectCalls := by
  cases event with
  | socket edit => cases edit <;> exact ⟨rfl, rfl⟩
  | _ => exact ⟨rfl, rfl⟩

theorem ReceiptLog.disturb {event : Event} (h : ReceiptLog arrived flight shared stops dials log c)
    (hevent : event.keepsReceipts) :
    ReceiptLog (arrived ++ event.pushed) flight shared stops dials log (c.disturb event) := by
  obtain ⟨hstops, hdials⟩ := disturb_counts c event
  refine ⟨hstops ▸ h.stops_le, hdials ▸ h.dials_le, ?_⟩
  rw [hstops, hdials]
  exact fun hstops' hdials' => (h.account hstops' hdials').disturb hevent

/-- before a handshake nothing was taken from the socket, and all of the flight is wanted -/
theorem Booked.launched (draw : Nat → Bytes) (host : Host) (portNumber : Nat) (hreset : c.engine.resetError = none) :
    Booked c.socket.incoming (c.launched draw host portNumber).engine.flight 0 (c.launched draw host portNumber) := by
  obtain ⟨up, hsocket⟩ := c.launched_socket draw host portNumber
  obtain ⟨phase, session, handshakes, entropy, hengine, hphase⟩ := launched_engine draw host portNumber hreset
  have hunread : (c.launched draw host portNumber).engine.unread = [] := by rw [hengine]
  have hphase' : (c.launched draw host portNumber).engine.phase = phase := by rw [hengine]
  have hwanted : (c.launched draw host portNumber).engine.wanted = (c.launched draw host portNumber).engine.flight := by
    rw [SimEngine.wanted, hphase', hphase]
    split_ifs with hflight
    · exact hflight.symm
    · rfl
  refine ⟨0, 0, Nat.zero_le _, ?_, ?_, ?_, ?_⟩
  · rw [hsocket, List.drop_zero]
  · rw [hwanted, hunread, List.length_nil]
    omega
  · rw [launched_clean]
    rfl
  · rw [launched_clean]
    rfl

/-- a connect that succeeds has taken the flight from the socket -/
theorem Account.connect {draw : Nat → Bytes} {host : Host} {portNumber : Nat} (hforced : c.engine.forced = none)
    (h : c.connect budget draw host portNumber = some (.ok (), c')) :
    Account c.socket.incoming c'.engine.flight c.engine.sharedBuffer 0 c' := by
  obtain ⟨hreset, c₁, hs, hend, rfl⟩ := (connect_spec h).of_ok
  rw [reset_prepared_iff] at hreset
  obtain ⟨phase, session, handshakes, entropy, hengine, -⟩ := launched_engine draw host portNumber hreset
  have hforced₀ : (c.launched draw host portNumber).engine.forced = none := by
    rw [hengine]
    exact hforced
  have hshared₀ : (c.launched draw host portNumber).engine.sharedBuffer = c.engine.sharedBuffer := by rw [hengine]
  have hclean := launched_clean draw host portNumber c
  have hstage : (c.launched draw host portNumber).lifecycle.stage = .handshaking := by rw [hclean]
  have hforced₁ := hs.setup.forced.trans hforced₀
  obtain ⟨happ, -⟩ := hend.app hforced₁
  cases hend with
  | reached hlife habort =>
    rw [keepSession_eq]
    have hopen : (c.launched draw host portNumber).lifecycle.stage ≠ .closing := by
      rw [hstage]
      decide
    refine ⟨⟨hforced₁, settled_of_past (.inl happ), .of_sane habort⟩, rfl, ?_,
      hs.setup.sharedBuffer.trans hshared₀, ?_⟩
    · rcases hs.books rfl hopen (.launched draw host portNumber hreset) with hgone | ⟨-, hbooked⟩
      · exact absurd hlife (hgone.lifecycle_ne (by rw [hstage]; decide))
      · rw [← hs.setup.flight] at hbooked
        exact hbooked.frame rfl rfl rfl rfl rfl
    · intro hshared
      obtain ⟨hdiscards, hbytes⟩ := hs.discards hforced₀ (hshared₀.trans hshared)
      rw [hclean] at hdiscards hbytes
      exact ⟨hdiscards, hbytes⟩

/-- **Every byte that was received is accounted for.** After a connect that succeeds, in every history that brings no
plaintext and no flags from outside, as long as the connection was neither torn down nor dialled again: the bytes taken
from the socket since the connect began are the flight that the engine asked for, what the reads have returned, what was
dropped for the sake of writes, and what is unread. The counters say so, up to their limits. And nothing is dropped
unless the engine shares one buffer. -/
theorem receipts_add_up {budget budget' : Nat} {draw : Nat → Bytes} {host : Host} {portNumber : Nat}
    {c₀ c₁ c : Client SimBoard slots} {events : List Event} {log : List Exchange} (hforced : c₀.engine.forced = none)
    (hconnect : c₀.connect budget draw host portNumber = some (.ok (), c₁))
    (hevents : ∀ event ∈ events, event.keepsReceipts) (hrun : c₁.undergo budget' events = some (log, c))
    (hstops : c.socket.stops = c₁.socket.stops) (hdials : c.socket.connectCalls = c₁.socket.connectCalls) :
    ∃ taken ≤ (c₀.socket.incoming ++ pushed events).length,
      c.socket.incoming = (c₀.socket.incoming ++ pushed events).drop taken ∧
      c.stats.bytesReceived = min taken maxBytes ∧
      (∃ dropped, c.stats.discardedBytes = min dropped maxBytes ∧
        taken = c₁.engine.flight + (returned log).length + dropped + c.engine.unread.length) ∧
      (taken ≤ maxBytes → c.stats.bytesReceived = taken ∧
        c.stats.bytesReceived =
          c₁.engine.flight + (returned log).length + c.stats.discardedBytes + c.engine.unread.length) ∧
      (c₀.engine.sharedBuffer = false → c.stats.discards = 0 ∧ c.stats.discardedBytes = 0) := by
  have hstart : ReceiptLog (c₀.socket.incoming ++ pushed []) c₁.engine.flight c₀.engine.sharedBuffer c₁.socket.stops
      c₁.socket.connectCalls [] c₁ := by
    rw [show pushed [] = [] from rfl, List.append_nil]
    exact ⟨Nat.le_refl _, Nat.le_refl _, fun _ _ => .connect hforced hconnect⟩
  have hlog : ReceiptLog (c₀.socket.incoming ++ pushed ([] ++ events)) c₁.engine.flight c₀.engine.sharedBuffer
      c₁.socket.stops c₁.socket.connectCalls ([] ++ log) c := by
    refine undergo_invariant (P := Event.keepsReceipts)
      (I := fun past => ReceiptLog (c₀.socket.incoming ++ pushed past) c₁.engine.flight c₀.engine.sharedBuffer
        c₁.socket.stops c₁.socket.connectCalls) ?_ ?_ hevents [] [] hstart hrun
    · intro budget past done c c' request reply _ h hperform
      have hnone : pushed (past ++ [.request request]) = pushed past := by
        rw [pushed_snoc]
        exact List.append_nil _
      rw [hnone]
      exact h.request hperform
    · intro past done c event hevent h
      rw [pushed_snoc, ← List.append_assoc]
      exact h.disturb hevent
  rw [List.nil_append, List.nil_append] at hlog
  have haccount := hlog.account hstops hdials
  obtain ⟨taken, dropped, hbooks⟩ := haccount.booked
  have hbalance := hbooks.balance
  rw [SimEngine.wanted_of_settled haccount.settled] at hbalance
  have hreceived := hbooks.received
  have hdiscarded := hbooks.discarded
  refine ⟨taken, hbooks.le, hbooks.incoming, hreceived, ⟨dropped, hdiscarded, hbalance⟩, ?_, haccount.unshared⟩
  intro hlimit
  omega

/-- two waits of one write drop what is unread, and a buffer is filled after that -/
theorem receipts_add_up_after_discards :
    ∃ c₁ c log, sharingNewcomer.engine.forced = none ∧
      sharingNewcomer.connect 50 (fun _ => []) (.name "a") 443 = some (.ok (), c₁) ∧
      c₁.undergo 50 [.socket (.push [1, 2, 3, 4, 5, 6]), .request (.read 1), .request (.write [7]),
        .socket (.push [8, 9, 10]), .request (.readExact 2), .socket (.push [11, 12])] = some (log, c) ∧
      c.socket.stops = c₁.socket.stops ∧ c.socket.connectCalls = c₁.socket.connectCalls ∧
      returned log = [1, 8, 9] ∧ c.stats.discards = 2 ∧ c.stats.discardedBytes = 5 ∧ c.stats.bytesReceived = 10 ∧
      c.socket.incoming = [9, 1, 2, 3, 4, 5, 6, 8, 9, 10, 11, 12].drop 10 ∧
      10 = c₁.engine.flight + 3 + 5 + c.engine.unread.length := by
  have hplayed :
      ((sharingNewcomer.connect 50 (fun _ => []) (.name "a") 443).bind fun r =>
        (r.2.undergo 50 [.socket (.push [1, 2, 3, 4, 5, 6]), .request (.read 1), .request (.write [7]),
          .socket (.push [8, 9, 10]), .request (.readExact 2), .socket (.push [11, 12])]).map fun s =>
            ((Reply.done r.1).error?.isNone, decide (s.2.socket.stops = r.2.socket.stops ∧
              s.2.socket.connectCalls = r.2.socket.connectCalls), returned s.1, s.2.stats.discards,
              s.2.stats.discardedBytes, s.2.stats.bytesReceived)) =
        some (true, true, [1, 8, 9], 2, 5, 10) := by
    decide +kernel
  obtain ⟨⟨r, c₁⟩, hconnect, hrest⟩ := Option.bind_eq_some_iff.1 hplayed
  obtain ⟨⟨log, c⟩, hrun, heq⟩ := Option.map_eq_some_iff.1 hrest
  simp only [Prod.mk.injEq, decide_eq_true_iff] at heq
  obtain ⟨hok, ⟨hstops, hdials⟩, hreturned, hdiscards, hbytes, hreceived⟩ := heq
  obtain rfl := Reply.ok_of_done (Option.isNone_iff_eq_none.1 hok)
  obtain ⟨taken, -, hincoming, hcounted, -, hsum, -⟩ :=
    receipts_add_up rfl hconnect (by simp [Event.keepsReceipts]) hrun hstops hdials
  obtain rfl : taken = 10 := by
    rw [hreceived, maxBytes] at hcounted
    omega
  obtain ⟨-, hall⟩ := hsum (by decide)
  rw [hreceived, hreturned, hbytes] at hall
  exact ⟨c₁, c, log, rfl, hconnect, hrun, hstops, hdials, hreturned, hdiscards, hbytes, hreceived,
    hincoming, hall⟩

end Client

end TlsClient

/-
What a run of the pump is made of, and where it stops.

Each turn does the first thing that there is to do, and what it does may be cause to do another thing first: a hand-over
queues ciphertext, a record that comes in may complete the handshake. A run ends where a turn finds nothing to do, so
what holds then is told by the last turn alone, if the turns before it are known to leave the rest alone.
- `Kept`, `Served`, `TornDown`: what becomes of the connection;
- `pumpsOn_of_again`: what a turn leaves alone after which the pump goes on;
- `Pumps`: the clients that a run of the pump goes through, `pump_last`: and the turn that ends it;
- `pump_outcome`, `pump_quiescent`: a run ends where nothing is left to do, or fails.
-/
import Mathlib.Logic.Relation
import TlsClient.Proofs.LifecycleStates
import TlsClient.Proofs.Termination

namespace TlsClient

/-- a loop ends with a turn that is done, after turns that go on -/
theorem repeatTurn_last {σ α : Type} {turn : σ → Turn σ α} {budget : Nat} {s : σ} {a : α}
    (h : repeatTurn (fun s => some (turn s)) budget s = some a) :
    ∃ last, Relation.ReflTransGen (fun s s' => turn s = .again s') s last ∧ turn last = .done a := by
  refine repeatTurn_invariant (I := Relation.ReflTransGen (fun s s' => turn s = .again s') s)
    (Q := fun a => ∃ last, Relation.ReflTransGen (fun s s' => turn s = .again s') s last ∧ turn last = .done a)
    ?_ ?_ .refl h
  · intro s₁ s₂ hpath hturn
    exact hpath.tail (Option.some.inj hturn)
  · intro s₁ a hpath hturn
    exact ⟨s₁, hpath, Option.some.inj hturn⟩

theorem capAt_eq_zero {limit : Option Nat} {count : Nat} : capAt limit count = 0 ↔ limit = some 0 ∨ count = 0 := by
  cases limit with
  | none => simp [capAt]
  | some limit =>
    simp only [capAt, Option.some.injEq]
    omega

/-- a record that comes in takes nothing from what is unread -/
theorem SimEngine.unread_receive (e : SimEngine) (record : Bytes) : e.unread <+: (e.receive record).unread := by
  unfold receive flightArrived establish
  split
  · split_ifs <;> exact List.prefix_rfl
  · exact List.prefix_append ..
  · exact List.prefix_rfl
  · exact List.prefix_rfl

namespace Client

variable {slots : Nat} {c c' c'' : Client SimBoard slots}

/-! ## What is left alone -/

/-- the connection is what it was -/
structure Kept (c c' : Client SimBoard slots) : Prop extends Steady c c' where
  config : c'.config = c.config
  abort : c'.abort = c.abort
  stops : c'.socket.stops = c.socket.stops

/-- the connection is what it was; no unread plaintext was dropped, and nothing flushed -/
structure Served (c c' : Client SimBoard slots) : Prop extends Kept c c' where
  unread : c.engine.unread <+: c'.engine.unread
  discards : c'.stats.discards = c.stats.discards ∧ c'.stats.discardedBytes = c.stats.discardedBytes
  flushes : c'.stats.forcedFlushes = c.stats.forcedFlushes ∧ c'.engine.flushes = c.engine.flushes

/-- the connection was torn down, once -/
structure TornDown (c c' : Client SimBoard slots) : Prop extends Down c' where
  pending : c'.pending = 0
  stops : c'.socket.stops = c.socket.stops + 1

theorem Kept.refl (c : Client SimBoard slots) : Kept c c := ⟨⟨rfl, rfl⟩, rfl, rfl, rfl⟩

theorem Kept.trans (h : Kept c c') (h' : Kept c' c'') : Kept c c'' :=
  ⟨h.toSteady.trans h'.toSteady, h'.config.trans h.config, h'.abort.trans h.abort, h'.stops.trans h.stops⟩

theorem Kept.status (h : Kept c c') : c'.status = c.status := status_of_lifecycle h.lifecycle

theorem Served.refl (c : Client SimBoard slots) : Served c c :=
  ⟨.refl c, List.prefix_rfl, ⟨rfl, rfl⟩, rfl, rfl⟩

theorem Served.trans (h : Served c c') (h' : Served c' c'') : Served c c'' where
  toKept := h.toKept.trans h'.toKept
  unread := h.unread.trans h'.unread
  discards := ⟨h'.discards.1.trans h.discards.1, h'.discards.2.trans h.discards.2⟩
  flushes := ⟨h'.flushes.1.trans h.flushes.1, h'.flushes.2.trans h.flushes.2⟩

/-- what fails is torn down -/
theorem TornDown.of_harmed (h : Harmed c c') (s : Status) : TornDown c (c'.fail s) := by
  refine ⟨.fail c' s, ?_, ?_⟩
  · rw [fail_eq]
    rfl
  · obtain ⟨_, _, _, _, hsocket, -⟩ := h.socket
    rw [fail_eq]
    show c'.socket.stops + 1 = c.socket.stops + 1
    rw [hsocket]

/-- a connection that was kept until it was torn down -/
theorem TornDown.of_kept (h : Kept c c') (h' : TornDown c' c'') : TornDown c c'' :=
  ⟨h'.toDown, h'.pending, by rw [h'.stops, h.stops]⟩

/-! ## Turns -/

/-- a turn that goes on; it takes no time, and reads nothing from the socket while anything is stored or queued -/
structure PumpsOn (c c' : Client SimBoard slots) : Prop extends Served c c' where
  time : c'.board.time = c.board.time
  reads : 0 < c.pending ∨ c.engine.state.sendRec = true → c'.socket.incoming = c.socket.incoming

theorem sendRecord_pumps (hsend : c.engine.state.sendRec = true) (h : c.sendRecord = (.ok (), c')) : PumpsOn c c' := by
  rcases sendRecord_cases hsend h with ⟨_, hr, -⟩ | ⟨count, -, -, -, -, -, rfl⟩
  · cases hr
  · exact ⟨⟨⟨⟨rfl, rfl⟩, rfl, rfl, rfl⟩, List.prefix_rfl, ⟨rfl, rfl⟩, rfl, rfl⟩, rfl, fun _ => rfl⟩

theorem handOver_pumps (hpending : 0 < c.pending) (h : c.handOver c.engine.state = (.ok (), c')) : PumpsOn c c' := by
  rcases handOver_cases hpending h with ⟨_, hr, -⟩ | ⟨-, -, -, rfl⟩
  · cases hr
  · exact ⟨⟨⟨⟨rfl, rfl⟩, rfl, rfl, rfl⟩, List.prefix_rfl, ⟨rfl, rfl⟩, rfl, rfl⟩, rfl, fun _ => rfl⟩

theorem receiveRecord_pumps (hsend : c.engine.state.sendRec = false) (hpending : c.pending = 0)
    (hrecv : c.engine.state.recvRec = true) (h : c.receiveRecord = (.ok .record, c')) : PumpsOn c c' := by
  rcases receiveRecord_cases hrecv h with ⟨_, hr, -⟩ | ⟨hr, -⟩ | ⟨count, -, -, -, -, -, rfl⟩
  · cases hr
  · cases hr
  · obtain ⟨phase, unread, session, handshakes, hreceive⟩ := c.engine.receive_frame (c.socket.incoming.take count)
    have hflushes : (c.engine.receive (c.socket.incoming.take count)).flushes = c.engine.flushes := by rw [hreceive]
    refine ⟨⟨⟨⟨rfl, rfl⟩, rfl, rfl, rfl⟩, c.engine.unread_receive _, ⟨rfl, rfl⟩, rfl, hflushes⟩, rfl, ?_⟩
    simp [hpending, hsend]

/-- **A turn after which the pump goes on** leaves the connection alone, and reads only if nothing else is to be done. -/
theorem pumpsOn_of_again (h : c.pumpTurn = .again c') : PumpsOn c c' := by
  have hturn := pumpTurn_cases c
  rw [h] at hturn
  cases hturn with
  | sent hsend h => exact sendRecord_pumps hsend h
  | handed hpending h => exact handOver_pumps hpending h
  | received hsend hpending hrecv h => exact receiveRecord_pumps hsend hpending hrecv h

/-! ## Runs -/

/-- a run of the pump that began with `c` goes through `c'` -/
def Pumps (c c' : Client SimBoard slots) : Prop := Relation.ReflTransGen (fun c c' => c.pumpTurn = .again c') c c'

/-- **Wherever a run of the pump gets**, the connection is what it was, and no time has passed. -/
theorem Pumps.served (h : Pumps c c') : Served c c' ∧ c'.board.time = c.board.time := by
  induction h with
  | refl => exact ⟨.refl c, rfl⟩
  | tail _ hturn ih =>
    have hon := pumpsOn_of_again hturn
    exact ⟨ih.1.trans hon.toServed, hon.time.trans ih.2⟩

/-- a run of the pump ends with a turn that ends it -/
theorem pump_last {budget : Nat} {r : EngineState × Client SimBoard slots} (h : c.pump budget = some r) :
    ∃ last, Pumps c last ∧ PumpTurn last (.done r) := by
  obtain ⟨last, hpumps, hdone⟩ := repeatTurn_last h
  have hturn := pumpTurn_cases last
  rw [hdone] at hturn
  exact ⟨last, hpumps, hturn⟩

/-- how a run of the pump ends that began with `c`, and the flags that it answers -/
inductive PumpOutcome (c : Client SimBoard slots) : EngineState → Client SimBoard slots → Prop
  /-- a failure is on record, and the connection was torn down -/
  | failed {c' : Client SimBoard slots} (hstatus : c'.status ≠ .ok) (hdown : TornDown c c') :
      PumpOutcome c .invalid c'
  /-- the engine is closed -/
  | closed {c' : Client SimBoard slots} (hpumps : Pumps c c') (hok : c'.status = .ok)
      (hclosed : c'.engine.state.closed = true) : PumpOutcome c c'.engine.state c'
  /-- there is nothing to do, and the engine does not wait for ciphertext -/
  | rested {c' : Client SimBoard slots} (hpumps : Pumps c c') (hok : c'.status = .ok)
      (hopen : c'.engine.state.closed = false) (hsend : c'.engine.state.sendRec = false) (hpending : c'.pending = 0)
      (hrecv : c'.engine.state.recvRec = false) : PumpOutcome c c'.engine.state c'
  /-- the engine waits for ciphertext, and the peer has sent nothing: a pause follows the poll, the only pause there is -/
  | waited {last} (hpumps : Pumps c last) (hok : last.status = .ok) (hopen : last.engine.state.closed = false)
      (hsend : last.engine.state.sendRec = false) (hpending : last.pending = 0)
      (hrecv : last.engine.state.recvRec = true) (hup : last.socket.isConnected = true)
      (hnone : last.socket.availableChunk = some 0 ∨ last.socket.incoming = [])
      (hpause : last.paused.board.time = c.board.time.delayMs c.config.pollDelayMs) :
      PumpOutcome c last.engine.state last.paused

theorem pump_outcome {budget : Nat} {state : EngineState} (hok : c.status = .ok)
    (h : c.pump budget = some (state, c')) : PumpOutcome c state c' := by
  obtain ⟨last, hpumps, hturn⟩ := pump_last h
  obtain ⟨hserved, htime⟩ := hpumps.served
  have hok' : last.status = .ok := hserved.status.trans hok
  cases hturn with
  | closed hclosed => exact .closed hpumps hok' hclosed
  | rested hopen hsend hpending hrecv => exact .rested hpumps hok' hopen hsend hpending hrecv
  | waited hopen hsend hpending hrecv hup hnone =>
    rw [capAt_eq_zero, List.length_eq_zero_iff] at hnone
    refine .waited hpumps hok' hopen hsend hpending hrecv hup hnone ?_
    rw [paused, htime, hserved.config]
  | @failed s c₁ hcause hharm =>
    have hlife : c₁.status = .ok := by
      rw [hharm.rest]
      exact hok'
    refine .failed ?_ (.of_kept hserved.toKept (.of_harmed hharm s))
    rw [status_fail hlife]
    exact hcause.ne_ok

/-- **The pump stops only where nothing is left to do**, or fails. A run that fails tears the connection down. One that
does not answers the flags of an engine that is closed, or has nothing stored and nothing queued and does not wait for
ciphertext either, or waits for a peer that is there and has sent nothing. In no turn is anything read from the socket
while plaintext is stored or ciphertext is queued. -/
theorem pump_quiescent (hok : c.status = .ok) :
    ∃ state c', Settles (fun budget => c.pump budget) (state, c') ∧ PumpOutcome c state c' ∧
      ∀ c₁ c₂, Pumps c c₁ → c₁.pumpTurn = .again c₂ → 0 < c₁.pending ∨ c₁.engine.state.sendRec = true →
        c₂.socket.incoming = c₁.socket.incoming := by
  obtain ⟨⟨state, c'⟩, hsettles⟩ := pump_settles hok
  obtain ⟨budget, hpump⟩ := hsettles.some
  exact ⟨state, c', hsettles, pump_outcome hok hpump, fun c₁ c₂ _ hturn => (pumpsOn_of_again hturn).reads⟩

/-- two bytes are stored and the peer is silent: they are handed over and sent before the pump waits for the peer -/
theorem pump_quiescent_stored_plaintext :
    ∃ c : Client SimBoard 1, c.status = .ok ∧ c.pending = 2 ∧
      ∃ state c', Settles (fun budget => c.pump budget) (state, c') ∧ state = { recvRec := true, sendApp := true } ∧
        c'.pending = 0 ∧ c'.engine.state.sendRec = false ∧ c'.socket.isConnected = true ∧
        c'.board.time = c.board.time.delayMs c.config.pollDelayMs := by
  have hplayed :
      (newcomer.undergo 50 [.request (.connect (.name "a") 443 fun _ => []), .request (.write [1, 2])]).map
          (fun s => (s.2.status, s.2.pending, (s.2.pump 50).map Prod.fst)) =
        some (.ok, 2, some { recvRec := true, sendApp := true }) := by
    decide +kernel
  obtain ⟨⟨log, c⟩, -, heq⟩ := Option.map_eq_some_iff.1 hplayed
  obtain ⟨hok, hpending, hpumped⟩ : c.status = .ok ∧ c.pending = 2 ∧
      (c.pump 50).map Prod.fst = some { recvRec := true, sendApp := true } := by
    simpa using heq
  obtain ⟨⟨flags, c₁⟩, hpump, hflags⟩ := Option.map_eq_some_iff.1 hpumped
  have hsettled : Settles (fun budget => c.pump budget) (flags, c₁) :=
    .of_mono pump_mono hpump
  obtain ⟨state, c', hsettles, houtcome, -⟩ := pump_quiescent hok
  have hstate : state = { recvRec := true, sendApp := true } :=
    (congrArg Prod.fst (hsettles.unique hsettled)).trans hflags
  refine ⟨c, hok, hpending, state, c', hsettles, hstate, ?_⟩
  cases houtcome with
  | failed => cases hstate
  | closed _ _ hclosed => simp [hstate] at hclosed
  | rested _ _ _ _ _ hrecv => simp [hstate] at hrecv
  | waited _ _ _ hsend hidle _ hup _ hpause => exact ⟨hidle, hsend, hup, hpause⟩

end Client

end TlsClient

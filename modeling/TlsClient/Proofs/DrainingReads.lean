/-
Reads drain what has been received, also after the peer has dropped the socket.

A drop is only noticed by a poll that finds nothing, so it does not come between a reader and what the peer had sent
before.
- `inbound`: what has been received and not yet read;
- `Draining`: a session with nothing to send, on a board that lets through what the peer has sent;
- `Draining.perform_read`: as long as there is something to read, a read returns the beginning of it;
- `Exhausted`: there is nothing left, `Exhausted.perform_read`: every further read gives the same answer;
- `reads_drain`: what a series of reads comes to.
-/
import Mathlib.Algebra.BigOperators.Group.List.Basic
import TlsClient.Proofs.Observers
import TlsClient.Proofs.Reports

namespace TlsClient.Client

variable {slots : Nat} {c c' : Client SimBoard slots} {room : Nat}

/-- what has been received and not yet read, in order -/
def inbound (c : Client SimBoard slots) : Bytes := c.engine.unread ++ c.socket.incoming

/-- what a read answers when there is nothing left to read -/
def lastAnswer (up : Bool) : Except Error Bytes := if up then .ok [] else .error (.status .transportWrite)

/-- a session with nothing to send, on a board that lets through what the peer has sent -/
structure Draining (c : Client SimBoard slots) : Prop extends Listening c where
  up : Up c
  sane : c.abort = false
  window : 0 < c.engine.capacity
  chunk : c.socket.availableChunk ≠ some 0
  sound : c.socket.failReads = false
  honest : c.socket.overreport = 0
  memory : ∀ asked required, c.board.probe.answer asked required = .sufficient

theorem Draining.frame (h : Draining c) {incoming unread recvWindow : Bytes} {polls flushes checks : Nat}
    {time : SimTime} {stats : Stats} :
    Draining
      { c with
        board.socket.incoming := incoming
        board.socket.polls := polls
        board.engine := { c.engine with unread, recvWindow, flushes }
        board.probe.checks := checks
        board.time := time
        stats } :=
  ⟨⟨h.natural, h.app, h.queue, h.pending⟩, ⟨h.up.stage, h.up.session, h.up.status⟩, h.sane, h.window, h.chunk, h.sound,
    h.honest, h.memory⟩

theorem perform_read_settles {answer : Except Error Bytes} (enough : Nat)
    (h : ∀ budget, c.read (budget + enough) room = some (answer, c')) :
    Settles (fun budget => c.perform budget (.read room)) (.bytes answer, c') :=
  .of_add enough fun budget => by simp only [perform, h, Option.map_some]

/-! ## While there is something to read -/

theorem Draining.atRest (h : Draining c)
    (hready : c.engine.unread ≠ [] ∨ c.socket.incoming = [] ∧ c.socket.isConnected = true) : AtRest c := by
  refine ⟨h.toListening, h.up.status, h.up.session, h.sane, fun hnone => ?_⟩
  obtain ⟨hincoming, hpeer⟩ := hready.resolve_left (not_not_intro hnone)
  exact ⟨hpeer, capAt_eq_zero.2 (.inr (List.length_eq_zero_iff.2 hincoming))⟩

theorem read_of_again (hguard : c.lifecycle.softConnected c.flags = .ok ())
    (hguard' : c'.lifecycle.softConnected c'.flags = .ok ()) (h : c.pumpTurn = .again c') (hroom : room ≠ 0)
    (budget : Nat) : c.read (budget + 1) room = c'.read budget room := by
  have havail : c.available (budget + 1) = c'.available budget := by
    simp only [available, hguard, hguard', pump_of_again h]
  simp only [read, if_neg hroom, havail]

/-- one turn brings in the beginning of what the peer has sent -/
theorem Draining.pumpTurn (h : Draining c) (hunread : c.engine.unread = []) (hincoming : c.socket.incoming ≠ []) :
    ∃ c', c.pumpTurn = .again c' ∧ Draining c' ∧ c'.engine.unread ≠ [] ∧ c'.inbound = c.inbound ∧
      c'.socket.isConnected = c.socket.isConnected := by
  have hsome : capAt c.socket.availableChunk c.socket.incoming.length ≠ 0 := by
    rw [Ne, capAt_eq_zero, List.length_eq_zero_iff]
    exact not_or_intro h.chunk hincoming
  obtain ⟨count, hpos, hle, hturn⟩ := h.pumpTurn_bytes hunread h.window hsome (h.memory _ _) h.sound h.honest
  refine ⟨_, hturn, h.frame, ?_, ?_, rfl⟩
  · apply List.ne_nil_of_length_pos
    rw [List.length_take, Nat.min_eq_left hle]
    exact hpos
  · rw [inbound, inbound, hunread]
    exact List.take_append_drop count c.socket.incoming

theorem Draining.read_unread (h : Draining c) (hunread : c.engine.unread ≠ []) (hroom : room ≠ 0) :
    ∃ chunk c', (∀ budget, c.read (budget + 1) room = some (.ok chunk, c')) ∧ chunk ≠ [] ∧
      c.inbound = chunk ++ c'.inbound ∧ Draining c' ∧ c'.socket.isConnected = c.socket.isConnected := by
  have hread := (h.atRest (.inl hunread)).read hroom
  rw [recounted, if_neg hunread] at hread
  refine ⟨_, _, hread, ?_, ?_, h.frame, rfl⟩
  · rw [Ne, List.take_eq_nil_iff]
    exact not_or_intro hroom hunread
  · calc c.inbound = c.engine.unread ++ c.socket.incoming := rfl
      _ = c.engine.unread.take room ++ c.engine.unread.drop room ++ c.socket.incoming := by
        rw [List.take_append_drop]
      _ = c.engine.unread.take room ++ (c.engine.unread.drop room ++ c.socket.incoming) := List.append_assoc _ _ _

/-- **As long as there is something to read, a read returns the beginning of it**, at least one byte. -/
theorem Draining.perform_read (h : Draining c) (hsome : c.inbound ≠ []) (hroom : room ≠ 0) :
    ∃ chunk c', Settles (fun budget => c.perform budget (.read room)) (.bytes (.ok chunk), c') ∧ chunk ≠ [] ∧
      c.inbound = chunk ++ c'.inbound ∧ Draining c' ∧ c'.socket.isConnected = c.socket.isConnected := by
  by_cases hunread : c.engine.unread = []
  · have hincoming : c.socket.incoming ≠ [] := by
      rintro hnone
      exact hsome (by rw [inbound, hunread, hnone, List.append_nil])
    obtain ⟨c₁, hturn, hdraining, hunread₁, hinbound, hpeer⟩ := h.pumpTurn hunread hincoming
    obtain ⟨chunk, c', hread, hchunk, hsplit, hdraining', hpeer'⟩ := hdraining.read_unread hunread₁ hroom
    have hguard := h.admitted h.up.status h.up.session
    have hguard₁ := hdraining.admitted hdraining.up.status hdraining.up.session
    have hagain := read_of_again hguard hguard₁ hturn hroom
    refine ⟨chunk, c', perform_read_settles 2 fun budget => ?_, hchunk, hinbound ▸ hsplit, hdraining',
      hpeer'.trans hpeer⟩
    exact (hagain (budget + 1)).trans (hread budget)
  · obtain ⟨chunk, c', hread, hrest⟩ := h.read_unread hunread hroom
    exact ⟨chunk, c', perform_read_settles 1 hread, hrest⟩

/-! ## When there is nothing left -/

/-- there is nothing left to read, and a read answers so: the peer is silent, or it has dropped the socket, or that is
on record -/
inductive Exhausted (c : Client SimBoard slots) : Bool → Prop
  | silent (h : Draining c) (hnone : c.inbound = []) (hpeer : c.socket.isConnected = true) : Exhausted c true
  | dropped (h : Draining c) (hnone : c.inbound = []) (hpeer : c.socket.isConnected = false) : Exhausted c false
  | failed (hstatus : c.status = .transportWrite) : Exhausted c false

theorem Exhausted.of_inbound (h : Draining c) (hnone : c.inbound = []) : Exhausted c c.socket.isConnected := by
  cases hpeer : c.socket.isConnected with
  | true => exact .silent h hnone hpeer
  | false => exact .dropped h hnone hpeer

theorem Draining.read_dropped (h : Draining c) (hnone : c.inbound = []) (hpeer : c.socket.isConnected = false)
    (hroom : room ≠ 0) :
    ∃ c', (∀ budget, c.read (budget + 1) room = some (.error (.status .transportWrite), c')) ∧
      c'.status = .transportWrite := by
  obtain ⟨hunread, hincoming⟩ := List.append_eq_nil_iff.1 hnone
  have hcap : capAt c.socket.availableChunk c.socket.incoming.length = 0 :=
    capAt_eq_zero.2 (.inr (List.length_eq_zero_iff.2 hincoming))
  have hturn := h.pumpTurn_dropped hunread hcap hpeer
  generalize hfail : Client.fail { c with board.socket.polls := c.socket.polls + 1 } .transportWrite = c' at hturn
  have hstatus : c'.status = .transportWrite := by
    have hok : Client.status { c with board.socket.polls := c.socket.polls + 1 } = .ok := h.up.status
    rw [← hfail]
    exact status_fail hok .transportWrite
  have hsane : c'.abort = false := by
    rw [← hfail, fail_eq]
    exact h.sane
  have hcount := countUnread_failed hsane (by rw [hstatus]; decide)
  rw [hstatus] at hcount
  refine ⟨c', fun budget => ?_, hstatus⟩
  simp only [read, if_neg hroom, available_of_pump (h.admitted h.up.status h.up.session) (pump_of_done hturn budget),
    hcount, Result.andThen]

/-- **Once there is nothing left, every read answers so.** -/
theorem Exhausted.perform_read {up : Bool} (h : Exhausted c up) (hroom : room ≠ 0) :
    ∃ c', Settles (fun budget => c.perform budget (.read room)) (.bytes (lastAnswer up), c') ∧ Exhausted c' up := by
  cases h with
  | silent h hnone hpeer =>
    obtain ⟨hunread, hincoming⟩ := List.append_eq_nil_iff.1 hnone
    have hread := (h.atRest (.inr ⟨hincoming, hpeer⟩)).read hroom
    rw [recounted, if_pos hunread, hunread, List.take_nil, List.drop_nil] at hread
    exact ⟨_, perform_read_settles 1 hread, .silent h.frame hincoming hpeer⟩
  | dropped h hnone hpeer =>
    obtain ⟨c', hread, hstatus⟩ := h.read_dropped hnone hpeer hroom
    exact ⟨c', perform_read_settles 1 hread, .failed hstatus⟩
  | failed hstatus =>
    have hfailed : c.status ≠ .ok := by
      rw [hstatus]
      decide
    have hasks : (Request.read room).asks = true := by
      simpa [Request.asks] using Nat.pos_of_ne_zero hroom
    have hrefused := perform_of_failed hfailed rfl hasks
    rw [hstatus] at hrefused
    exact ⟨c, .of_add 0 hrefused, .failed hstatus⟩

/-! ## Series of reads -/

/-- a series of reads, with room for so many bytes each -/
def reads (rooms : List Nat) : List Event := rooms.map fun room => .request (.read room)

theorem undergo_reads_cons {rooms : List Nat} {reply : Reply} {c₁ : Client SimBoard slots} {log : List Exchange}
    (hfirst : Settles (fun budget => c.perform budget (.read room)) (reply, c₁))
    (hrest : Settles (fun budget => c₁.undergo budget (reads rooms)) (log, c')) :
    Settles (fun budget => c.undergo budget (reads (room :: rooms))) ((.read room, reply) :: log, c') := by
  refine hfirst.followed (hrest.map fun rest => ((Request.read room, reply) :: rest.1, rest.2)) ?_
  intro budget hperform
  have hperform : c.perform budget (.read room) = some (reply, c₁) := hperform
  simp only [reads, List.map_cons, undergo, hperform]

/-- all reads of a series give the same answer once there is nothing left -/
theorem Exhausted.series {up : Bool} {rooms : List Nat} (h : Exhausted c up) (hrooms : ∀ room ∈ rooms, 0 < room) :
    ∃ log c', Settles (fun budget => c.undergo budget (reads rooms)) (log, c') ∧
      log.map (·.2) = List.replicate rooms.length (.bytes (lastAnswer up)) := by
  induction rooms generalizing c with
  | nil => exact ⟨[], c, .const _, rfl⟩
  | cons room rooms ih =>
    obtain ⟨hroom, hrooms⟩ := List.forall_mem_cons.1 hrooms
    obtain ⟨c₁, hfirst, hover⟩ := h.perform_read (Nat.ne_of_gt hroom)
    obtain ⟨log, c', hrest, hreplies⟩ := ih hover hrooms
    refine ⟨_, c', undergo_reads_cons hfirst hrest, ?_⟩
    rw [List.map_cons, hreplies, List.length_cons, List.replicate_succ]

/-- what a series of reads answers: chunks of what was received, in order, until there is nothing left -/
structure Drains (received : Bytes) (up : Bool) (rooms : List Nat) (replies : List Reply) (chunks : List Bytes) :
    Prop where
  replies : replies =
    chunks.map (fun chunk => .bytes (.ok chunk)) ++
      List.replicate (rooms.length - chunks.length) (.bytes (lastAnswer up))
  le : chunks.length ≤ rooms.length
  progress : ∀ chunk ∈ chunks, chunk ≠ []
  order : chunks.flatten <+: received
  complete : chunks.length < rooms.length → chunks.flatten = received

theorem Drains.all {received : Bytes} {up : Bool} {rooms : List Nat} {replies : List Reply} {chunks : List Bytes}
    (h : Drains received up rooms replies chunks) (hmany : received.length < rooms.length) :
    chunks.flatten = received := by
  have hone : ∀ length ∈ chunks.map List.length, 1 ≤ length := by
    intro length hlength
    obtain ⟨chunk, hchunk, rfl⟩ := List.mem_map.1 hlength
    exact List.length_pos_iff.2 (h.progress chunk hchunk)
  have hchunks : chunks.length ≤ received.length :=
    calc chunks.length = (chunks.map List.length).length := by rw [List.length_map]
      _ ≤ (chunks.map List.length).sum := List.length_le_sum_of_one_le _ hone
      _ = chunks.flatten.length := List.length_flatten.symm
      _ ≤ received.length := h.order.length_le
  exact h.complete (Nat.lt_of_le_of_lt hchunks hmany)

/-- **A series of reads drains what has been received.** -/
theorem Draining.series {rooms : List Nat} (h : Draining c) (hrooms : ∀ room ∈ rooms, 0 < room) :
    ∃ log c' chunks, Settles (fun budget => c.undergo budget (reads rooms)) (log, c') ∧
      Drains c.inbound c.socket.isConnected rooms (log.map (·.2)) chunks := by
  induction rooms generalizing c with
  | nil => exact ⟨[], c, [], .const _, rfl, Nat.le_refl _, nofun, List.nil_prefix, nofun⟩
  | cons room rooms ih =>
    by_cases hnone : c.inbound = []
    · obtain ⟨log, c', hrun, hreplies⟩ := (Exhausted.of_inbound h hnone).series hrooms
      exact ⟨log, c', [], hrun, hreplies, Nat.zero_le _, nofun, List.nil_prefix, fun _ => hnone.symm⟩
    · obtain ⟨hroom, hrooms⟩ := List.forall_mem_cons.1 hrooms
      obtain ⟨chunk, c₁, hfirst, hchunk, hsplit, hdraining, hpeer⟩ := h.perform_read hnone (Nat.ne_of_gt hroom)
      obtain ⟨log, c', chunks, hrest, hdrains⟩ := ih hdraining hrooms
      refine ⟨_, c', chunk :: chunks, undergo_reads_cons hfirst hrest, ?_, ?_, ?_, ?_, ?_⟩
      · rw [List.map_cons, hdrains.replies, hpeer]
        simp
      · exact Nat.succ_le_succ hdrains.le
      · exact List.forall_mem_cons.2 ⟨hchunk, hdrains.progress⟩
      · rw [List.flatten_cons, hsplit]
        exact (List.prefix_append_right_inj chunk).2 hdrains.order
      · intro hlt
        rw [List.flatten_cons, hsplit, hdrains.complete (Nat.lt_of_succ_lt_succ hlt)]

/-- **What was received survives a drop, and every read makes progress.** On a connected client in the application phase
with nothing to send, whose socket neither fails nor exaggerates and always lets something through, with memory enough:
whether or not the peer has dropped the socket, the reads of a series return what was unread and what had been sent, in
order, each at least one byte of it, until nothing is left. Every further read answers that nothing has arrived if the
socket is up, and that the socket failed if it was dropped. -/
theorem reads_drain {rooms : List Nat} (hlived : Lived c) (hphase : c.phase = .connected)
    (hforced : c.engine.forced = none) (happ : c.engine.phase = .app) (hwindow : 0 < c.engine.capacity)
    (hpending : c.pending = 0) (hqueue : c.engine.outgoing = []) (hhonest : c.socket.overreport = 0)
    (hsound : c.socket.failReads = false) (hchunk : c.socket.availableChunk ≠ some 0)
    (hmemory : ∀ asked required, c.board.probe.answer asked required = .sufficient)
    (hrooms : ∀ room ∈ rooms, 0 < room) :
    ∃ log c' chunks, Settles (fun budget => c.undergo budget (reads rooms)) (log, c') ∧
      Drains (c.engine.unread ++ c.socket.incoming) c.socket.isConnected rooms (log.map (·.2)) chunks := by
  have hup := hlived.up hphase
  have hdraining : Draining c :=
    ⟨⟨hforced, happ, hqueue, hpending⟩, hup, hlived.blamed.sane hup.status, hwindow, hchunk, hsound, hhonest, hmemory⟩
  exact hdraining.series hrooms

/-- the peer has dropped the socket, three bytes are unread and three are waiting: seven reads are enough for all -/
theorem reads_drain_after_drop :
    ∃ (c c' : Client SimBoard 1) (log : List Exchange) (chunks : List Bytes), Lived c ∧ c.phase = .connected ∧
      c.socket.isConnected = false ∧ c.engine.unread = [1, 2, 3] ∧ c.socket.incoming = [4, 5, 6] ∧
      Settles (fun budget => c.undergo budget (reads [2, 2, 2, 2, 2, 2, 2])) (log, c') ∧
      log.map (·.2) = chunks.map (fun chunk => .bytes (.ok chunk)) ++
        List.replicate (7 - chunks.length) (.bytes (.error (.status .transportWrite))) ∧
      chunks.flatten = [1, 2, 3, 4, 5, 6] := by
  have hplayed :
      (newcomer.undergo 50
        [.request (.connect (.name "a") 443 fun _ => []), .socket (.availableChunk (some 3)),
          .socket (.push [1, 2, 3, 4, 5, 6]), .request .available, .socket (.isConnected false)]).map
          (fun s => (decide (s.2.phase = .connected ∧ s.2.engine.forced = none ∧ s.2.engine.phase = .app ∧
              0 < s.2.engine.capacity ∧ s.2.pending = 0 ∧ s.2.engine.outgoing = []),
            decide (s.2.socket.overreport = 0 ∧ s.2.socket.failReads = false ∧
              s.2.socket.availableChunk = some 3 ∧ s.2.socket.isConnected = false),
            s.2.engine.unread, s.2.socket.incoming)) =
        some (true, true, [1, 2, 3], [4, 5, 6]) := by
    decide +kernel
  obtain ⟨⟨log, c₀⟩, hrun, heq⟩ := Option.map_eq_some_iff.1 hplayed
  simp only [Prod.mk.injEq, decide_eq_true_iff] at heq
  obtain ⟨⟨hphase, hforced, happ, hwindow, hpending, hqueue⟩, ⟨hhonest, hsound, hchunk, hdown⟩, hunread, hincoming⟩ :=
    heq
  have hlived₀ : Lived c₀ := (Sheltered.of_undergo (c := newcomer) (.new _ _) (by simp) hrun).lived
  -- the probe is a function, so it is put in place rather than looked up in the history
  have hlived : Lived { c₀ with board.probe := .unbounded } := hlived₀.outside _
  have hrooms : ∀ room ∈ [2, 2, 2, 2, 2, 2, 2], 0 < room := by decide
  obtain ⟨log, c', chunks, hsettles, hdrains⟩ := reads_drain hlived hphase hforced happ hwindow hpending hqueue hhonest
    hsound (by rw [hchunk]; decide) (fun _ _ => rfl) hrooms
  have hdrains₀ : Drains (c₀.engine.unread ++ c₀.socket.incoming) c₀.socket.isConnected [2, 2, 2, 2, 2, 2, 2]
      (log.map (·.2)) chunks := hdrains
  rw [hunread, hincoming, hdown] at hdrains₀
  exact ⟨_, c', log, chunks, hlived, hphase, hdown, hunread, hincoming, hsettles, hdrains₀.replies,
    hdrains₀.all (by decide)⟩

end TlsClient.Client

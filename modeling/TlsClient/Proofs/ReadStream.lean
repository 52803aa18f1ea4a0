/-
The stream of bytes from the socket to the reads of a client, on an engine with separate buffers.

The peer's bytes are first its flight of the handshake and then plaintext. Every operation may pull them, in records
of any length, and three consumers touch what is unread. On a connection, `Stream` accounts for every byte of them:

  arrived = flight ++ taken ++ unread ++ incoming

- `Intake.move`: every step keeps the account, until a shutdown begins; nothing is dropped for the sake of a write;
- `Standing`: the session stands, or the socket was stopped since;
- `read_stream`: the bytes that arrived and the replies to the reads of a history.
-/
import TlsClient.Proofs.Histories

namespace TlsClient

namespace SimEngine

/-- an engine with separate buffers never has to choose between what it takes and what it has unread -/
theorem sendApp_of_recvApp {e : SimEngine} (hforced : e.forced = none) (hshared : e.sharedBuffer = false)
    (h : e.state.recvApp = true) : e.state.sendApp = true := by
  obtain ⟨hphase, hqueue, -⟩ := (recvApp_iff hforced).1 h
  refine (sendApp_iff hforced).2 ⟨hphase, hqueue, fun hshared' => ?_⟩
  rw [hshared] at hshared'
  cases hshared'

end SimEngine

namespace Client

variable {slots : Nat}

/-! ## The account -/

/-- where the bytes are that have `arrived` at the socket, the first `flight` of which belong to the handshake -/
inductive Stream (arrived : Bytes) (flight : Nat) (stage : Phase) (taken : Bytes) (engine : SimEngine)
    (incoming : Bytes) : Prop
  /-- a part of the flight is still wanted -/
  | waiting (hand : Bytes) {remaining} (hphase : engine.phase = .awaiting remaining) (hstage : stage = .handshaking)
      (hlength : hand.length + remaining = flight) (htaken : taken = []) (hunread : engine.unread = [])
      (h : arrived = hand ++ incoming)
  /-- the flight is complete, and everything after it is plaintext -/
  | settled (hand : Bytes) (hphase : ∀ remaining, engine.phase ≠ .awaiting remaining) (hlength : hand.length = flight)
      (h : arrived = hand ++ taken ++ engine.unread ++ incoming)

/-- the account of a connection, as long as its handshake, or the session after it, goes on -/
structure Intake (arrived : Bytes) (flight : Nat) (stage : Phase) (taken : Bytes) (c : Client SimBoard slots) :
    Prop where
  live : stage = .handshaking ∨ stage = .connected
  natural : c.engine.forced = none
  unshared : c.engine.sharedBuffer = false
  honest : c.socket.overreport = 0
  discards : c.stats.discards = 0
  stream : c.lifecycle.stage = stage → Stream arrived flight stage taken c.engine c.socket.incoming

/-- a step that leaves phase, unread plaintext and waiting bytes alone -/
theorem Stream.frame {arrived : Bytes} {flight : Nat} {stage : Phase} {taken incoming : Bytes} {e e' : SimEngine}
    (h : Stream arrived flight stage taken e incoming) (hphase : e'.phase = e.phase) (hunread : e'.unread = e.unread) :
    Stream arrived flight stage taken e' incoming := by
  cases h with
  | waiting hand hphase' hstage hlength htaken hunread' h =>
    exact .waiting hand (hphase.trans hphase') hstage hlength htaken (hunread.trans hunread') h
  | settled hand hphase' hlength h =>
    refine .settled hand ?_ hlength ?_
    · intro remaining
      rw [hphase]
      exact hphase' remaining
    · rw [hunread]; exact h

/-- a record moves from the socket into the flight, or behind what is unread -/
theorem Stream.receive {arrived : Bytes} {flight count : Nat} {stage : Phase} {taken incoming : Bytes} {e : SimEngine}
    (h : Stream arrived flight stage taken e incoming) (hpos : 0 < count) (hwant : count ≤ e.recvWant)
    (hle : count ≤ incoming.length) :
    Stream arrived flight stage taken (e.receive (incoming.take count)) (incoming.drop count) := by
  have hsplit := List.take_append_drop count incoming
  have hcount : (incoming.take count).length = count := List.length_take_of_le hle
  cases h with
  | @waiting hand remaining hphase hstage hlength htaken hunread h =>
    have hremaining : count ≤ remaining := by
      simp only [SimEngine.recvWant, hphase] at hwant
      split_ifs at hwant
      · exact hwant
      · omega
    have harrived : arrived = hand ++ incoming.take count ++ incoming.drop count := by
      rw [List.append_assoc, hsplit]; exact h
    have hreceive : e.receive (incoming.take count) = { e.flightArrived remaining count with recvWindow := [] } := by
      simp only [SimEngine.receive, hphase, hcount]
    rw [hreceive]
    unfold SimEngine.flightArrived
    split_ifs with hall
    · refine .settled (hand ++ incoming.take count) (fun _ => SimPhase.noConfusion) ?_ ?_
      · rw [List.length_append, hcount]
        omega
      · rw [htaken]
        have hnone : hand ++ incoming.take count ++ [] ++ e.unread ++ incoming.drop count =
            hand ++ incoming.take count ++ incoming.drop count := by
          rw [hunread, List.append_nil, List.append_nil]
        exact harrived.trans hnone.symm
    · refine .waiting (hand ++ incoming.take count) rfl hstage ?_ htaken hunread harrived
      rw [List.length_append, hcount]
      omega
  | settled hand hphase hlength h =>
    cases hp : e.phase with
    | idle =>
      simp only [SimEngine.recvWant, hp] at hwant
      omega
    | closed =>
      simp only [SimEngine.recvWant, hp] at hwant
      omega
    | awaiting remaining => exact absurd hp (hphase remaining)
    | app =>
      have hreceive : e.receive (incoming.take count) =
          { e with unread := e.unread ++ incoming.take count, recvWindow := [] } := by
        simp only [SimEngine.receive, hp]
      rw [hreceive]
      refine .settled hand hphase hlength ?_
      calc arrived
          = hand ++ taken ++ e.unread ++ incoming := h
        _ = hand ++ taken ++ e.unread ++ (incoming.take count ++ incoming.drop count) := by rw [hsplit]
        _ = hand ++ taken ++ (e.unread ++ incoming.take count) ++ incoming.drop count := by
            simp only [List.append_assoc]

theorem Stream.take {arrived : Bytes} {flight : Nat} {stage : Phase} {taken incoming : Bytes} {e : SimEngine}
    (h : Stream arrived flight stage taken e incoming) (room : Nat) :
    Stream arrived flight stage (taken ++ e.unread.take room) { e with unread := e.unread.drop room } incoming := by
  cases h with
  | waiting hand hphase hstage hlength htaken hunread h =>
    refine .waiting hand hphase hstage hlength ?_ ?_ h
    · rw [htaken, hunread, List.take_nil, List.nil_append]
    · rw [hunread, List.drop_nil]
  | settled hand hphase hlength h =>
    refine .settled hand hphase hlength ?_
    calc arrived
        = hand ++ taken ++ e.unread ++ incoming := h
      _ = hand ++ taken ++ (e.unread.take room ++ e.unread.drop room) ++ incoming := by rw [List.take_append_drop]
      _ = hand ++ (taken ++ e.unread.take room) ++ e.unread.drop room ++ incoming := by
          simp only [List.append_assoc]

theorem Stream.connected {arrived : Bytes} {flight : Nat} {taken incoming : Bytes} {e : SimEngine}
    (h : Stream arrived flight .connected taken e incoming) :
    (∀ remaining, e.phase ≠ .awaiting remaining) ∧
      ∃ hand, hand.length = flight ∧ arrived = hand ++ taken ++ e.unread ++ incoming := by
  cases h with
  | waiting _ _ hstage => exact Phase.noConfusion hstage
  | settled hand hphase hlength h => exact ⟨hphase, hand, hlength, h⟩

/-- a shutdown or a teardown has begun: from here on nothing is promised -/
theorem Intake.gone {arrived : Bytes} {flight : Nat} {stage : Phase} {taken taken' : Bytes}
    {c c' : Client SimBoard slots}
    (h : Intake arrived flight stage taken c)
    (hengine : c'.engine.forced = c.engine.forced ∧ c'.engine.sharedBuffer = c.engine.sharedBuffer)
    (hover : c'.socket.overreport = c.socket.overreport) (hstats : c'.stats = c.stats)
    (hstage : c'.lifecycle.stage = .closed ∨ c'.lifecycle.stage = .closing) :
    Intake arrived flight stage taken' c' := by
  refine ⟨h.live, hengine.1.trans h.natural, hengine.2.trans h.unshared, hover.trans h.honest, ?_, ?_⟩
  · rw [hstats]; exact h.discards
  · intro hlive
    rw [hlive] at hstage
    rcases h.live with rfl | rfl <;> simp at hstage

theorem Intake.frame {arrived : Bytes} {flight : Nat} {stage : Phase} {taken : Bytes} {c c' : Client SimBoard slots}
    (h : Intake arrived flight stage taken c)
    (hengine : ∃ outgoing plainWindow recvWindow plaintext handovers flushes,
      c'.engine = { c.engine with outgoing, plainWindow, recvWindow, plaintext, handovers, flushes })
    (hsocket : c'.socket.overreport = c.socket.overreport ∧ c'.socket.incoming = c.socket.incoming)
    (hlife : c'.lifecycle = c.lifecycle) (hdiscards : c'.stats.discards = c.stats.discards) :
    Intake arrived flight stage taken c' := by
  obtain ⟨outgoing, plainWindow, recvWindow, plaintext, handovers, flushes, hengine⟩ := hengine
  refine ⟨h.live, ?_, ?_, hsocket.1.trans h.honest, hdiscards.trans h.discards, ?_⟩
  · rw [hengine]; exact h.natural
  · rw [hengine]; exact h.unshared
  · rw [hlife, hsocket.2]
    intro hlive
    refine (h.stream hlive).frame ?_ ?_
    · rw [hengine]
    · rw [hengine]

/-- **Every step keeps the account**, as long as no shutdown begins. -/
theorem Intake.move {arrived : Bytes} {flight : Nat} {stage : Phase} {taken : Bytes} {c c' : Client SimBoard slots}
    {f : Flow}
    (h : Intake arrived flight stage taken c) (hmove : Move c f c') :
    Intake arrived flight stage (taken ++ f.taken) c' := by
  cases hmove with
  | @received count hok hopen hpending hrecv hpos hwant hle hover =>
    rw [List.append_nil]
    obtain ⟨phase, unread, session, handshakes, hreceive⟩ := c.engine.receive_frame (c.socket.incoming.take count)
    refine ⟨h.live, ?_, ?_, h.honest, h.discards, fun hlive => (h.stream hlive).receive hpos hwant hle⟩
    · exact (congrArg SimEngine.forced hreceive :).trans h.natural
    · exact (congrArg SimEngine.sharedBuffer hreceive :).trans h.unshared
  | take room => exact ⟨h.live, h.natural, h.unshared, h.honest, h.discards, fun hlive => (h.stream hlive).take room⟩
  | discard _ _ _ _ hrecv htake =>
    rw [SimEngine.sendApp_of_recvApp h.natural h.unshared hrecv] at htake
    exact absurd htake (by decide)
  | @failed s c₁ hs hharm =>
    rw [fail_eq]
    obtain ⟨plainWindow, recvWindow, hengine, -⟩ := hharm.engine
    obtain ⟨written, incoming, calls, polls, hsocket, -⟩ := hharm.socket
    obtain ⟨unread, hdrained⟩ := c₁.engine.drained_frame c₁.engine.state
    refine h.gone ⟨?_, ?_⟩ ?_ ?_ (.inl rfl)
    · exact (congrArg SimEngine.forced hdrained :).trans (congrArg SimEngine.forced hengine :)
    · exact (congrArg SimEngine.sharedBuffer hdrained :).trans (congrArg SimEngine.sharedBuffer hengine :)
    · exact (congrArg SimSocket.overreport hsocket :)
    · exact (congrArg (fun c : Client SimBoard slots => c.stats) hharm.rest :)
  | down =>
    rw [teardown_eq]
    obtain ⟨unread, hdrained⟩ := c.engine.drained_frame c.engine.state
    exact h.gone ⟨(congrArg SimEngine.forced hdrained :), (congrArg SimEngine.sharedBuffer hdrained :)⟩ rfl rfl
      (.inl rfl)
  | drop state hstage =>
    obtain ⟨unread, hdrained⟩ := c.engine.drained_frame state
    exact h.gone ⟨(congrArg SimEngine.forced hdrained :), (congrArg SimEngine.sharedBuffer hdrained :)⟩ rfl rfl
      (.inr hstage)
  | closing => exact h.gone ⟨rfl, rfl⟩ rfl rfl (.inr rfl)
  | noWindow _ he =>
    rw [List.append_nil]
    rcases he with rfl | rfl
    · exact h.frame ⟨_, _, _, _, _, _, rfl⟩ ⟨rfl, rfl⟩ rfl rfl
    · exact h.frame ⟨_, _, _, _, _, _, rfl⟩ ⟨rfl, rfl⟩ rfl rfl
  | _ =>
    rw [List.append_nil]
    exact h.frame ⟨_, _, _, _, _, _, rfl⟩ ⟨rfl, rfl⟩ rfl rfl

theorem Steps.intake {arrived : Bytes} {flight : Nat} {stage : Phase} {taken : Bytes} {c c' : Client SimBoard slots}
    {f : Flow} (h : Intake arrived flight stage taken c) (hs : Steps c f c') :
    Intake arrived flight stage (taken ++ f.taken) c' := by
  refine hs.invariant (I := fun f c' => Intake arrived flight stage (taken ++ f.taken) c') ?_ ?_
  · intro f g c₁ c₂ h₁ hstep
    have h₂ := h₁.move hstep.move
    rwa [List.append_assoc] at h₂
  · exact (List.append_nil taken).symm ▸ h

/-! ## The session -/

/-- the session stands, or the socket was stopped since; `stops` counts the stops before -/
structure Standing (stops : Nat) (c : Client SimBoard slots) : Prop where
  le : stops ≤ c.socket.stops
  stage : c.lifecycle.stage = .connected ∨ stops < c.socket.stops

theorem Standing.move {stops : Nat} {c c' : Client SimBoard slots} {f : Flow} (h : Standing stops c)
    (hmove : Move c f c')
    (hcloses : f.closes = false) : Standing stops c' := by
  cases hmove with
  | @failed s c₁ hs hharm =>
    obtain ⟨written, incoming, calls, polls, hsocket, -⟩ := hharm.socket
    have hstops : c₁.socket.stops = c.socket.stops := (congrArg SimSocket.stops hsocket :)
    have hlt : stops < c₁.socket.stops + 1 := by
      rw [hstops]
      exact Nat.lt_succ_of_le h.le
    rw [fail_eq]
    exact ⟨Nat.le_of_lt hlt, .inr hlt⟩
  | down =>
    have hlt : stops < c.socket.stops + 1 := Nat.lt_succ_of_le h.le
    rw [teardown_eq]
    exact ⟨Nat.le_of_lt hlt, .inr hlt⟩
  | closing => simp at hcloses
  | _ => exact ⟨h.le, h.stage⟩

theorem Steps.standing {stops : Nat} {c c' : Client SimBoard slots} {f : Flow} (h : Standing stops c)
    (hs : Steps c f c')
    (hcloses : f.closes = false) : Standing stops c' := by
  refine hs.invariant (I := fun f c' => f.closes = false → Standing stops c') ?_ (fun _ => h) hcloses
  intro f g c₁ c₂ h₁ hstep hnone
  rw [Flow.closes_append, Bool.or_eq_false_iff] at hnone
  exact (h₁ hnone.1).move hstep.move hnone.2

theorem Move.stops_le {c c' : Client SimBoard slots} {f : Flow} (hmove : Move c f c') :
    c.socket.stops ≤ c'.socket.stops := by
  cases hmove with
  | @failed s c₁ hs hharm =>
    obtain ⟨written, incoming, calls, polls, hsocket, -⟩ := hharm.socket
    have hstops : c₁.socket.stops = c.socket.stops := (congrArg SimSocket.stops hsocket :)
    rw [fail_eq, ← hstops]
    exact Nat.le_succ _
  | down => rw [teardown_eq]; exact Nat.le_succ _
  | _ => exact Nat.le_refl _

theorem Steps.stops_le {c c' : Client SimBoard slots} {f : Flow} (hs : Steps c f c') :
    c.socket.stops ≤ c'.socket.stops :=
  hs.invariant (I := fun _ c' => c.socket.stops ≤ c'.socket.stops)
    (fun hle hstep => Nat.le_trans hle hstep.move.stops_le) (Nat.le_refl _)

end Client

/-! ## Histories -/

/-- an event that leaves the reads of a connection accounted for: no other connect, no buffer that is filled only in
part, no plaintext, flags or shared buffer from outside, and the socket stays honest -/
def Event.keepsReads : Event → Prop
  | .request (.connect ..) | .request (.readExact _) => False
  | .socket (.overreport _) => False
  | .engine (.deliver _) | .engine (.forced _) | .engine (.sharedBuffer _) => False
  | _ => True

namespace Client

variable {slots : Nat}

/-- the account of a connection and of the replies to its reads -/
structure ReadLog (arrived : Bytes) (flight stops : Nat) (log : List Exchange) (c : Client SimBoard slots) : Prop where
  standing : Standing stops c
  intake : Intake arrived flight .connected (returned log) c

/-- **Every request keeps the account of the reads.** -/
theorem ReadLog.request {arrived : Bytes} {flight stops budget : Nat} {log : List Exchange}
    {c c' : Client SimBoard slots}
    {r : Request} {reply : Reply} (h : ReadLog arrived flight stops log c) (hevent : (Event.request r).keepsReads)
    (hperform : c.perform budget r = some (reply, c')) : ReadLog arrived flight stops (log ++ [(r, reply)]) c' := by
  have hopens : r.opens = false := by
    cases r with
    | connect => exact absurd hevent id
    | _ => rfl
  obtain ⟨flow, hs, hfits⟩ := perform_steps hopens hperform
  have htaken : flow.taken = Exchange.returned (r, reply) := by
    rcases hfits.taken with htaken | ⟨length, e, rfl, -⟩
    · exact htaken
    · exact absurd hevent id
  refine ⟨?_, ?_⟩
  · cases hcloses : flow.closes with
    | false => exact hs.standing h.standing hcloses
    | true =>
      -- a shutdown ends with a teardown, whatever became of the session
      obtain rfl := hfits.closes hcloses
      obtain ⟨c₁, hstop, heq⟩ := Option.map_eq_some_iff.1 hperform
      cases heq
      obtain ⟨flow₁, c₂, hs₁, -, -, rfl⟩ := stop_spec hstop
      have hlt : stops < c₂.socket.stops + 1 := Nat.lt_succ_of_le (Nat.le_trans h.standing.le hs₁.stops_le)
      rw [teardown_eq]
      exact ⟨Nat.le_of_lt hlt, .inr hlt⟩
  · rw [returned_snoc, ← htaken]
    exact hs.intake h.intake

/-- a change from outside that brings `bytes` to the socket, and does no more to the engine than to close it -/
theorem ReadLog.outside {arrived : Bytes} {flight stops : Nat} {log : List Exchange} {c c' : Client SimBoard slots}
    (h : ReadLog arrived flight stops log c) (bytes : Bytes)
    (hrest : c'.lifecycle = c.lifecycle ∧ c'.stats = c.stats ∧ c'.socket.stops = c.socket.stops ∧
      c'.socket.overreport = c.socket.overreport)
    (hincoming : c'.socket.incoming = c.socket.incoming ++ bytes)
    (hengine : c'.engine.forced = c.engine.forced ∧ c'.engine.sharedBuffer = c.engine.sharedBuffer ∧
      c'.engine.unread = c.engine.unread)
    (hphase : c'.engine.phase = c.engine.phase ∨ c'.engine.phase = .closed) :
    ReadLog (arrived ++ bytes) flight stops log c' := by
  obtain ⟨hlife, hstats, hstops, hover⟩ := hrest
  obtain ⟨hforced, hshared, hunread⟩ := hengine
  refine ⟨⟨?_, ?_⟩, h.intake.live, hforced.trans h.intake.natural, hshared.trans h.intake.unshared,
    hover.trans h.intake.honest, ?_, ?_⟩
  · rw [hstops]; exact h.standing.le
  · rw [hstops, hlife]; exact h.standing.stage
  · rw [hstats]; exact h.intake.discards
  · intro hlive
    rw [hlife] at hlive
    obtain ⟨hsettled, hand, hlength, harrived⟩ := (h.intake.stream hlive).connected
    rw [hincoming]
    refine .settled hand ?_ hlength ?_
    · intro remaining
      rcases hphase with hsame | hclosed
      · rw [hsame]; exact hsettled remaining
      · rw [hclosed]; exact SimPhase.noConfusion
    · rw [hunread, harrived, List.append_assoc _ c.socket.incoming]

theorem ReadLog.disturb {arrived : Bytes} {flight stops : Nat} {log : List Exchange} {c : Client SimBoard slots}
    {event : Event} (h : ReadLog arrived flight stops log c) (hevent : event.keepsReads) :
    ReadLog (arrived ++ event.pushed) flight stops log (c.disturb event) := by
  have hnone : c.socket.incoming = c.socket.incoming ++ [] := (List.append_nil _).symm
  cases event with
  | socket edit =>
    cases edit with
    | overreport => exact absurd hevent id
    | push bytes => exact h.outside bytes ⟨rfl, rfl, rfl, rfl⟩ rfl ⟨rfl, rfl, rfl⟩ (.inl rfl)
    | _ => exact h.outside [] ⟨rfl, rfl, rfl, rfl⟩ hnone ⟨rfl, rfl, rfl⟩ (.inl rfl)
  | engine edit =>
    cases edit with
    | deliver | forced | sharedBuffer => exact absurd hevent id
    | close => exact h.outside [] ⟨rfl, rfl, rfl, rfl⟩ hnone ⟨rfl, rfl, rfl⟩ (.inr rfl)
    | _ => exact h.outside [] ⟨rfl, rfl, rfl, rfl⟩ hnone ⟨rfl, rfl, rfl⟩ (.inl rfl)
  | _ => exact h.outside [] ⟨rfl, rfl, rfl, rfl⟩ hnone ⟨rfl, rfl, rfl⟩ (.inl rfl)

theorem Intake.launched (draw : Nat → Bytes) (host : Host) (portNumber : Nat) {c : Client SimBoard slots}
    (hforced : c.engine.forced = none) (hshared : c.engine.sharedBuffer = false) (hover : c.socket.overreport = 0)
    (hreset : c.engine.resetError = none) :
    Intake c.socket.incoming (c.launched draw host portNumber).engine.flight .handshaking []
      (c.launched draw host portNumber) := by
  obtain ⟨up, hsocket⟩ := c.launched_socket draw host portNumber
  obtain ⟨phase, session, handshakes, entropy, hengine, hphase⟩ := launched_engine draw host portNumber hreset
  have hunread : (c.launched draw host portNumber).engine.unread = [] := (congrArg SimEngine.unread hengine :)
  have hphase' : (c.launched draw host portNumber).engine.phase = phase := (congrArg SimEngine.phase hengine :)
  have hincoming : (c.launched draw host portNumber).socket.incoming = c.socket.incoming :=
    (congrArg SimSocket.incoming hsocket :)
  refine ⟨.inl rfl, ?_, ?_, ?_, ?_, ?_⟩
  · exact (congrArg SimEngine.forced hengine :).trans hforced
  · exact (congrArg SimEngine.sharedBuffer hengine :).trans hshared
  · exact (congrArg SimSocket.overreport hsocket :).trans hover
  · rw [launched_clean]
  · intro _
    rw [hincoming]
    by_cases hflight : (c.launched draw host portNumber).engine.flight = 0
    · rw [if_pos hflight] at hphase
      refine .settled [] ?_ ?_ ?_
      · intro remaining
        rw [hphase', hphase]
        exact SimPhase.noConfusion
      · rw [hflight]; rfl
      · rw [hunread]; rfl
    · rw [if_neg hflight] at hphase
      exact .waiting [] (hphase'.trans hphase) rfl (Nat.zero_add _) rfl hunread rfl

/-- a connect that succeeds has taken the flight from the socket, and has dropped nothing -/
theorem ReadLog.connect {budget : Nat} {draw : Nat → Bytes} {host : Host} {portNumber : Nat}
    {c c' : Client SimBoard slots} (hforced : c.engine.forced = none) (hshared : c.engine.sharedBuffer = false)
    (hover : c.socket.overreport = 0) (h : c.connect budget draw host portNumber = some (.ok (), c')) :
    ReadLog c.socket.incoming c'.engine.flight c'.socket.stops [] c' := by
  obtain ⟨hreset, c₁, hs, hend, rfl⟩ := (connect_spec h).of_ok
  rw [reset_prepared_iff] at hreset
  have hin := hs.intake (Intake.launched draw host portNumber hforced hshared hover hreset)
  obtain ⟨phase, outgoing, recvWindow, plainWindow, unread, session, handovers, plaintext, flushes, handshakes, hsetup⟩ :=
    hs.setup.eq
  have hflight : c₁.engine.flight = (c.launched draw host portNumber).engine.flight :=
    (congrArg SimEngine.flight hsetup :)
  have happ := (hend.app hin.natural).1
  have hlife := congrArg (fun c : Client SimBoard slots => c.lifecycle) (c.launched_clean draw host portNumber)
  rw [← hflight] at hin
  cases hend with
  | reached hlife₁ habort hopen hsend hpending hreached =>
    rw [keepSession_eq]
    refine ⟨⟨Nat.le_refl _, .inl rfl⟩, .inr rfl, hin.natural, hin.unshared, hin.honest, hin.discards, ?_⟩
    intro _
    have hstage : c₁.lifecycle.stage = .handshaking := by
      rw [hlife₁, hlife]
    cases hin.stream hstage with
    | waiting hand hphase => rw [happ] at hphase; exact SimPhase.noConfusion hphase
    | settled hand hphase hlength harrived => exact .settled hand hphase hlength harrived

/-- **The stream of reads keeps its bytes and their order.** After a connect that succeeds on an engine with separate
buffers, in every history that leaves the reads of the connection alone, as long as the socket was not stopped: the
bytes that waited when the connect began, and all that was sent since, are the flight that the engine asked for, then
what the reads have returned, then what is unread, then what still waits. No unread plaintext is ever dropped for the
sake of a write. -/
theorem read_stream {budget budget' : Nat} {draw : Nat → Bytes} {host : Host} {portNumber : Nat}
    {c₀ c₁ c : Client SimBoard slots} {events : List Event} {log : List Exchange}
    (hforced : c₀.engine.forced = none) (hshared : c₀.engine.sharedBuffer = false) (hover : c₀.socket.overreport = 0)
    (hconnect : c₀.connect budget draw host portNumber = some (.ok (), c₁))
    (hevents : ∀ event ∈ events, event.keepsReads) (hrun : c₁.undergo budget' events = some (log, c)) :
    c.stats.discards = 0 ∧
      (c.socket.stops = c₁.socket.stops →
        ∃ flight, flight.length = c₁.engine.flight ∧
          c₀.socket.incoming ++ pushed events = flight ++ returned log ++ c.engine.unread ++ c.socket.incoming) := by
  have hlog₁ := ReadLog.connect hforced hshared hover hconnect
  have hlog : ReadLog (c₀.socket.incoming ++ pushed ([] ++ events)) c₁.engine.flight c₁.socket.stops ([] ++ log) c := by
    refine undergo_invariant (P := Event.keepsReads)
      (I := fun past => ReadLog (c₀.socket.incoming ++ pushed past) c₁.engine.flight c₁.socket.stops)
      ?_ ?_ hevents [] [] ?_ hrun
    · intro budget past done c c' r reply hevent h hperform
      have hnone : pushed (past ++ [.request r]) = pushed past := by
        rw [pushed_snoc]
        exact List.append_nil _
      rw [hnone]
      exact h.request hevent hperform
    · intro past done c event hevent h
      rw [pushed_snoc, ← List.append_assoc]
      exact h.disturb hevent
    · rw [show pushed [] = [] from rfl, List.append_nil]
      exact hlog₁
  rw [List.nil_append, List.nil_append] at hlog
  refine ⟨hlog.intake.discards, ?_⟩
  intro hstops
  have hstage : c.lifecycle.stage = .connected := by
    rcases hlog.standing.stage with hstage | hlt
    · exact hstage
    · omega
  exact (hlog.intake.stream hstage).connected.2

/-- reads and a write between records that come in two pieces -/
theorem read_stream_in_pieces :
    newcomer.engine.forced = none ∧ newcomer.engine.sharedBuffer = false ∧ newcomer.socket.overreport = 0 ∧
      ∃ c₁ c log,
        newcomer.connect 50 (fun _ => []) (.name "a") 443 = some (.ok (), c₁) ∧
        c₁.undergo 50 [.socket (.push [1, 2, 3, 4, 5, 6]), .socket (.availableChunk (some 3)), .request (.read 2),
          .request (.write [7]), .socket (.push [8]), .request (.blockingRead 10), .request .readReady] = some (log, c) ∧
        returned log = [1, 2, 3] ∧ c.socket.stops = c₁.socket.stops ∧ c.stats.discards = 0 ∧
        ∃ flight, flight.length = c₁.engine.flight ∧
          [9] ++ [1, 2, 3, 4, 5, 6, 8] = flight ++ [1, 2, 3] ++ c.engine.unread ++ c.socket.incoming := by
  have hplayed :
      ((newcomer.connect 50 (fun _ => []) (.name "a") 443).bind fun r =>
        (r.2.undergo 50 [.socket (.push [1, 2, 3, 4, 5, 6]), .socket (.availableChunk (some 3)), .request (.read 2),
          .request (.write [7]), .socket (.push [8]), .request (.blockingRead 10), .request .readReady]).map fun s =>
            (r.1.isOk, returned s.1, decide (s.2.socket.stops = r.2.socket.stops))) = some (true, [1, 2, 3], true) := by
    decide +kernel
  obtain ⟨⟨r, c₁⟩, hconnect, hrest⟩ := Option.bind_eq_some_iff.1 hplayed
  obtain ⟨⟨log, c⟩, hrun, heq⟩ := Option.map_eq_some_iff.1 hrest
  obtain ⟨hok, hreturned, hstops⟩ : r.isOk = true ∧ returned log = [1, 2, 3] ∧ c.socket.stops = c₁.socket.stops := by
    simpa using heq
  cases r with
  | error e => simp [Except.isOk, Except.toBool] at hok
  | ok u =>
    obtain ⟨hdiscards, hstream⟩ := read_stream rfl rfl rfl hconnect (by simp [Event.keepsReads]) hrun
    rw [hreturned] at hstream
    exact ⟨rfl, rfl, rfl, c₁, c, log, hconnect, hrun, hreturned, hstops, hdiscards, hstream hstops⟩

end Client

end TlsClient

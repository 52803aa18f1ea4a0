/-
The states that a client on a simulated board reaches.

Requests and changes from outside come in any order. Which changes are permitted may depend on the state that they are
made in.
- `Reaches`: the states reached in that way;
- `Coherent`: what a lifecycle says about the session and the backlog;
- `Reaches.coherent`: it says so in every state reached from a coherent one.
-/
import TlsClient.Proofs.Histories

namespace TlsClient.Client

variable {slots : Nat}

/-- the states reached by requests, and by changes from outside that are permitted where they are made -/
inductive Reaches (permitted : Client SimBoard slots → Event → Prop) (c₀ : Client SimBoard slots) :
    Client SimBoard slots → Prop
  | start : Reaches permitted c₀ c₀
  | request {budget c c' r reply} (h : Reaches permitted c₀ c) (hperform : c.perform budget r = some (reply, c')) :
      Reaches permitted c₀ c'
  | outside {c event} (h : Reaches permitted c₀ c) (hevent : permitted c event) : Reaches permitted c₀ (c.disturb event)

/-- a history of permitted events reaches a state -/
theorem Reaches.of_undergo {permitted : Client SimBoard slots → Event → Prop} {c₀ c : Client SimBoard slots}
    {budget : Nat} {events : List Event} {log : List Exchange} (hevents : ∀ event ∈ events, ∀ c, permitted c event)
    (hrun : c₀.undergo budget events = some (log, c)) : Reaches permitted c₀ c := by
  refine undergo_invariant (P := fun event => ∀ c, permitted c event) (I := fun _ _ c => Reaches permitted c₀ c)
    ?_ ?_ hevents [] [] .start hrun
  · intro budget past done c c' r reply _ h hperform
    exact h.request hperform
  · intro past done c event hevent h
    exact h.outside (hevent c)

/-- a session is connected or closing, and only a session with nothing on record has plaintext stored -/
structure Coherent (c : Client SimBoard slots) : Prop where
  stage : c.lifecycle.engineConnected = true → c.lifecycle.stage = .connected ∨ c.lifecycle.stage = .closing
  stored : 0 < c.pending → c.status = .ok ∧ c.lifecycle.engineConnected = true

theorem Coherent.new (board : SimBoard) (config : Config) : Coherent (new board config : Client SimBoard slots) :=
  ⟨nofun, nofun⟩

theorem Coherent.of_empty {c c' : Client SimBoard slots} (h : Coherent c) (hstage : c'.lifecycle.stage = c.lifecycle.stage)
    (hup : c'.lifecycle.engineConnected = c.lifecycle.engineConnected) (hpending : c'.pending = 0) : Coherent c' := by
  refine ⟨?_, ?_⟩
  · rw [hstage, hup]
    exact h.stage
  · rw [hpending]
    exact nofun

theorem Coherent.of_lifecycle {c c' : Client SimBoard slots} (h : Coherent c) (hlife : c'.lifecycle = c.lifecycle)
    (hbacklog : c'.backlog = c.backlog) : Coherent c' := by
  refine ⟨?_, ?_⟩
  · rw [hlife]
    exact h.stage
  · rw [pending, hbacklog, status, hlife]
    exact h.stored

theorem Coherent.of_down {c : Client SimBoard slots} (hdown : c.lifecycle.engineConnected = false)
    (hpending : c.pending = 0) : Coherent c := by
  refine ⟨?_, ?_⟩
  · rw [hdown]
    exact nofun
  · rw [hpending]
    exact nofun

theorem Coherent.fail (c : Client SimBoard slots) (s : Status) : Coherent (c.fail s) := by
  rw [fail_eq]
  exact .of_down rfl rfl

/-- every step keeps a client coherent -/
theorem Coherent.move {c c' : Client SimBoard slots} {f : Flow} (h : Coherent c) (hmove : Move c f c') :
    Coherent c' := by
  cases hmove with
  | failed => exact .fail _ _
  | down =>
    rw [teardown_eq]
    exact .of_down rfl rfl
  | store hok hup => exact ⟨h.stage, fun _ => ⟨hok, hup⟩⟩
  | closing => exact ⟨fun _ => .inr rfl, h.stored⟩
  | handed | fill | full | discard => exact h.of_empty rfl rfl rfl
  | _ => exact ⟨h.stage, h.stored⟩

theorem Steps.coherent {c c' : Client SimBoard slots} {f : Flow} (h : Coherent c) (hs : Steps c f c') : Coherent c' :=
  hs.invariant (I := fun _ c' => Coherent c') (fun h hstep => h.move hstep.move) h

/-- a connect leaves a coherent client, whatever it comes to -/
theorem Connects.coherent {draw : Nat → Bytes} {host : Host} {portNumber : Nat} {c c' : Client SimBoard slots}
    {r : Except Error Unit} (h : Coherent c) (hconnects : Connects draw host portNumber c r c') : Coherent c' := by
  cases hconnects with
  | busy => exact ⟨h.stage, h.stored⟩
  | refused => exact h.of_empty rfl rfl rfl
  | unstarted => exact .fail _ _
  | @waited waited c₁ _ _ _ hs =>
    have hlaunched : Coherent (c.launched draw host portNumber) := by
      rw [launched_clean]
      exact .of_down rfl rfl
    have hwaited : Coherent c₁ := hs.coherent hlaunched
    cases waited with
    | ok u =>
      rw [concludeHandshake, keepSession_eq]
      exact ⟨fun _ => .inl rfl, fun hpos => ⟨(hwaited.stored hpos).1, rfl⟩⟩
    | error e =>
      simp only [concludeHandshake]
      split_ifs
      · exact .fail _ _
      · exact hwaited

theorem perform_coherent {budget : Nat} {c c' : Client SimBoard slots} {r : Request} {reply : Reply} (h : Coherent c)
    (hperform : c.perform budget r = some (reply, c')) : Coherent c' := by
  rcases perform_cases hperform with ⟨_, _, _, _, -, -, hconnects⟩ | ⟨-, _, hs, -⟩
  · exact hconnects.coherent h
  · exact hs.coherent h

/-- a change from outside does not touch lifecycle and backlog -/
theorem disturb_lifecycle (c : Client SimBoard slots) (event : Event) :
    (c.disturb event).lifecycle = c.lifecycle ∧ (c.disturb event).backlog = c.backlog := by
  cases event <;> exact ⟨rfl, rfl⟩

/-- **Every state a client reaches is coherent.** -/
theorem Reaches.coherent {permitted : Client SimBoard slots → Event → Prop} {c₀ c : Client SimBoard slots}
    (h₀ : Coherent c₀) (h : Reaches permitted c₀ c) : Coherent c := by
  induction h with
  | start => exact h₀
  | request _ hperform ih => exact perform_coherent ih hperform
  | @outside c event _ _ ih =>
    obtain ⟨hlife, hbacklog⟩ := disturb_lifecycle c event
    exact ih.of_lifecycle hlife hbacklog

end TlsClient.Client

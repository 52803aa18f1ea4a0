/-
What a handshake resumes.

A connect looks its host up in the sessions of the client and offers the parameters it finds to the engine; the next
reset of the engine resumes what was offered. The offer is a piece of state of the engine, and only a reset that succeeds
uses it up. A reset that fails strands it there, and a later connect that finds nothing of its own does not take it back.
- `Connects.resumption`: what one connect does to the offer, and what it resumes;
- `stranded`: along a history, the parameters that resets which failed have left on offer;
- `resumed_iff`: a handshake resumes the session of its host and nothing else, exactly if it finds one or nothing is
  stranded;
- `resumed_of_steady`: nothing is ever stranded as long as no reset fails;
- `resumed_across_hosts`: a history in which a session crosses from one host to another.
-/
import TlsClient.Proofs.Histories

namespace TlsClient

/-- an event that lets no reset fail -/
def Event.keepsResets : Event → Prop
  | .engine (.resetError (some _)) => False
  | _ => True

namespace Client

variable {slots : Nat}

/-! ## One connect -/

/-- the parameters remembered for a host; a raw address has none -/
def remembered (c : Client SimBoard slots) (host : Host) : Option SessionParameters :=
  (c.sessions.find? host.name?).map Session.parameters

/-- would a connect get as far as the engine? -/
def reaches (c : Client SimBoard slots) : Bool := !c.socket.isConnected && c.socket.acceptsConnect

/-- would the engine start a handshake? -/
def starts (c : Client SimBoard slots) : Bool := c.reaches && c.engine.resetError.isNone

/-- what a connect leaves on offer, if `offered` was on offer before -/
def offerAfter (c : Client SimBoard slots) (host : Host) (offered : Option SessionParameters) :
    Option SessionParameters :=
  if c.starts then none else if c.reaches then (c.remembered host).or offered else offered

theorem remembered_ip (c : Client SimBoard slots) (address : IpAddress) : c.remembered (.ip address) = none := rfl

/-- a connect gets as far as the engine if the socket is down and then opens -/
theorem reaches_iff (host : Host) (portNumber : Nat) (c : Client SimBoard slots) :
    c.reaches = true ↔
      (Transport.connected c.board).1 = false ∧ (Transport.connect host portNumber c.polled.board).1 = .ok () := by
  rw [dial_ok_iff, reaches, Bool.and_eq_true, Bool.not_eq_true']
  rfl

/-- what one connect does to the offer, what the engine resumes from then on, and whether it was reset at all -/
theorem Connects.resumption {draw : Nat → Bytes} {host : Host} {portNumber : Nat} {c c' : Client SimBoard slots}
    {r : Except Error Unit} (h : Connects draw host portNumber c r c') :
    c'.engine.offered = c.offerAfter host c.engine.offered ∧
      c'.engine.resumedWith = (if c.starts then (c.remembered host).or c.engine.offered else c.engine.resumedWith) ∧
      c'.engine.resets = (if c.reaches then c.engine.resets ++ [host.name?] else c.engine.resets) ∧
      c'.engine.resetError = c.engine.resetError := by
  simp only [offerAfter]
  cases h with
  | busy hup =>
    have hreaches : c.reaches = false := by
      rw [Bool.eq_false_iff, ne_eq, reaches_iff host portNumber]
      rintro ⟨hdown, -⟩
      rw [hup] at hdown
      exact absurd hdown (by decide)
    have hstarts : c.starts = false := by simp [starts, hreaches]
    rw [hstarts, hreaches]
    exact ⟨rfl, rfl, rfl, rfl⟩
  | refused hdown hdial =>
    have hreaches : c.reaches = false := by
      rw [Bool.eq_false_iff, ne_eq, reaches_iff host portNumber]
      rintro ⟨-, hopens⟩
      rw [hdial] at hopens
      cases hopens
    have hstarts : c.starts = false := by simp [starts, hreaches]
    rw [hstarts, hreaches]
    exact ⟨rfl, rfl, rfl, rfl⟩
  | @unstarted e hdown hdial hreset =>
    have hreaches : c.reaches = true := (reaches_iff host portNumber c).2 ⟨hdown, hdial⟩
    cases hcode : c.engine.resetError with
    | none =>
      rw [(reset_prepared_iff draw host portNumber c).2 hcode] at hreset
      cases hreset
    | some code =>
      have hstarts : c.starts = false := by simp [starts, hcode]
      obtain ⟨entropy, hengine⟩ := launched_engine_of_error draw host portNumber hcode
      have hafter : ((c.launched draw host portNumber).fail .engineConnect).engine =
          (c.launched draw host portNumber).engine.drained (c.launched draw host portNumber).engine.state := by
        rw [fail_eq]
      obtain ⟨unread, hdrained⟩ := (c.launched draw host portNumber).engine.drained_frame
        (c.launched draw host portNumber).engine.state
      rw [hstarts, hreaches, hafter, hdrained, hengine]
      exact ⟨rfl, rfl, rfl, hcode⟩
  | @waited waited c₁ hdown hdial hreset hs hend =>
    have hreaches : c.reaches = true := (reaches_iff host portNumber c).2 ⟨hdown, hdial⟩
    rw [reset_prepared_iff] at hreset
    have hstarts : c.starts = true := by simp [starts, hreaches, hreset]
    obtain ⟨phase, session, handshakes, entropy, hengine, -⟩ := launched_engine draw host portNumber hreset
    obtain ⟨_, _, _, _, _, _, _, _, _, _, hsetup⟩ := (hs.setup.trans (concludeHandshake_setup host.name? waited c₁)).eq
    rw [hstarts, hreaches, hsetup, hengine]
    exact ⟨rfl, rfl, rfl, rfl⟩

/-! ## Histories -/

/-- what a request leaves on offer, if `offered` was on offer before; only a connect makes an offer or uses one up -/
def offerAfterRequest (c : Client SimBoard slots) (offered : Option SessionParameters) :
    Request → Option SessionParameters
  | .connect host _ _ => c.offerAfter host offered
  | _ => offered

/-- what a history leaves on offer, if `offered` was on offer before: the parameters of the last connect that found some
and whose reset failed, unless a reset has succeeded since -/
def stranded (budget : Nat) (c : Client SimBoard slots) (offered : Option SessionParameters) :
    List Event → Option SessionParameters
  | [] => offered
  | .request r :: rest =>
    match c.perform budget r with
    | none => offered
    | some (_, c') => c'.stranded budget (c.offerAfterRequest offered r) rest
  | event :: rest => (c.disturb event).stranded budget offered rest

theorem perform_offer {budget : Nat} {c c' : Client SimBoard slots} {r : Request} {reply : Reply}
    (h : c.perform budget r = some (reply, c')) :
    c'.engine.offered = c.offerAfterRequest c.engine.offered r ∧ c'.engine.resetError = c.engine.resetError := by
  rcases perform_cases h with ⟨host, portNumber, draw, answer, rfl, rfl, hconnects⟩ | ⟨hopens, flow, hs, -⟩
  · obtain ⟨hoffered, -, -, hcode⟩ := hconnects.resumption
    exact ⟨hoffered, hcode⟩
  · obtain ⟨_, _, _, _, _, _, _, _, _, _, hsetup⟩ := hs.setup.eq
    rw [hsetup]
    cases r with
    | connect => simp [Request.opens] at hopens
    | _ => exact ⟨rfl, rfl⟩

theorem offered_disturb (c : Client SimBoard slots) (event : Event) :
    (c.disturb event).engine.offered = c.engine.offered := by
  cases event with
  | engine edit => cases edit <;> rfl
  | _ => rfl

theorem offered_undergo {budget : Nat} {c c' : Client SimBoard slots} {events : List Event} {log : List Exchange}
    (h : c.undergo budget events = some (log, c')) : c'.engine.offered = c.stranded budget c.engine.offered events := by
  induction events generalizing c log with
  | nil =>
    cases h
    rfl
  | cons event rest ih =>
    cases event with
    | request r =>
      simp only [undergo] at h
      cases hperform : c.perform budget r with
      | none => simp [hperform] at h
      | some answer =>
        obtain ⟨reply, c₁⟩ := answer
        rw [hperform] at h
        obtain ⟨⟨log₁, c₂⟩, hrun, heq⟩ := Option.map_eq_some_iff.1 h
        cases heq
        simp only [stranded, hperform]
        rw [ih hrun, (perform_offer hperform).1]
    | _ =>
      rw [← offered_disturb c]
      exact ih h

/-- **A handshake resumes the session of its own host and no other, exactly if it finds one or nothing is stranded.**
This is said of every connect, after every history of a client that starts without an offer, whose reset succeeds. -/
theorem resumed_iff {budget budget' : Nat} {draw : Nat → Bytes} {host : Host} {portNumber : Nat}
    {c₀ c c' : Client SimBoard slots} {events : List Event} {log : List Exchange} {r : Except Error Unit}
    (hfresh : c₀.engine.offered = none) (hrun : c₀.undergo budget events = some (log, c)) (hstarts : c.starts = true)
    (hconnect : c.connect budget' draw host portNumber = some (r, c')) :
    c'.engine.resumedWith = (c.remembered host).or (c₀.stranded budget none events) ∧
      (c'.engine.resumedWith = c.remembered host ↔
        (c.remembered host).isSome = true ∨ c₀.stranded budget none events = none) := by
  have hresumed := (connect_spec hconnect).resumption.2.1
  rw [if_pos hstarts, offered_undergo hrun, hfresh] at hresumed
  rw [hresumed]
  refine ⟨rfl, ?_⟩
  cases c.remembered host with
  | some p => simp
  | none => simp

/-- a raw address, of which nothing can be remembered, is resumed with what a failed reset has left on offer -/
theorem resumed_iff_raw_address :
    newcomer.engine.offered = none ∧
      ∃ c c' log r,
        newcomer.undergo 50 [.request (.connect (.name "a") 443 fun _ => []), .request .stop,
          .engine (.resetError (some ⟨7⟩)), .request (.connect (.name "a") 443 fun _ => []),
          .engine (.resetError none), .socket (.push [9])] = some (log, c) ∧
        c.starts = true ∧ c.connect 50 (fun _ => []) (.ip (.v4 10 0 0 1)) 443 = some (r, c') ∧
        c'.engine.resumedWith = some sampleParameters ∧ c'.engine.resumedWith ≠ c.remembered (.ip (.v4 10 0 0 1)) := by
  have hplayed :
      ((newcomer.undergo 50 [.request (.connect (.name "a") 443 fun _ => []), .request .stop,
        .engine (.resetError (some ⟨7⟩)), .request (.connect (.name "a") 443 fun _ => []),
        .engine (.resetError none), .socket (.push [9])]).bind fun s =>
          (s.2.connect 50 (fun _ => []) (.ip (.v4 10 0 0 1)) 443).map fun _ => s.2.starts) = some true := by
    decide +kernel
  have hstranded :
      newcomer.stranded 50 none [.request (.connect (.name "a") 443 fun _ => []), .request .stop,
        .engine (.resetError (some ⟨7⟩)), .request (.connect (.name "a") 443 fun _ => []),
        .engine (.resetError none), .socket (.push [9])] = some sampleParameters := by
    decide +kernel
  obtain ⟨⟨log, c⟩, hrun, hrest⟩ := Option.bind_eq_some_iff.1 hplayed
  obtain ⟨⟨r, c'⟩, hconnect, hstarts⟩ := Option.map_eq_some_iff.1 hrest
  obtain ⟨hresumed, hiff⟩ := resumed_iff rfl hrun hstarts hconnect
  rw [hstranded, remembered_ip] at hresumed hiff
  refine ⟨rfl, c, c', log, r, hrun, hstarts, hconnect, hresumed, ?_⟩
  intro hsame
  rcases hiff.1 hsame with hfound | hnone
  · cases hfound
  · cases hnone

/-- **A session crosses from one host to another.** A connect to the first host leaves a session; a second connect to it
fails at the reset; the next connect, to a host of which nothing is remembered, resumes the session of the first. -/
theorem resumed_across_hosts :
    ∃ c c' log r,
      newcomer.undergo 50 [.request (.connect (.name "a") 443 fun _ => []), .request .stop,
        .engine (.resetError (some ⟨7⟩)), .request (.connect (.name "a") 443 fun _ => []),
        .engine (.resetError none), .socket (.push [9])] = some (log, c) ∧
      c.starts = true ∧ c.connect 50 (fun _ => []) (.name "b") 443 = some (r, c') ∧
      c.remembered (.name "a") = some sampleParameters ∧ c.remembered (.name "b") = none ∧
      c'.engine.resumedWith = some sampleParameters := by
  have hplayed :
      ((newcomer.undergo 50 [.request (.connect (.name "a") 443 fun _ => []), .request .stop,
        .engine (.resetError (some ⟨7⟩)), .request (.connect (.name "a") 443 fun _ => []),
        .engine (.resetError none), .socket (.push [9])]).bind fun s =>
          (s.2.connect 50 (fun _ => []) (.name "b") 443).map fun a =>
            (s.2.starts, s.2.remembered (.name "a"), s.2.remembered (.name "b"), a.2.engine.resumedWith)) =
        some (true, some sampleParameters, none, some sampleParameters) := by
    decide +kernel
  obtain ⟨⟨log, c⟩, hrun, hrest⟩ := Option.bind_eq_some_iff.1 hplayed
  obtain ⟨⟨r, c'⟩, hconnect, heq⟩ := Option.map_eq_some_iff.1 hrest
  simp only [Prod.mk.injEq] at heq
  exact ⟨c, c', log, r, hrun, heq.1, hconnect, heq.2.1, heq.2.2.1, heq.2.2.2⟩

/-! ## While no reset fails -/

theorem offered_none_of_steady {budget : Nat} {c c' : Client SimBoard slots} {events : List Event} {log : List Exchange}
    (hcode : c.engine.resetError = none) (hfresh : c.engine.offered = none)
    (hevents : ∀ event ∈ events, event.keepsResets)
    (hrun : c.undergo budget events = some (log, c')) : c'.engine.resetError = none ∧ c'.engine.offered = none := by
  refine undergo_invariant (P := Event.keepsResets)
    (I := fun _ _ c => c.engine.resetError = none ∧ c.engine.offered = none) ?_ ?_ hevents [] [] ⟨hcode, hfresh⟩ hrun
  · rintro budget past done c c' r reply - ⟨hcode, hnone⟩ hperform
    obtain ⟨hoffered, hcode'⟩ := perform_offer hperform
    refine ⟨hcode'.trans hcode, hoffered.trans ?_⟩
    cases r with
    | connect host portNumber draw =>
      simp only [offerAfterRequest, offerAfter, starts, hcode, hnone]
      cases c.reaches <;> rfl
    | _ => exact hnone
  · rintro past done c event hevent ⟨hcode, hnone⟩
    refine ⟨?_, (offered_disturb c event).trans hnone⟩
    cases event with
    | engine edit =>
      cases edit with
      | resetError code =>
        cases code with
        | none => rfl
        | some code => exact absurd hevent id
      | _ => exact hcode
    | _ => exact hcode

/-- **Sessions keep to their hosts while no reset fails.** -/
theorem resumed_of_steady {budget budget' : Nat} {draw : Nat → Bytes} {host : Host} {portNumber : Nat}
    {c₀ c c' : Client SimBoard slots} {events : List Event} {log : List Exchange} {r : Except Error Unit}
    (hcode : c₀.engine.resetError = none) (hfresh : c₀.engine.offered = none)
    (hevents : ∀ event ∈ events, event.keepsResets) (hrun : c₀.undergo budget events = some (log, c))
    (hreaches : c.reaches = true) (hconnect : c.connect budget' draw host portNumber = some (r, c')) :
    c'.engine.resumedWith = c.remembered host := by
  obtain ⟨hcode', hnone⟩ := offered_none_of_steady hcode hfresh hevents hrun
  have hstarts : c.starts = true := by simp [starts, hreaches, hcode']
  have hresumed := (connect_spec hconnect).resumption.2.1
  rw [if_pos hstarts, hnone, Option.or_none] at hresumed
  exact hresumed

end Client

end TlsClient

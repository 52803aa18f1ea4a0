/-
Requests under way.

A request that does not come back gives no reply and leaves no client. What it does until then shows in the clients that
its loops pass, one turn after another.
- `Passes`: the states that a loop passes;
- `Pumping`, `Waiting`, `Writing`: the clients that the three loops of a client pass, each with those of the loops
  inside its turns;
- `Underway`: the clients that a request passes, whether or not it comes back;
- `underway_of_none`: one that runs out of its budget is among them;
- `Underway.steps`: steps lead to all of them, so whatever every step keeps holds there too;
- `Alike.underway`: two boards that a client cannot tell apart pass clients that are alike.
-/
import TlsClient.Proofs.Likeness

namespace TlsClient

/-! ## Loops -/

/-- the states that a loop passes, one turn after another -/
inductive Passes {σ α : Type} (turn : σ → Option (Turn σ α)) : σ → σ → Prop
  | here {s} : Passes turn s s
  | on {s s₁ s₂} (h : turn s = some (.again s₁)) (hon : Passes turn s₁ s₂) : Passes turn s s₂

/-- what every turn that goes on keeps holds wherever the loop passes -/
theorem Passes.keeps {σ α : Type} {turn : σ → Option (Turn σ α)} {I : σ → Prop} {s s' : σ} (h : Passes turn s s')
    (hturn : ∀ s s', I s → turn s = some (.again s') → I s') (hs : I s) : I s' := by
  induction h with
  | here => exact hs
  | on hagain _ ih => exact ih (hturn _ _ hs hagain)

/-- what a loop passes is related to what a loop with related turns passes -/
theorem Passes.rel {σ τ α ω : Type} {P : σ → τ → Prop} {Q : α → ω → Prop} {turn : σ → Option (Turn σ α)}
    {turn' : τ → Option (Turn τ ω)} (hturn : ∀ s t, P s t → Option.Rel (Turn.Rel P Q) (turn s) (turn' t)) {s s' : σ}
    {t : τ} (hpasses : Passes turn s s') (h : P s t) : ∃ t', Passes turn' t t' ∧ P s' t' := by
  induction hpasses generalizing t with
  | here => exact ⟨t, .here, h⟩
  | on hagain _ ih =>
    have hrel := hturn _ t h
    rw [hagain] at hrel
    obtain ⟨next, hnext, hrel⟩ := rel_some hrel
    cases hrel with
    | again h₁ =>
      obtain ⟨t', hpasses', h'⟩ := ih h₁
      exact ⟨t', .on hnext hpasses', h'⟩

namespace Client

theorem Result.none_of_andThen {β α γ : Type} {slots : Nat} {r : Result β slots α}
    {next : α → Client β slots → Result β slots γ} (hnext : ∀ a c, next a c ≠ none) (h : r.andThen next = none) :
    r = none := by
  rcases r with _ | ⟨e | a, c₁⟩
  · rfl
  · cases h
  · exact absurd h (hnext a c₁)

section AnyBoard

variable {β : Type} [Board β] {slots : Nat}

/-- the clients that a run of the pump passes -/
def Pumping (c c' : Client β slots) : Prop := Passes (fun c => some c.pumpTurn) c c'

/-- the clients that a wait passes, between its turns and in the runs of the pump -/
def Waiting (budget : Nat) (target : EngineState) (c c' : Client β slots) : Prop :=
  ∃ c₁, Passes (driveTurn budget target (Timer.now c.board).1) c.clocked c₁ ∧ c₁.Pumping c'

/-- the clients that a write passes, between its turns and in its waits -/
inductive Writing (budget : Nat) (data : Bytes) (c : Client β slots) : Client β slots → Prop
  | turn {rest c'} (h : Passes (writeTurn budget) (data, c) (rest, c')) : Writing budget data c c'
  | wait {job rest c₁ c'} (h : Passes (writeTurn budget) (data, c) job) (hmove : writeMove job = .wait rest c₁)
      (hwait : c₁.handStored.Waiting budget { sendApp := true } c') : Writing budget data c c'

/-- The clients that a request passes in its loops. What a request asks before it enters a loop has been answered. -/
inductive Underway (budget : Nat) : Client β slots → Request → Client β slots → Prop
  | update {c c'} (hmay : c.lifecycle.mayPump = .ok ()) (h : c.Pumping c') : Underway budget c .update c'
  | available {c c'} (hup : c.lifecycle.softConnected c.flags = .ok ()) (h : c.Pumping c') :
      Underway budget c .available c'
  | peek {c c'} (h : Underway budget c .available c') : Underway budget c .peek c'
  | readReady {c c'} (h : Underway budget c .available c') : Underway budget c .readReady c'
  | read {c c' room} (hroom : room ≠ 0) (h : Underway budget c .available c') : Underway budget c (.read room) c'
  | runUntil {c c' target} (hmay : c.lifecycle.mayPump = .ok ()) (h : c.Waiting budget target c') :
      Underway budget c (.runUntil target) c'
  | flush {c c'} (hpending : c.pending ≠ 0) (h : Underway budget c (.runUntil { recvApp := true }) c') :
      Underway budget c .flush c'
  | blockingRead {c c' room} (hroom : room ≠ 0) (hup : c.lifecycle.softConnected c.flags = .ok ())
      (h : c.Waiting budget { recvApp := true } c') : Underway budget c (.blockingRead room) c'
  | readFirst {c c' length} (h : Underway budget c (.blockingRead length) c') :
      Underway budget c (.readExact length) c'
  | readMore {c c₁ c' length byte more} (hread : c.blockingRead budget length = some (.ok (byte :: more), c₁))
      (h : Underway budget c₁ (.readExact (length - (more.length + 1))) c') : Underway budget c (.readExact length) c'
  | write {c c' data} (hup : c.lifecycle.softConnected c.flags = .ok ()) (h : c.Writing budget data c') :
      Underway budget c (.write data) c'
  | writeAll {c c' data} (hsome : data ≠ []) (h : Underway budget c (.write data) c') :
      Underway budget c (.writeAll data) c'
  | connect {c c' host portNumber draw} (hdown : (Transport.connected c.board).1 = false)
      (hdial : (Transport.connect host portNumber c.polled.board).1 = .ok ())
      (hreset : (Engine.reset host.name?
        ((c.dialled host portNumber).prepared (draw entropyLength) host.name?).board).1 = .ok ())
      (h : (c.launched draw host portNumber).Waiting budget { sendApp := true } c') :
      Underway budget c (.connect host portNumber draw) c'
  | stop {c c'} (hopen : (c.lifecycle.engineConnected && !c.flags.closed && !c.flags.isInvalid) = true)
      (hup : (Transport.connected c.board).1 = true)
      (h : Underway budget ({ c.polled with lifecycle := c.lifecycle.closing }.dropUnread c.flags) .flush c') :
      Underway budget c .stop c'

variable {budget : Nat} {c c' : Client β slots}

/-! ## Requests that do not come back -/

theorem Waiting.begins (target : EngineState) : c.Waiting budget target c.clocked := ⟨_, .here, .here⟩

theorem underway_of_update (h : c.update budget = none) : c.Underway budget .update c := by
  cases hguard : c.lifecycle.mayPump with
  | error e => simp [update, hguard] at h
  | ok u => exact .update hguard .here

theorem underway_of_runUntil {target : EngineState} (h : c.runUntil budget target = none) :
    c.Underway budget (.runUntil target) c.clocked := by
  cases hguard : c.lifecycle.mayPump with
  | error e => simp [runUntil, hguard] at h
  | ok u => exact .runUntil hguard (.begins target)

theorem underway_of_available (h : c.available budget = none) : c.Underway budget .available c := by
  cases hguard : c.lifecycle.softConnected (Engine.state c.board) with
  | error e => simp [available, hguard] at h
  | ok u => exact .available hguard .here

theorem underway_of_read {room : Nat} (h : c.read budget room = none) : c.Underway budget (.read room) c := by
  simp only [read] at h
  split_ifs at h with hroom
  have hcount : c.available budget = none := by
    refine Result.none_of_andThen ?_ h
    intro count c₁ hnone
    split_ifs at hnone
  exact .read hroom (underway_of_available hcount)

theorem underway_of_peek (h : c.peek budget = none) : c.Underway budget .peek c := by
  have hcount : c.available budget = none := by
    refine Result.none_of_andThen ?_ h
    intro count c₁ hnone
    cases hnone
  exact .peek (underway_of_available hcount)

theorem underway_of_readReady (h : c.readReady budget = none) : c.Underway budget .readReady c :=
  .readReady (underway_of_available (Option.map_eq_none_iff.1 h))

theorem underway_of_flush (h : c.flush budget = none) : c.Underway budget .flush c.clocked := by
  cases hguard : c.lifecycle.mayPump with
  | error e => simp [flush, hguard] at h
  | ok u =>
    have hpending : c.pending ≠ 0 := by
      intro hidle
      have hidle : c.backlog.pending = 0 := hidle
      simp [flush, hguard, hidle] at h
    exact .flush hpending (.runUntil hguard (.begins _))

theorem underway_of_blockingRead {room : Nat} (h : c.blockingRead budget room = none) :
    c.Underway budget (.blockingRead room) c.clocked := by
  have hroom : room ≠ 0 := by
    rintro rfl
    simp [blockingRead] at h
  cases hguard : c.lifecycle.softConnected (Engine.state c.board) with
  | error e => cases e <;> simp [blockingRead, hroom, hguard] at h
  | ok u => exact .blockingRead hroom hguard (.begins _)

theorem underway_of_readExact {length : Nat} (h : c.readExact budget length = none) :
    ∃ c', c.Underway budget (.readExact length) c' := by
  fun_induction readExact budget length c with
  | case1 => cases h
  | case2 length c hsome hread => exact ⟨_, .readFirst (underway_of_blockingRead hread)⟩
  | case3 => cases h
  | case4 => cases h
  | case5 length c hsome byte more c₁ hread ih =>
    obtain ⟨c', hon⟩ := ih (Option.map_eq_none_iff.1 h)
    exact ⟨c', .readMore hread hon⟩

theorem underway_of_write {data : Bytes} (h : c.write budget data = none) : c.Underway budget (.write data) c := by
  cases hguard : c.lifecycle.softConnected (Engine.state c.board) with
  | error e => simp [write, hguard] at h
  | ok u => exact .write hguard (.turn .here)

theorem underway_of_writeAll {data : Bytes} (h : c.writeAll budget data = none) :
    c.Underway budget (.writeAll data) c := by
  simp only [writeAll] at h
  split_ifs at h with hempty
  exact .writeAll (by simpa using hempty) (underway_of_write (Option.map_eq_none_iff.1 h))

theorem underway_of_connect {host : Host} {portNumber : Nat} {draw : Nat → Bytes}
    (h : c.connect budget draw host portNumber = none) :
    c.Underway budget (.connect host portNumber draw) (c.launched draw host portNumber).clocked := by
  rw [connect_eq] at h
  split_ifs at h with hup
  rw [Bool.not_eq_true] at hup
  cases hdial : (Transport.connect host portNumber c.polled.board).1 with
  | error e => simp [hdial] at h
  | ok u =>
    cases hreset : (Engine.reset host.name?
        ((c.dialled host portNumber).prepared (draw entropyLength) host.name?).board).1 with
    | error e => simp [hdial, hreset] at h
    | ok u => exact .connect hup hdial hreset (.begins _)

theorem underway_of_stop (h : c.stop budget = none) : ∃ c', c.Underway budget .stop c' := by
  simp only [stop] at h
  split_ifs at h with hopen hup
  exact ⟨_, .stop hopen hup (underway_of_flush (Option.map_eq_none_iff.1 (Option.map_eq_none_iff.1 h)))⟩

/-- **A request that does not come back is in one of its loops**, past all that it asks before. -/
theorem underway_of_none {request : Request} (h : c.perform budget request = none) :
    ∃ c', c.Underway budget request c' := by
  cases request with
  | connect host portNumber draw => exact ⟨_, underway_of_connect (Option.map_eq_none_iff.1 h)⟩
  | write data => exact ⟨_, underway_of_write (Option.map_eq_none_iff.1 h)⟩
  | flush => exact ⟨_, underway_of_flush (Option.map_eq_none_iff.1 h)⟩
  | read room => exact ⟨_, underway_of_read (Option.map_eq_none_iff.1 h)⟩
  | peek => exact ⟨_, underway_of_peek (Option.map_eq_none_iff.1 h)⟩
  | available => exact ⟨_, underway_of_available (Option.map_eq_none_iff.1 h)⟩
  | update => exact ⟨_, underway_of_update (Option.map_eq_none_iff.1 h)⟩
  | runUntil target => exact ⟨_, underway_of_runUntil (Option.map_eq_none_iff.1 h)⟩
  | stop => exact underway_of_stop (Option.map_eq_none_iff.1 h)
  | connected => cases h
  | blockingRead room => exact ⟨_, underway_of_blockingRead (Option.map_eq_none_iff.1 h)⟩
  | readExact length => exact underway_of_readExact (Option.map_eq_none_iff.1 h)
  | readReady => exact ⟨_, underway_of_readReady (Option.map_eq_none_iff.1 h)⟩
  | writeAll data => exact ⟨_, underway_of_writeAll (Option.map_eq_none_iff.1 h)⟩

/-! ## Steps on the way -/

variable [Separate β]

theorem Pumping.steps (hok : c.status = .ok) (h : c.Pumping c') : Steps c {} c' := by
  refine (h.keeps (I := fun c' => Steps c {} c' ∧ c'.lifecycle = c.lifecycle) ?_ ⟨.refl, rfl⟩).1
  rintro c₁ c₂ ⟨hs, hlife⟩ hagain
  have hturn := pumpTurn_spec c₁ ((status_of_lifecycle hlife).trans hok)
  rw [Option.some.inj hagain] at hturn
  cases hturn with
  | again hstep => exact ⟨hs.quiet hstep.1, hstep.2.trans hlife⟩

theorem Waiting.steps {target : EngineState} (hok : c.status = .ok) (h : c.Waiting budget target c') :
    Steps c {} c' := by
  obtain ⟨c₁, hturns, hpump⟩ := h
  obtain ⟨hs, hlife⟩ : Steps c {} c₁ ∧ c₁.lifecycle = c.lifecycle := by
    refine hturns.keeps (I := fun c' => Steps c {} c' ∧ c'.lifecycle = c.lifecycle) ?_ ⟨Step.clock.steps, rfl⟩
    rintro c₂ c₃ ⟨hs, hlife⟩ hagain
    cases driveTurn_spec ((status_of_lifecycle hlife).trans hok) hagain with
    | again hturn => exact ⟨hs.trans hturn.1, hturn.2.trans hlife⟩
  exact hs.trans (hpump.steps ((status_of_lifecycle hlife).trans hok))

theorem Writing.steps {data : Bytes} (hguard : c.lifecycle.softConnected c.flags = .ok ())
    (h : c.Writing budget data c') : ∃ flow, Steps c flow c' := by
  obtain ⟨hok, hup, -⟩ := Lifecycle.softConnected_ok hguard
  have hturns : ∀ {job}, Passes (writeTurn budget) (data, c) job →
      (∃ flow, Steps c flow job.2) ∧ job.2.lifecycle = c.lifecycle := by
    intro job hpasses
    refine hpasses.keeps (I := fun job => (∃ flow, Steps c flow job.2) ∧ job.2.lifecycle = c.lifecycle) ?_
      ⟨⟨_, .refl⟩, rfl⟩
    rintro ⟨rest, c₁⟩ job' ⟨⟨flow, hs⟩, hlife⟩ hagain
    cases writeTurn_spec ((status_of_lifecycle hlife).trans hok) (by rw [hlife]; exact hup) hagain with
    | again hturn =>
      obtain ⟨part, -, hs', hlife'⟩ := hturn
      exact ⟨⟨_, hs.trans hs'⟩, hlife'.trans hlife⟩
  cases h with
  | turn hpasses => exact (hturns hpasses).1
  | @wait job left c₁ _ hpasses hmove hwait =>
    obtain ⟨rest, c₀⟩ := job
    obtain ⟨⟨flow, hs⟩, hlife⟩ := hturns hpasses
    have hwrites := writeMove_spec c₀ rest
    rw [hmove] at hwrites
    obtain ⟨part, -, hs₁, hlife₁⟩ :=
      hwrites.wait_steps ((status_of_lifecycle hlife).trans hok) (by rw [hlife]; exact hup)
    have hok₁ : c₁.handStored.status = .ok := (status_of_lifecycle (hlife₁.trans hlife)).trans hok
    exact ⟨_, (hs.trans hs₁).trans (hwait.steps hok₁)⟩

/-- the client from which the steps of a request begin: a connect opens the socket and starts the engine before -/
def outset (c : Client β slots) : Request → Client β slots
  | .connect host portNumber draw => c.launched draw host portNumber
  | _ => c

/-- **Wherever a request passes, steps lead there**, be it that it comes back or not. -/
theorem Underway.steps {request : Request} (h : c.Underway budget request c') :
    ∃ flow, Steps (c.outset request) flow c' := by
  induction h with
  | update hmay h => exact ⟨_, h.steps (Lifecycle.mayPump_ok hmay)⟩
  | available hup h => exact ⟨_, h.steps (Lifecycle.softConnected_ok hup).1⟩
  | peek _ ih => exact ih
  | readReady _ ih => exact ih
  | read _ _ ih => exact ih
  | runUntil hmay h => exact ⟨_, h.steps (Lifecycle.mayPump_ok hmay)⟩
  | flush _ _ ih => exact ih
  | blockingRead _ hup h => exact ⟨_, h.steps (Lifecycle.softConnected_ok hup).1⟩
  | readFirst _ ih => exact ih
  | readMore hread _ ih =>
    obtain ⟨flow, hs⟩ := ih
    cases blockingRead_spec hread with
    | bytes hs₁ => exact ⟨_, hs₁.trans hs⟩
  | write hup h => exact h.steps hup
  | writeAll _ _ ih => exact ih
  | @connect c _ host portNumber draw _ _ _ h => exact ⟨_, h.steps (status_launched draw host portNumber c)⟩
  | @stop c _ hopen _ _ ih =>
    obtain ⟨flow, hs⟩ := ih
    have hconnected : c.lifecycle.engineConnected = true := by
      simp only [Bool.and_eq_true] at hopen
      exact hopen.1.1
    have hpoll : Steps c {} c.polled := Step.poll.steps
    exact ⟨_, ((hpoll.snoc (.closing hconnected)).quiet (.drop c.flags rfl)).trans hs⟩

end AnyBoard

/-! ## Two boards -/

section TwoBoards

variable {β γ : Type} [Board β] [Board γ] {slots budget : Nat} {R : Likeness β γ} {c c' : Client β slots}
  {d : Client γ slots}

theorem Alike.clocked (h : Alike R c d) :
    Agree (Alike R) ((Timer.now c.board).1, c.clocked) ((Timer.now d.board).1, d.clocked) := by
  cases h with | onto h => exact ⟨(R.now h).answer, .onto (R.now h).after⟩

theorem Alike.pumping (h : Alike R c d) (hpump : c.Pumping c') : ∃ d', d.Pumping d' ∧ Alike R c' d' :=
  hpump.rel (fun _ _ h => .some h.pumpTurn) h

theorem Alike.waiting {target : EngineState} (h : Alike R c d) (hwait : c.Waiting budget target c') :
    ∃ d', d.Waiting budget target d' ∧ Alike R c' d' := by
  obtain ⟨c₁, hturns, hpump⟩ := hwait
  have hclocked := h.clocked
  obtain ⟨d₁, hturns', h₁⟩ :=
    hturns.rel (fun _ _ h => h.driveTurn budget target (Timer.now c.board).1) hclocked.after
  obtain ⟨d', hpump', h'⟩ := h₁.pumping hpump
  have hstart : (Timer.now d.board).1 = (Timer.now c.board).1 := hclocked.answer
  rw [← hstart] at hturns'
  exact ⟨d', ⟨d₁, hturns', hpump'⟩, h'⟩

theorem Alike.writing {data : Bytes} (h : Alike R c d) (hwrite : c.Writing budget data c') :
    ∃ d', d.Writing budget data d' ∧ Alike R c' d' := by
  have hjob : Agree (Alike R) (data, c) (data, d) := ⟨rfl, h⟩
  cases hwrite with
  | turn hpasses =>
    obtain ⟨⟨rest, d'⟩, hpasses', h'⟩ := hpasses.rel (fun _ _ h => Agree.writeTurn h budget) hjob
    exact ⟨d', .turn hpasses', h'.after⟩
  | @wait job left c₁ _ hpasses hmove hwait =>
    obtain ⟨job', hpasses', h₁⟩ := hpasses.rel (fun _ _ h => Agree.writeTurn h budget) hjob
    have hmoves := Agree.writeMove h₁
    rw [hmove] at hmoves
    generalize hmove' : writeMove job' = move' at hmoves
    cases hmoves with
    | wait h₂ =>
      obtain ⟨d', hwait', h'⟩ := h₂.handStored.waiting hwait
      exact ⟨d', .wait hpasses' hmove' hwait', h'⟩

/-- **Boards that cannot be told apart pass clients that are alike**, whether or not a request comes back. -/
theorem Alike.underway {request : Request} (h : Alike R c d) (hunderway : c.Underway budget request c') :
    ∃ d', d.Underway budget request d' ∧ Alike R c' d' := by
  induction hunderway generalizing d with
  | update hmay hpump =>
    obtain ⟨d', hpump', h'⟩ := h.pumping hpump
    exact ⟨d', .update (h.lifecycle ▸ hmay) hpump', h'⟩
  | available hup hpump =>
    obtain ⟨d', hpump', h'⟩ := h.pumping hpump
    exact ⟨d', .available (by rwa [flags, h.lifecycle, h.state]) hpump', h'⟩
  | peek _ ih =>
    obtain ⟨d', hon, h'⟩ := ih h
    exact ⟨d', .peek hon, h'⟩
  | readReady _ ih =>
    obtain ⟨d', hon, h'⟩ := ih h
    exact ⟨d', .readReady hon, h'⟩
  | read hroom _ ih =>
    obtain ⟨d', hon, h'⟩ := ih h
    exact ⟨d', .read hroom hon, h'⟩
  | runUntil hmay hwait =>
    obtain ⟨d', hwait', h'⟩ := h.waiting hwait
    exact ⟨d', .runUntil (h.lifecycle ▸ hmay) hwait', h'⟩
  | flush hpending _ ih =>
    obtain ⟨d', hon, h'⟩ := ih h
    exact ⟨d', .flush (by rwa [pending, h.backlog]) hon, h'⟩
  | blockingRead hroom hup hwait =>
    obtain ⟨d', hwait', h'⟩ := h.waiting hwait
    exact ⟨d', .blockingRead hroom (by rwa [flags, h.lifecycle, h.state]) hwait', h'⟩
  | readFirst _ ih =>
    obtain ⟨d', hon, h'⟩ := ih h
    exact ⟨d', .readFirst hon, h'⟩
  | @readMore _ _ _ length _ _ hread _ ih =>
    have hreads := h.blockingRead budget length
    rw [hread] at hreads
    obtain ⟨⟨r, d₁⟩, hread', hagree⟩ := rel_some hreads
    obtain rfl : r = _ := hagree.answer
    obtain ⟨d', hon, h'⟩ := ih hagree.after
    exact ⟨d', .readMore hread' hon, h'⟩
  | write hup hwrite =>
    obtain ⟨d', hwrite', h'⟩ := h.writing hwrite
    exact ⟨d', .write (by rwa [flags, h.lifecycle, h.state]) hwrite', h'⟩
  | writeAll hsome _ ih =>
    obtain ⟨d', hon, h'⟩ := ih h
    exact ⟨d', .writeAll hsome hon, h'⟩
  | @connect _ _ host portNumber draw hdown hdial hreset hwait =>
    have hdialled := h.dialled host portNumber
    have hlaunched := (hdialled.after.prepared (draw entropyLength) host.name?).started host.name?
    obtain ⟨d', hwait', h'⟩ := hlaunched.after.waiting hwait
    exact ⟨d', .connect (h.polled.answer.trans hdown) (hdialled.answer.trans hdial) (hlaunched.answer.trans hreset)
      hwait', h'⟩
  | @stop c _ hopen hup _ ih =>
    have hclosing : Alike R { c.polled with lifecycle := c.lifecycle.closing }
        { d.polled with lifecycle := d.lifecycle.closing } := by
      cases h with | onto h => exact .onto (R.connected h).after
    obtain ⟨d', hon, h'⟩ := ih (hclosing.dropUnread c.flags)
    have hflags : d.flags = c.flags := h.state
    refine ⟨d', .stop ?_ (h.polled.answer.trans hup) ?_, h'⟩
    · rwa [hflags, h.lifecycle]
    · rwa [hflags]

end TwoBoards

end Client

end TlsClient

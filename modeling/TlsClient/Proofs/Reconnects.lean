/-
A connect that succeeds leaves nothing of the connection before it.

Two clients on simulated boards that agree on what a handshake starts from may have had different pasts: sessions that
broke or were left half open, plaintext stored and not handed over, bytes not read, counters. None of it can be told
from what happens after a connect.
- `Twins`: two simulated boards that differ in the bytes of the engine's windows, beyond those in use, and in its
  records;
- `SimBoard.twins`: twins are alike, so a client cannot tell them apart;
- `Alike.undergo`: nor does any history of requests and of changes from outside, event by event;
- `SameStart`: what two clients have to agree on before the connect;
- `SameStart.launched`: the handshakes of such clients start on twins, since a reset sets the rest of the engine afresh;
- `connect_wipes`: so they succeed alike, and whatever happens afterwards happens to both.
-/
import TlsClient.Proofs.Likeness
import TlsClient.Proofs.Resumption

namespace TlsClient

/-! ## Windows in use -/

namespace Bytes

theorem resize_of_le {bytes : Bytes} {length : Nat} (h : length ≤ bytes.length) :
    resize bytes length = bytes.take length := by
  simp [resize, zeros, Nat.sub_eq_zero_of_le h]

theorem take_resize {m n : Nat} (bytes : Bytes) (h : n ≤ m) : (resize bytes m).take n = resize bytes n := by
  have hzeros : min (n - min m bytes.length) (m - bytes.length) = n - bytes.length := by omega
  simp only [resize, zeros, List.take_append, List.take_take, List.take_replicate, List.length_take, hzeros,
    Nat.min_eq_left h]

theorem resize_resize {m n : Nat} (bytes : Bytes) (h : n ≤ m) : resize (resize bytes m) n = resize bytes n := by
  rw [resize_of_le (by rw [length_resize]; exact h), take_resize bytes h]

theorem resize_zero (bytes : Bytes) : resize bytes 0 = [] := by simp [resize, zeros]

/-- to cut two windows shorter keeps them the same -/
theorem resize_congr {m n : Nat} {bytes bytes' : Bytes} (hmn : n ≤ m) (h : resize bytes' m = resize bytes m) :
    resize bytes' n = resize bytes n := by
  rw [← resize_resize bytes' hmn, h, resize_resize bytes hmn]

/-- two windows that are the same as far as they are in use still are when both are cut or extended to one length -/
theorem resize_resize_congr {m n : Nat} {bytes bytes' : Bytes} (h : resize bytes' n = resize bytes n) :
    resize (resize bytes' m) n = resize (resize bytes m) n := by
  rcases Nat.le_total n m with hnm | hmn
  · rw [resize_resize bytes' hnm, resize_resize bytes hnm, h]
  · rw [resize_congr hmn h]

/-- a window that data was stored in, as far as the data goes -/
theorem resize_overwrite {window data : Bytes} {start : Nat} (h : start + data.length ≤ window.length) :
    resize (overwrite window start data) (start + data.length) = resize window start ++ data := by
  rw [resize_of_le (by rw [length_overwrite]; exact h), take_overwrite h, resize_of_le (by omega)]

end Bytes

/-! ## What an engine keeps for itself -/

namespace SimEngine

/-- the engine without the bytes of its windows and without its records, which no client is ever told -/
def bare (e : SimEngine) : SimEngine :=
  { e with
    recvWindow := []
    plainWindow := []
    resets := []
    entropy := []
    handovers := []
    plaintext := []
    flushes := 0
    handshakes := 0
    violations := 0 }

theorem bare_sendRecAck (e : SimEngine) (length : Nat) :
    (e.sendRecAck length).bare = { e.bare with outgoing := e.outgoing.drop (granted length e.outgoing.length) } := by
  unfold sendRecAck grant
  split_ifs <;> rfl

theorem bare_recvAppAck (e : SimEngine) (length : Nat) :
    (e.recvAppAck length).bare = { e.bare with unread := e.unread.drop (granted length e.unread.length) } := by
  unfold recvAppAck grant
  split_ifs <;> rfl

theorem bare_sendAppAck (e : SimEngine) (length : Nat) :
    (e.sendAppAck length).bare =
      { e.bare with outgoing := e.outgoing ++ e.fitted.take (granted length e.capacity) } := by
  unfold sendAppAck grant
  split_ifs <;> rfl

theorem bare_flightArrived (e : SimEngine) (remaining count : Nat) :
    (e.flightArrived remaining count).bare = (e.bare.flightArrived remaining count).bare := by
  unfold flightArrived
  split_ifs <;> rfl

theorem bare_takeRecord (e : SimEngine) (count : Nat) :
    (e.takeRecord count).bare =
      match e.phase with
      | .awaiting remaining => (e.bare.flightArrived remaining count).bare
      | .app => { e.bare with unread := e.unread ++ e.recvWindow.take count }
      | .idle | .closed => e.bare := by
  cases hphase : e.phase with
  | awaiting remaining =>
    simp only [takeRecord, hphase]
    exact bare_flightArrived e remaining count
  | app => simp only [takeRecord, hphase, bare]
  | idle => simp only [takeRecord, hphase]
  | closed => simp only [takeRecord, hphase]

/-- to receive a record is to take it, whatever was acknowledged -/
theorem bare_recvRecAck (e : SimEngine) (length : Nat) :
    (e.recvRecAck length).bare = (e.takeRecord (granted length e.recvWindow.length)).bare := by
  unfold recvRecAck grant
  split_ifs
  · exact (bare_takeRecord { e with violations := e.violations + 1 } _).trans (bare_takeRecord e _).symm
  · rfl

theorem plainWindow_sendRecAck (e : SimEngine) (length : Nat) : (e.sendRecAck length).plainWindow = e.plainWindow := by
  unfold sendRecAck grant
  split_ifs <;> rfl

theorem plainWindow_recvAppAck (e : SimEngine) (length : Nat) : (e.recvAppAck length).plainWindow = e.plainWindow := by
  unfold recvAppAck grant
  split_ifs <;> rfl

theorem plainWindow_flightArrived (e : SimEngine) (remaining count : Nat) :
    (e.flightArrived remaining count).plainWindow = e.plainWindow := by
  unfold flightArrived
  split_ifs <;> rfl

theorem plainWindow_takeRecord (e : SimEngine) (count : Nat) : (e.takeRecord count).plainWindow = e.plainWindow := by
  cases hphase : e.phase with
  | awaiting remaining =>
    simp only [takeRecord, hphase]
    exact plainWindow_flightArrived e remaining count
  | app => simp only [takeRecord, hphase]
  | idle => simp only [takeRecord, hphase]
  | closed => simp only [takeRecord, hphase]

/-- what is taken off the window for ciphertext changes no other window -/
theorem plainWindow_recvRecAck (e : SimEngine) (length : Nat) : (e.recvRecAck length).plainWindow = e.plainWindow := by
  unfold recvRecAck grant
  split_ifs
  · exact plainWindow_takeRecord { e with violations := e.violations + 1 } _
  · exact plainWindow_takeRecord e _

/-- what a reset goes by: the settings of the engine, and the parameters offered to it -/
def settings (e : SimEngine) : SimEngine where
  hello := e.hello
  serverFlight := e.serverFlight
  resumedFlight := e.resumedFlight
  capacity := e.capacity
  sharedBuffer := e.sharedBuffer
  issued := e.issued
  resetError := e.resetError
  lastError := e.lastError
  forced := e.forced
  offered := e.offered

/-- a reset that succeeds leaves nothing else of what was before -/
theorem bare_reset_settings {e : SimEngine} (server : Option String) (hok : e.resetError = none) :
    (e.reset server).2.bare = (e.settings.reset server).2.bare := by
  have hflight : { e.settings with resets := e.settings.resets ++ [server] }.restart.flight =
      { e with resets := e.resets ++ [server] }.restart.flight := rfl
  have hsettings : e.settings.resetError = none := hok
  rw [reset_eq_of_ok server hok, reset_eq_of_ok server hsettings, hflight]
  simp only
  split_ifs <;> rfl

theorem bare_reset_congr {e e' : SimEngine} (server : Option String) (h : e'.settings = e.settings)
    (hok : e.resetError = none) : (e'.reset server).2.bare = (e.reset server).2.bare := by
  have hok' : e'.resetError = none := by
    calc e'.resetError = e'.settings.resetError := rfl
      _ = e.settings.resetError := congrArg resetError h
      _ = none := hok
  rw [bare_reset_settings server hok', bare_reset_settings server hok, h]

theorem bare_reset_of_error {e : SimEngine} (server : Option String) {code : EngineCode} (h : e.resetError = some code) :
    (e.reset server).2.bare = { e.bare with lastError := code } := by
  rw [reset_of_error server h]
  rfl

theorem plainWindow_reset (e : SimEngine) (server : Option String) : (e.reset server).2.plainWindow = e.plainWindow := by
  unfold reset restart establish
  simp only
  split
  · rfl
  · simp only
    split_ifs <;> rfl

theorem bare_edit (e : SimEngine) (edit : EngineEdit) : (e.edit edit).bare = (e.bare.edit edit).bare := by
  cases edit <;> rfl

theorem plainWindow_edit (e : SimEngine) (edit : EngineEdit) : (e.edit edit).plainWindow = e.plainWindow := by
  cases edit <;> rfl

end SimEngine

/-! ## Twins -/

/-- two boards that agree but for records and for windows, which agree as far as that many bytes of plaintext go -/
structure Twins (n : Nat) (b b' : SimBoard) : Prop where
  socket : b'.socket = b.socket
  time : b'.time = b.time
  probe : b'.probe = b.probe
  engine : b'.engine.bare = b.engine.bare
  stored : Bytes.resize b'.engine.plainWindow n = Bytes.resize b.engine.plainWindow n

namespace Twins

variable {n : Nat} {b b' : SimBoard} (h : Twins n b b')

include h

/-- what can be read off an engine without its windows and records is the same -/
theorem reading {α : Type} (f : SimEngine → α) (hbare : ∀ e, f e.bare = f e) : f b'.engine = f b.engine := by
  calc f b'.engine = f b'.engine.bare := (hbare _).symm
    _ = f b.engine.bare := congrArg f h.engine
    _ = f b.engine := hbare _

theorem onSocket {α : Type} (f : SimSocket → α × SimSocket) :
    Agree (Twins n) (SimBoard.onSocket f b) (SimBoard.onSocket f b') where
  answer := congrArg (fun s => (f s).1) h.socket
  after := ⟨congrArg (fun s => (f s).2) h.socket, h.time, h.probe, h.engine, h.stored⟩

/-- the engines went on alike -/
theorem withEngine {e e' : SimEngine} {m : Nat} (hbare : e'.bare = e.bare)
    (hstored : Bytes.resize e'.plainWindow m = Bytes.resize e.plainWindow m) :
    Twins m { b with engine := e } { b' with engine := e' } :=
  ⟨h.socket, h.time, h.probe, hbare, hstored⟩

/-- an action of the engine that does not touch the window for plaintext, nor ask for what the engine keeps for itself -/
theorem onEngine {f : SimEngine → SimEngine} (hbare : ∀ e, (f e).bare = (f e.bare).bare)
    (hwindow : ∀ e, (f e).plainWindow = e.plainWindow) : Twins n (b.onEngine f) (b'.onEngine f) := by
  apply h.withEngine
  · rw [hbare b'.engine, h.engine, ← hbare b.engine]
  · rw [hwindow, hwindow]
    exact h.stored

theorem state : b'.engine.state = b.engine.state := h.reading SimEngine.state fun _ => rfl

theorem relax : Twins 0 b b' :=
  h.withEngine h.engine (Bytes.resize_congr (Nat.zero_le n) h.stored)

theorem sendAppBuf :
    (Engine.sendAppBuf b').1.length = (Engine.sendAppBuf b).1.length ∧
      Twins n (Engine.sendAppBuf b).2 (Engine.sendAppBuf b').2 := by
  have hcapacity := h.reading SimEngine.capacity fun _ => rfl
  simp only [Engine.sendAppBuf, SimEngine.sendAppBuf, h.state]
  split_ifs
  · refine ⟨by rw [Bytes.length_resize, Bytes.length_resize, hcapacity], h.withEngine h.engine ?_⟩
    simp only [hcapacity]
    exact Bytes.resize_resize_congr h.stored
  · exact ⟨rfl, h.withEngine h.engine h.stored⟩

/-- data stored behind what is in use makes the windows agree as far as it goes -/
theorem storeSendApp {bytes : Bytes} (hfits : n + bytes.length ≤ (Engine.sendAppBuf b).1.length) :
    Twins (n + bytes.length) (Engine.storeSendApp n bytes (Engine.sendAppBuf b).2)
      (Engine.storeSendApp n bytes (Engine.sendAppBuf b').2) := by
  have hcapacity := h.reading SimEngine.capacity fun _ => rfl
  obtain ⟨-, hopened⟩ := h.sendAppBuf
  refine ⟨hopened.socket, hopened.time, hopened.probe, hopened.engine, ?_⟩
  simp only [Engine.storeSendApp, SimBoard.onEngine, SimEngine.storeSendApp, Engine.sendAppBuf, SimEngine.sendAppBuf,
    h.state] at hfits ⊢
  split_ifs at hfits ⊢
  · have hwindow : n + bytes.length ≤ (Bytes.resize b.engine.plainWindow b.engine.capacity).length := hfits
    have hwindow' : n + bytes.length ≤ (Bytes.resize b'.engine.plainWindow b'.engine.capacity).length := by
      rw [Bytes.length_resize] at hwindow ⊢
      rwa [hcapacity]
    simp only
    rw [Bytes.resize_overwrite hwindow, Bytes.resize_overwrite hwindow', hcapacity, Bytes.resize_resize_congr h.stored]
  · -- there is no window, so there is nothing to store
    have hnothing : n + bytes.length = 0 := Nat.le_zero.1 hfits
    rw [hnothing, Bytes.resize_zero, Bytes.resize_zero]

theorem sendAppAck : Twins 0 (Engine.sendAppAck n b) (Engine.sendAppAck n b') := by
  have hcapacity := h.reading SimEngine.capacity fun _ => rfl
  have houtgoing := h.reading SimEngine.outgoing fun _ => rfl
  have htaken : b'.engine.fitted.take (SimEngine.granted n b.engine.capacity) =
      b.engine.fitted.take (SimEngine.granted n b.engine.capacity) := by
    have hle : SimEngine.granted n b.engine.capacity ≤ b.engine.capacity := Nat.min_le_right _ _
    rw [SimEngine.fitted, SimEngine.fitted, hcapacity, Bytes.take_resize _ hle, Bytes.take_resize _ hle]
    exact Bytes.resize_congr (Nat.min_le_left _ _) h.stored
  apply h.withEngine
  · rw [SimEngine.bare_sendAppAck, SimEngine.bare_sendAppAck, h.engine, hcapacity, houtgoing, htaken]
  · rw [Bytes.resize_zero, Bytes.resize_zero]

theorem recvAppAck (length : Nat) : Twins n (Engine.recvAppAck length b) (Engine.recvAppAck length b') := by
  have hunread := h.reading SimEngine.unread fun _ => rfl
  apply h.withEngine
  · rw [SimEngine.bare_recvAppAck, SimEngine.bare_recvAppAck, h.engine, hunread]
  · rw [SimEngine.plainWindow_recvAppAck, SimEngine.plainWindow_recvAppAck]
    exact h.stored

theorem sendRecAck (length : Nat) : Twins n (Engine.sendRecAck length b) (Engine.sendRecAck length b') := by
  have houtgoing := h.reading SimEngine.outgoing fun _ => rfl
  apply h.withEngine
  · rw [SimEngine.bare_sendRecAck, SimEngine.bare_sendRecAck, h.engine, houtgoing]
  · rw [SimEngine.plainWindow_sendRecAck, SimEngine.plainWindow_sendRecAck]
    exact h.stored

theorem recvRecBuf :
    (Engine.recvRecBuf b').1 = (Engine.recvRecBuf b).1 ∧ Twins n (Engine.recvRecBuf b).2 (Engine.recvRecBuf b').2 := by
  have hwant := h.reading SimEngine.recvWant fun _ => rfl
  exact ⟨congrArg Bytes.zeros hwant, h.withEngine h.engine h.stored⟩

theorem recvRecAck (length : Nat) (hwindow : b'.engine.recvWindow = b.engine.recvWindow) :
    Twins n (Engine.recvRecAck length b) (Engine.recvRecAck length b') := by
  have hphase := h.reading SimEngine.phase fun _ => rfl
  have hunread := h.reading SimEngine.unread fun _ => rfl
  apply h.withEngine
  · rw [SimEngine.bare_recvRecAck, SimEngine.bare_recvRecAck, SimEngine.bare_takeRecord, SimEngine.bare_takeRecord,
      hwindow, hphase, hunread, h.engine]
  · rw [SimEngine.plainWindow_recvRecAck, SimEngine.plainWindow_recvRecAck]
    exact h.stored

theorem reset (server : Option String) : Agree (Twins n) (Engine.reset server b) (Engine.reset server b') := by
  have herror := h.reading SimEngine.resetError fun _ => rfl
  have hsettings := h.reading SimEngine.settings fun _ => rfl
  have hstored : Bytes.resize (b'.engine.reset server).2.plainWindow n =
      Bytes.resize (b.engine.reset server).2.plainWindow n := by
    rw [SimEngine.plainWindow_reset, SimEngine.plainWindow_reset]
    exact h.stored
  cases hcode : b.engine.resetError with
  | none =>
    rw [hcode] at herror
    refine ⟨?_, h.withEngine ?_ hstored⟩
    · exact (SimEngine.reset_ok_iff.2 herror).trans (SimEngine.reset_ok_iff.2 hcode).symm
    · exact SimEngine.bare_reset_congr server hsettings hcode
  | some code =>
    rw [hcode] at herror
    refine ⟨?_, h.withEngine ?_ hstored⟩
    · show (b'.engine.reset server).1 = (b.engine.reset server).1
      rw [SimEngine.reset_of_error server herror, SimEngine.reset_of_error server hcode]
    · rw [SimEngine.bare_reset_of_error server herror, SimEngine.bare_reset_of_error server hcode, h.engine]

end Twins

/-- what no client can tell: the bytes of a window beyond those in use, and the records of an engine -/
def SimBoard.twins : Likeness SimBoard SimBoard where
  like := Twins
  filling n b b' := Twins n b b' ∧ b'.engine.recvWindow = b.engine.recvWindow
  relax h := h.relax
  release h := h.1
  connect host portNumber h := h.onSocket (SimSocket.connect host portNumber)
  write bytes h := h.onSocket (SimSocket.write bytes)
  read h _ :=
    have hread := h.recvRecBuf.2.onSocket (SimSocket.read _)
    ⟨hread.answer, hread.after, h.recvRecBuf.1⟩
  available h := h.onSocket SimSocket.available
  flush h := h.onSocket SimSocket.flush
  stop h := ⟨congrArg SimSocket.stop h.socket, h.time, h.probe, h.engine, h.stored⟩
  connected h := h.onSocket SimSocket.connected
  state h := h.state
  sendRecBuf h := h.reading SimEngine.outgoing fun _ => rfl
  sendRecAck length h := h.sendRecAck length
  recvRecBuf h := ⟨congrArg List.length h.recvRecBuf.1, h.recvRecBuf.2, h.recvRecBuf.1⟩
  fillRecvRec bytes h :=
    ⟨h.1.onEngine (fun _ => rfl) fun _ => rfl, congrArg (fun window => Bytes.overwrite window 0 bytes) h.2⟩
  recvRecAck length h := h.1.recvRecAck length h.2
  sendAppBuf h := h.sendAppBuf
  storeSendApp h hfits := h.storeSendApp hfits
  sendAppAck h := h.sendAppAck
  recvAppBuf h := h.reading SimEngine.unread fun _ => rfl
  recvAppAck length h := h.recvAppAck length
  flushApp _ h := h.onEngine (fun _ => rfl) fun _ => rfl
  reset server h := h.reset server
  sessionParameters h := h.reading SimEngine.session fun _ => rfl
  offer _ h := h.onEngine (fun _ => rfl) fun _ => rfl
  injectEntropy _ h := h.onEngine (fun _ => rfl) fun _ => rfl
  now h :=
    ⟨congrArg (fun t => t.read.1) h.time, h.socket, congrArg (fun t => t.read.2) h.time, h.probe, h.engine, h.stored⟩
  delay ms h := ⟨h.socket, congrArg (SimTime.delayMs ms) h.time, h.probe, h.engine, h.stored⟩
  headroom required h :=
    ⟨congrArg (fun p => (p.check required).1) h.probe,
      h.socket, h.time, congrArg (fun p => (p.check required).2) h.probe, h.engine, h.stored⟩

/-! ## Histories of twins -/

namespace Client

variable {slots : Nat} {c c' d : Client SimBoard slots}

/-- a change from outside happens to both -/
theorem Alike.disturb (h : Alike SimBoard.twins c d) (event : Event) :
    Alike SimBoard.twins (c.disturb event) (d.disturb event) := by
  cases h with
  | @onto b h =>
    have htwins : Twins c.pending c.board b := h
    cases event with
    | request r => exact .onto h
    | socket edit =>
      exact .onto
        ⟨congrArg (fun s => s.edit edit) htwins.socket, htwins.time, htwins.probe, htwins.engine, htwins.stored⟩
    | engine edit =>
      exact .onto
        (htwins.onEngine (f := fun e => e.edit edit) (fun e => e.bare_edit edit) fun e => e.plainWindow_edit edit)
    | forget name => exact .onto h
    | setTimeout ms => exact .onto h
    | advance ms =>
      exact .onto ⟨htwins.socket, congrArg (SimTime.advance ms) htwins.time, htwins.probe, htwins.engine, htwins.stored⟩
    | probe probe => exact .onto ⟨htwins.socket, htwins.time, rfl, htwins.engine, htwins.stored⟩

/-- a history gives the same log on both, and leaves them alike: by induction over the events -/
theorem Alike.undergo (h : Alike SimBoard.twins c d) (budget : Nat) (events : List Event) :
    Option.Rel (Agree (Alike SimBoard.twins)) (c.undergo budget events) (d.undergo budget events) := by
  induction events generalizing c d with
  | nil => exact .some ⟨rfl, h⟩
  | cons event rest ih =>
    cases event with
    | request r =>
      have hreply := h.perform budget r
      simp only [Client.undergo]
      generalize c.perform budget r = x at hreply ⊢
      generalize d.perform budget r = y at hreply ⊢
      cases hreply with
      | none => exact .none
      | some hreply =>
        obtain ⟨reply, c₁, d₁, rfl, rfl, h₁⟩ := hreply.parts
        apply rel_map_agree (ih h₁)
        intro log c₂ d₂ h₂
        exact ⟨rfl, h₂⟩
    | _ => exact ih (h.disturb _)

/-! ## The connect that starts afresh -/

theorem starts_iff : c.starts = true ↔ c.reaches = true ∧ c.engine.resetError = none := by
  rw [starts, Bool.and_eq_true, Option.isNone_iff_eq_none]

/-- a client that would start a handshake does nothing else until it waits -/
theorem connect_of_starts (h : c.starts = true) (budget : Nat) (draw : Nat → Bytes) (host : Host) (portNumber : Nat) :
    c.connect budget draw host portNumber =
      ((c.launched draw host portNumber).drive budget { sendApp := true }).map (concludeHandshake host.name?) := by
  obtain ⟨hreaches, hreset⟩ := starts_iff.1 h
  obtain ⟨hdown, hdial⟩ := (reaches_iff host portNumber c).1 hreaches
  rw [connect_eq, hdown, hdial, (reset_prepared_iff draw host portNumber c).2 hreset]
  rfl

theorem Connects.starts_of_ok {draw : Nat → Bytes} {host : Host} {portNumber : Nat}
    (h : Connects draw host portNumber c (.ok ()) c') : c.starts = true := by
  generalize hr : (Except.ok () : Except Error Unit) = r at h
  cases h with
  | busy => cases hr
  | refused => cases hr
  | unstarted => cases hr
  | waited hdown hdial hreset =>
    have hreaches := (reaches_iff host portNumber c).2 ⟨hdown, hdial⟩
    exact starts_iff.2 ⟨hreaches, (reset_prepared_iff draw host portNumber c).1 hreset⟩

/-- what two clients have to agree on before a connect; they may differ in lifecycle, backlog, counters, the verdict on
memory, and all of the engine but its settings and what it was offered -/
structure SameStart (c d : Client SimBoard slots) : Prop where
  config : d.config = c.config
  sessions : d.sessions = c.sessions
  socket : d.socket = c.socket
  time : d.board.time = c.board.time
  probe : d.board.probe = c.board.probe
  engine : d.engine.settings = c.engine.settings

namespace SameStart

variable (h : SameStart c d)

include h

/-- what can be read off the settings of an engine is the same -/
theorem setting {α : Type} (f : SimEngine → α) (hf : ∀ e, f e.settings = f e) : f d.engine = f c.engine := by
  calc f d.engine = f d.engine.settings := (hf _).symm
    _ = f c.engine.settings := congrArg f h.engine
    _ = f c.engine := hf _

theorem starts : d.starts = c.starts := by
  have hresetError := h.setting SimEngine.resetError fun _ => rfl
  rw [Client.starts, Client.starts, reaches, reaches, h.socket, hresetError]

theorem offering (server : Option String) : d.offering server = c.offering server := by
  have hoffered := h.setting SimEngine.offered fun _ => rfl
  rw [Client.offering, Client.offering, h.sessions, hoffered]

/-- the boards from which the handshakes of two such clients start are twins, with nothing of their windows in use -/
theorem twins_launched (hreset : c.engine.resetError = none) (draw : Nat → Bytes) (host : Host) (portNumber : Nat) :
    Twins 0 (c.launched draw host portNumber).board (d.launched draw host portNumber).board := by
  have hsettings :
      { d.engine with
        entropy := d.engine.entropy ++ draw entropyLength
        offered := d.offering host.name? }.settings =
      { c.engine with
        entropy := c.engine.entropy ++ draw entropyLength
        offered := c.offering host.name? }.settings := by
    rw [h.offering]
    exact congrArg (fun e => { e with offered := c.offering host.name? }) h.engine
  have hengine : (d.launched draw host portNumber).engine.bare = (c.launched draw host portNumber).engine.bare := by
    rw [engine_launched, engine_launched]
    exact SimEngine.bare_reset_congr host.name? hsettings hreset
  have hsocket : (d.launched draw host portNumber).socket = (c.launched draw host portNumber).socket := by
    rw [launched_dialled, launched_dialled, dialled_socket, dialled_socket, h.socket]
  refine ⟨hsocket, ?_, ?_, hengine, ?_⟩
  · rw [Client.launched, Client.launched, prepared_eq, prepared_eq]
    exact h.time
  · rw [Client.launched, Client.launched, prepared_eq, prepared_eq]
    exact h.probe
  · rw [Bytes.resize_zero, Bytes.resize_zero]

/-- the handshakes of two such clients start alike -/
theorem launched (hreset : c.engine.resetError = none) (draw : Nat → Bytes) (host : Host) (portNumber : Nat) :
    Alike SimBoard.twins (c.launched draw host portNumber) (d.launched draw host portNumber) := by
  have hclean : d.launched draw host portNumber =
      (c.launched draw host portNumber).onto (d.launched draw host portNumber).board := by
    calc d.launched draw host portNumber
        = { d with
            board := (d.launched draw host portNumber).board
            lifecycle := { stage := .handshaking }
            backlog := .empty
            stats := {}
            abort := false } := launched_clean draw host portNumber d
      _ = (c.launched draw host portNumber).onto (d.launched draw host portNumber).board := by
        rw [launched_clean draw host portNumber c, h.config, h.sessions]
  have hpending : (c.launched draw host portNumber).pending = 0 := by
    rw [launched_clean]
    rfl
  rw [hclean]
  apply Alike.onto
  rw [hpending]
  exact h.twins_launched hreset draw host portNumber

/-- the connect of one tells what the connect of the other does, and leaves them alike -/
theorem connect {budget : Nat} {draw : Nat → Bytes} {host : Host} {portNumber : Nat} {r : Except Error Unit}
    (hstarts : c.starts = true) (hconnect : c.connect budget draw host portNumber = some (r, c')) :
    ∃ d', d.connect budget draw host portNumber = some (r, d') ∧ Alike SimBoard.twins c' d' := by
  have hrel : Option.Rel (Agree (Alike SimBoard.twins)) (c.connect budget draw host portNumber)
      (d.connect budget draw host portNumber) := by
    have hreset : c.engine.resetError = none := (starts_iff.1 hstarts).2
    rw [connect_of_starts hstarts, connect_of_starts (h.starts.trans hstarts)]
    apply rel_map_agree ((h.launched hreset draw host portNumber).drive budget { sendApp := true })
    intro waited c₁ d₁ h₁
    exact h₁.concludeHandshake host.name? waited
  rw [hconnect] at hrel
  obtain ⟨answer, hanswer, hagree⟩ := rel_some hrel
  obtain ⟨_, _, d', hends, rfl, halike⟩ := hagree.parts
  cases hends
  exact ⟨d', hanswer, halike⟩

end SameStart

/-- what can be seen of two clients after their histories: the replies they gave, and all they tell when asked, now -/
structure SameSight (x y : List Exchange × Client SimBoard slots) : Prop where
  log : y.1 = x.1
  status : y.2.status = x.2.status
  phase : y.2.phase = x.2.phase
  stats : y.2.stats = x.2.stats
  abort : y.2.abort = x.2.abort
  config : y.2.config = x.2.config
  sessions : y.2.sessions = x.2.sessions
  engineError : y.2.engineError = x.2.engineError
  socket : y.2.socket = x.2.socket

/-- two clients that are alike show the same -/
theorem Alike.sameSight (h : Alike SimBoard.twins c d) (log : List Exchange) : SameSight (log, c) (log, d) where
  log := rfl
  status := congrArg Lifecycle.status h.lifecycle
  phase := congrArg Lifecycle.phase h.lifecycle
  stats := h.stats
  abort := h.abort
  config := h.config
  sessions := h.sessions
  engineError := h.board.reading SimEngine.lastError fun _ => rfl
  socket := h.board.socket

/-- **A connect that succeeds wipes every trace of the connection before it.** Let two clients agree on settings,
sessions, socket, time, memory probe, the settings of their engines and the parameters offered to them. If a connect
succeeds on one it succeeds on the other, and whatever is asked of both from then on, and whatever happens to their
sockets and engines, they give the same replies and show the same. -/
theorem connect_wipes (h : SameStart c d) {budget : Nat} {draw : Nat → Bytes} {host : Host} {portNumber : Nat}
    (hconnect : c.connect budget draw host portNumber = some (.ok (), c')) :
    ∃ d', d.connect budget draw host portNumber = some (.ok (), d') ∧
      ∀ budget events, Option.Rel SameSight (c'.undergo budget events) (d'.undergo budget events) := by
  have hstarts := (connect_spec hconnect).starts_of_ok
  obtain ⟨d', hconnect', halike⟩ := h.connect hstarts hconnect
  refine ⟨d', hconnect', fun budget events => ?_⟩
  apply rel_imp (halike.undergo budget events)
  intro x y hagree
  obtain ⟨log, c₁, d₁, rfl, rfl, h₁⟩ := hagree.parts
  exact h₁.sameSight log

/-- a client like `newcomer`, but with a session behind it that broke in the middle of a write -/
def veteran : Client SimBoard 1 :=
  { newcomer with
    board.engine.phase := .app
    board.engine.outgoing := [7, 7]
    board.engine.unread := [5]
    board.engine.recvWindow := [8]
    board.engine.plainWindow := [1, 2, 3, 4]
    board.engine.session := sampleParameters
    board.engine.resets := [some "b"]
    lifecycle := { stage := .closed, status := .transportWrite }
    backlog := { pending := 3 }
    stats := { bytesSent := 90, handoffs := 2 }
    abort := true }

/-- what a broken session left behind is not to be seen after the next connect -/
theorem connect_wipes_broken_session :
    veteran.status ≠ newcomer.status ∧ veteran.pending ≠ newcomer.pending ∧ SameStart newcomer veteran ∧
      ∃ c d, newcomer.connect 50 (fun _ => []) (.name "a") 443 = some (.ok (), c) ∧
        veteran.connect 50 (fun _ => []) (.name "a") 443 = some (.ok (), d) ∧
        ∀ budget events, Option.Rel SameSight (c.undergo budget events) (d.undergo budget events) := by
  have hopens :
      (newcomer.connect 50 (fun _ => []) (.name "a") 443).map (fun s => (Reply.done s.1).error?) = some none := by
    decide +kernel
  obtain ⟨⟨r, c⟩, hconnect, hr⟩ := Option.map_eq_some_iff.1 hopens
  obtain rfl := Reply.ok_of_done hr
  have hsame : SameStart newcomer veteran := ⟨rfl, rfl, rfl, rfl, rfl, rfl⟩
  obtain ⟨d, hconnect', hsight⟩ := connect_wipes hsame hconnect
  exact ⟨by decide, by decide, hsame, c, d, hconnect, hconnect', hsight⟩

end Client

end TlsClient

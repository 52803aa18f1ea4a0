/-
A client cannot tell a board from its image.

A board map takes the states of one board to states of another, so that a call of the second board is the image of the
same call of the first: it gets the same answer and leaves the image of the state that the first is left in. A client
that is carried over then does on the second board what it did on the first.
- `BoardMap`: a map that commutes with every call;
- `BoardMap.likeness`: a state is like its image, however much of a window is in use;
- `Client.carry`: the client on the second board;
- `perform_carry`: every request commutes with the map, whatever its budget.
To forget what a board has recorded about its calls is a board map.
-/
import TlsClient.Proofs.Likeness

namespace TlsClient

/-- a map of boards that commutes with every call -/
structure BoardMap (β γ : Type) [Board β] [Board γ] where
  map : β → γ
  connect (host : Host) (portNumber : Nat) (b : β) : Transport.connect host portNumber (map b) =
    ((Transport.connect host portNumber b).1, map (Transport.connect host portNumber b).2)
  write (bytes : Bytes) (b : β) :
    Transport.write bytes (map b) = ((Transport.write bytes b).1, map (Transport.write bytes b).2)
  read (room : Nat) (b : β) :
    Transport.read room (map b) = ((Transport.read room b).1, map (Transport.read room b).2)
  available (b : β) : Transport.available (map b) = ((Transport.available b).1, map (Transport.available b).2)
  flush (b : β) : Transport.flush (map b) = ((Transport.flush b).1, map (Transport.flush b).2)
  stop (b : β) : Transport.stop (map b) = map (Transport.stop b)
  connected (b : β) : Transport.connected (map b) = ((Transport.connected b).1, map (Transport.connected b).2)
  state (b : β) : Engine.state (map b) = Engine.state b
  sendRecBuf (b : β) : Engine.sendRecBuf (map b) = Engine.sendRecBuf b
  sendRecAck (length : Nat) (b : β) : Engine.sendRecAck length (map b) = map (Engine.sendRecAck length b)
  recvRecBuf (b : β) : Engine.recvRecBuf (map b) = ((Engine.recvRecBuf b).1, map (Engine.recvRecBuf b).2)
  fillRecvRec (bytes : Bytes) (b : β) : Engine.fillRecvRec bytes (map b) = map (Engine.fillRecvRec bytes b)
  recvRecAck (length : Nat) (b : β) : Engine.recvRecAck length (map b) = map (Engine.recvRecAck length b)
  sendAppBuf (b : β) : Engine.sendAppBuf (map b) = ((Engine.sendAppBuf b).1, map (Engine.sendAppBuf b).2)
  storeSendApp (start : Nat) (bytes : Bytes) (b : β) :
    Engine.storeSendApp start bytes (map b) = map (Engine.storeSendApp start bytes b)
  sendAppAck (length : Nat) (b : β) : Engine.sendAppAck length (map b) = map (Engine.sendAppAck length b)
  recvAppBuf (b : β) : Engine.recvAppBuf (map b) = Engine.recvAppBuf b
  recvAppAck (length : Nat) (b : β) : Engine.recvAppAck length (map b) = map (Engine.recvAppAck length b)
  flushApp (force : Bool) (b : β) : Engine.flushApp force (map b) = map (Engine.flushApp force b)
  reset (server : Option String) (b : β) :
    Engine.reset server (map b) = ((Engine.reset server b).1, map (Engine.reset server b).2)
  sessionParameters (b : β) : Engine.sessionParameters (map b) = Engine.sessionParameters b
  offer (p : SessionParameters) (b : β) : Engine.offer p (map b) = map (Engine.offer p b)
  injectEntropy (bytes : Bytes) (b : β) : Engine.injectEntropy bytes (map b) = map (Engine.injectEntropy bytes b)
  now (b : β) : Timer.now (map b) = ((Timer.now b).1, map (Timer.now b).2)
  delay (ms : Nat) (b : β) : Timer.delay ms (map b) = map (Timer.delay ms b)
  headroom (required : Nat) (b : β) :
    Probe.headroom required (map b) = ((Probe.headroom required b).1, map (Probe.headroom required b).2)

/-- an outcome agrees with its image -/
theorem Agree.of_image {α σ τ : Type} {f : σ → τ} {x : α × σ} {y : α × τ} (h : y = (x.1, f x.2)) :
    Agree (fun s t => t = f s) x y :=
  ⟨congrArg Prod.fst h, congrArg Prod.snd h⟩

/-- a state is like its image -/
def BoardMap.likeness {β γ : Type} [Board β] [Board γ] (f : BoardMap β γ) : Likeness β γ where
  like _ b b' := b' = f.map b
  filling _ b b' := b' = f.map b
  relax h := h
  release h := h
  connect host portNumber h := .of_image (h ▸ f.connect host portNumber _)
  write bytes h := .of_image (h ▸ f.write bytes _)
  read := by
    rintro n b b' room rfl -
    rw [f.recvRecBuf]
    exact .of_image (f.read room _)
  available h := .of_image (h ▸ f.available _)
  flush h := .of_image (h ▸ f.flush _)
  stop h := h ▸ f.stop _
  connected h := .of_image (h ▸ f.connected _)
  state h := h ▸ f.state _
  sendRecBuf h := h ▸ f.sendRecBuf _
  sendRecAck length h := h ▸ f.sendRecAck length _
  recvRecBuf h :=
    have himage := Agree.of_image (h ▸ f.recvRecBuf _)
    ⟨congrArg List.length himage.answer, himage.after⟩
  fillRecvRec bytes h := h ▸ f.fillRecvRec bytes _
  recvRecAck length h := h ▸ f.recvRecAck length _
  sendAppBuf h :=
    have himage := Agree.of_image (h ▸ f.sendAppBuf _)
    ⟨congrArg List.length himage.answer, himage.after⟩
  storeSendApp := by
    rintro n b b' bytes rfl -
    rw [f.sendAppBuf, f.storeSendApp]
  sendAppAck h := h ▸ f.sendAppAck _ _
  recvAppBuf h := h ▸ f.recvAppBuf _
  recvAppAck length h := h ▸ f.recvAppAck length _
  flushApp force h := h ▸ f.flushApp force _
  reset server h := .of_image (h ▸ f.reset server _)
  sessionParameters h := h ▸ f.sessionParameters _
  offer p h := h ▸ f.offer p _
  injectEntropy bytes h := h ▸ f.injectEntropy bytes _
  now h := .of_image (h ▸ f.now _)
  delay ms h := h ▸ f.delay ms _
  headroom required h := .of_image (h ▸ f.headroom required _)

namespace Client

variable {β γ : Type} [Board β] [Board γ] {slots : Nat} (f : BoardMap β γ)

/-- the client on the other board -/
def carry (c : Client β slots) : Client γ slots where
  board := f.map c.board
  config := c.config
  sessions := c.sessions
  lifecycle := c.lifecycle
  backlog := c.backlog
  stats := c.stats
  abort := c.abort

/-- an answer and the client on the other board -/
def carryAnswer {α : Type} (r : α × Client β slots) : α × Client γ slots := (r.1, r.2.carry f)

/-- the clients that are like a client are that client on the other board -/
theorem alike_iff {c : Client β slots} {d : Client γ slots} : Alike f.likeness c d ↔ d = c.carry f := by
  constructor
  · rintro ⟨h⟩
    exact congrArg c.onto h
  · rintro rfl
    exact .onto rfl

variable (c : Client β slots)

/-- **A request does the same on both boards.** It is answered alike, or runs out of its budget on both. -/
theorem perform_carry (budget : Nat) (request : Request) :
    (c.carry f).perform budget request = (c.perform budget request).map (carryAnswer f) := by
  have hboth := ((alike_iff f).2 (Eq.refl (c.carry f))).perform budget request
  generalize c.perform budget request = x at hboth ⊢
  generalize (c.carry f).perform budget request = y at hboth ⊢
  cases hboth with
  | none => rfl
  | some hagree =>
    obtain ⟨reply, c', d', rfl, rfl, h'⟩ := hagree.parts
    rw [(alike_iff f).1 h']
    rfl

end Client

end TlsClient

/-
Opening and closing a connection.

- `connect`: open the socket, start a handshake that resumes a remembered session if there is one, wait for it, and
  remember the session the engine ends up with;
- `stop`: discard unread plaintext, send what is stored, close the socket; a second `stop` is harmless;
- `connected`: is the session usable right now? A socket that vanished under an open session is a failure.
-/
import TlsClient.Client.Write

namespace TlsClient.Client

variable {β : Type} [Board β] {slots : Nat}

/-- forget all that belongs to an earlier connection -/
def startAfresh (c : Client β slots) : Client β slots :=
  { c with lifecycle := c.lifecycle.clearStatus, backlog := .empty, stats := {}, abort := false }

/-- offer the session remembered for the server, if there is one -/
def offerSession (server : Option String) (c : Client β slots) : Client β slots :=
  match c.sessions.find? server with
  | some s => { c with board := Engine.offer s.parameters c.board }
  | none => c

/-- remember the session the engine ended up with; a server without a name has none -/
def keepSession (server : Option String) (c : Client β slots) : Client β slots :=
  match server with
  | some name => { c with sessions := (c.sessions.remember name (Engine.sessionParameters c.board)).2 }
  | none => c

/-- the handshake is over: what a failed wait means for the connect -/
def concludeHandshake (server : Option String) (waited : Except Error Unit × Client β slots) :
    Except Error Unit × Client β slots :=
  match waited with
  | (.ok (), c) => (.ok (), keepSession server { c with lifecycle := c.lifecycle.established })
  | (.error e, c) =>
    let c := if c.lifecycle.status.isOk then c.fail .engineConnect else c
    (.error (if e = .engineClosed then .status c.lifecycle.status else e), c)

/-- run the handshake over an open socket -/
def handshake (budget : Nat) (entropy : Bytes) (server : Option String) (c : Client β slots) : Result β slots Unit :=
  let c := { c with lifecycle := c.lifecycle.beginHandshake, board := Engine.injectEntropy entropy c.board }
  let c := c.offerSession server
  let started := Engine.reset server c.board
  let c := { c with board := started.2 }
  match started.1 with
  | .error _ => some (.error (.status .engineConnect), c.fail .engineConnect)
  | .ok () => (c.drive budget { sendApp := true }).map (concludeHandshake server)

/-- open a connection to a host and complete a handshake; `draw` yields that many bytes of entropy -/
def connect (budget : Nat) (draw : Nat → Bytes) (host : Host) (portNumber : Nat) (c : Client β slots) :
    Result β slots Unit :=
  let up := Transport.connected c.board
  let c := { c with board := up.2 }
  if up.1 then some (.error .alreadyConnected, c)
  else
    let c := c.startAfresh
    let opened := Transport.connect host portNumber c.board
    let c := { c with board := opened.2 }
    match opened.1 with
    | .error _ =>
      some (.error (.status .transportConnect), { c with lifecycle := c.lifecycle.fail .transportConnect })
    | .ok () => c.handshake budget (draw entropyLength) host.name?

/-- the graceful part of a shutdown: discard what `state` reports unread, send what is stored -/
def closeGracefully (budget : Nat) (state : EngineState) (c : Client β slots) : Option (Client β slots) :=
  let c := { c with lifecycle := c.lifecycle.closing }
  ((c.dropUnread state).flush budget).map Prod.snd

/-- close the connection; the outcome of the last flush does not matter -/
def stop (budget : Nat) (c : Client β slots) : Option (Client β slots) :=
  let state := Engine.state c.board
  if c.lifecycle.engineConnected && !state.closed && !state.isInvalid then
    let up := Transport.connected c.board
    let c := { c with board := up.2 }
    if up.1 then (c.closeGracefully budget state).map teardown else some c.teardown
  else some c.teardown

/-- is the session usable right now? -/
def connected (c : Client β slots) : Bool × Client β slots :=
  let up := Transport.connected c.board
  let c := { c with board := up.2 }
  let state := Engine.state c.board
  if c.lifecycle.engineConnected && !state.closed && !up.1 then (false, c.fail .transportWrite)
  else (c.lifecycle.verdict up.1 state, c)

end TlsClient.Client

/-
The boundary of a byte socket.

A socket is polled, never awaited: every operation returns at once. To move no byte of a non-empty buffer is the same
as a failure: the socket is gone. How many bytes a socket *claims* to have moved is not trusted; how many it did move
into a buffer is bounded by the buffer (`Reading`).
-/
import TlsClient.Error
import TlsClient.Net.Address

namespace TlsClient

/-- the far end of a connection -/
inductive Host where
  /-- a name, resolved by the transport -/
  | name (text : String)
  /-- a raw address; there is no name to check a certificate against -/
  | ip (address : IpAddress)
  deriving DecidableEq, Repr

namespace Host

/-- the name, if the far end was given by name -/
def name? : Host → Option String
  | .name text => some text
  | .ip _ => none

/-- the far end in words -/
def text : Host → String
  | .name text => text
  | .ip address => address.text

end Host

/-- why a socket operation failed -/
inductive SocketError where
  /-- the peer refused the connection -/
  | refused
  /-- the socket is broken or closed -/
  | broken
  deriving DecidableEq, Repr

namespace SocketError

/-- the identifier of a failure -/
def name : SocketError → String
  | .refused => "Refused"
  | .broken => "Broken"

/-- the failure in words -/
def message : SocketError → String
  | .refused => "Connection refused"
  | .broken => "Broken pipe"

/-- the coarse class of a failure -/
def kind : SocketError → IoKind
  | .refused => .connectionRefused
  | .broken => .brokenPipe

/-- the failure with a given identifier -/
def ofName? (name : String) : Option SocketError := [refused, broken].find? fun e => e.name == name

end SocketError

/-- what a read brought into a buffer of `room` bytes -/
structure Reading (room : Nat) where
  /-- the bytes at the front of the buffer -/
  moved : Bytes
  /-- how many bytes the socket says it has moved -/
  claimed : Nat
  fits : moved.length ≤ room

/-- a board whose state `β` holds a byte socket -/
class Transport (β : Type) where
  /-- open a connection to a host at a numbered service -/
  connect : Host → Nat → β → Except SocketError Unit × β
  /-- queue bytes for sending; returns how many were accepted -/
  write : Bytes → β → Except SocketError Nat × β
  /-- move received bytes into a buffer -/
  read : (room : Nat) → β → Except SocketError (Reading room) × β
  /-- how many received bytes are ready -/
  available : β → Except SocketError Nat × β
  /-- push queued bytes onto the wire -/
  flush : β → Except SocketError Unit × β
  /-- close the socket, open or not -/
  stop : β → β
  /-- is the socket open? -/
  connected : β → Bool × β

end TlsClient

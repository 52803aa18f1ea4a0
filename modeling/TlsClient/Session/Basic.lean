/-
One resumable session.

A session belongs to the host it was asked for and holds the parameters the engine ended up with. It is valid if the
engine issued an id and the host, if one was asked for, has a name at all.
-/
import TlsClient.Session.Parameters

namespace TlsClient

/-- longest host name in bytes of its UTF-8 form -/
def maxHostLength : Nat := 255

/-- what is known about resuming a session with a host -/
structure Session where
  /-- the host the session is for; none for a raw address -/
  host : Option String
  /-- can the session be offered? -/
  valid : Bool
  /-- what to offer -/
  parameters : SessionParameters
  deriving DecidableEq, Repr

/-- a change to a session -/
inductive SessionChange where
  /-- put the parameters of a handshake in -/
  | store (parameters : SessionParameters)
  /-- take the parameters out -/
  | clear
  deriving DecidableEq, Repr

namespace Session

/-- an empty session for a host, unless the host name is too long -/
def new? (host : Option String) : Option Session :=
  if host.all fun name => name.utf8ByteSize ≤ maxHostLength then some ⟨host, false, .empty⟩ else none

/-- put the parameters of a handshake in; they are kept even if they leave the session invalid -/
def store (s : Session) (p : SessionParameters) : Session :=
  { s with valid := p.resumable && s.host.all fun name => !name.isEmpty, parameters := p }

/-- take the parameters out -/
def clear (s : Session) : Session := { s with valid := false, parameters := .empty }

/-- change a session -/
def change (s : Session) : SessionChange → Session
  | .store p => s.store p
  | .clear => s.clear

/-- is the session for the host of that name? -/
def isFor (s : Session) (name : String) : Bool := s.host == some name

end Session

end TlsClient

/-
A simulated socket.

Bytes that the peer has sent wait in `incoming`; all bytes the socket accepts end up in `written`. Settings make it move
bytes in small chunks, fail, refuse to connect, or claim to have moved more than it has. A claim has no limit
either: the overflow of a count of 64 bits is not modelled.
- `connect`, `write`, `read`, …: what a socket can be asked to do;
- `SocketEdit`, `edit`: changes from outside.
-/
import TlsClient.Net.Transport

namespace TlsClient

/-- the state of a simulated socket -/
structure SimSocket where
  /-- does the peer accept a connection? -/
  acceptsConnect : Bool := true
  /-- is the socket open? -/
  isConnected : Bool := false
  /-- sent by the peer, not yet read -/
  incoming : Bytes := []
  /-- accepted for sending, oldest first -/
  written : Bytes := []
  /-- most bytes accepted by one write -/
  writeChunk : Option Nat := none
  /-- most bytes reported by one poll -/
  availableChunk : Option Nat := none
  failWrites : Bool := false
  failReads : Bool := false
  /-- claim that many bytes more than were moved -/
  overreport : Nat := 0
  /-- the host of the last connect, in words -/
  lastHost : Option String := none
  connectCalls : Nat := 0
  writeCalls : Nat := 0
  polls : Nat := 0
  flushes : Nat := 0
  stops : Nat := 0
  deriving DecidableEq, Repr, Inhabited

/-- a change to a simulated socket from outside -/
inductive SocketEdit where
  | acceptsConnect (yes : Bool)
  | isConnected (yes : Bool)
  | failWrites (yes : Bool)
  | failReads (yes : Bool)
  | writeChunk (limit : Option Nat)
  | availableChunk (limit : Option Nat)
  | overreport (count : Nat)
  /-- the peer sends bytes -/
  | push (bytes : Bytes)
  deriving DecidableEq, Repr

/-- the smaller of a count and a limit, if there is one -/
def capAt (limit : Option Nat) (count : Nat) : Nat :=
  match limit with
  | none => count
  | some limit => min count limit

theorem capAt_le (limit : Option Nat) (count : Nat) : capAt limit count ≤ count := by
  cases limit with
  | none => exact Nat.le_refl _
  | some limit => exact Nat.min_le_left _ _

namespace SimSocket

/-- make a change from outside -/
def edit (s : SimSocket) : SocketEdit → SimSocket
  | .acceptsConnect yes => { s with acceptsConnect := yes }
  | .isConnected yes => { s with isConnected := yes }
  | .failWrites yes => { s with failWrites := yes }
  | .failReads yes => { s with failReads := yes }
  | .writeChunk limit => { s with writeChunk := limit }
  | .availableChunk limit => { s with availableChunk := limit }
  | .overreport count => { s with overreport := count }
  | .push bytes => { s with incoming := s.incoming ++ bytes }

/-- take all that was written -/
def takeWritten (s : SimSocket) : Bytes × SimSocket := (s.written, { s with written := [] })

/-- a refused connect leaves the socket as open or closed as it was -/
def connect (host : Host) (_portNumber : Nat) (s : SimSocket) : Except SocketError Unit × SimSocket :=
  let s := { s with connectCalls := s.connectCalls + 1, lastHost := some host.text }
  if s.acceptsConnect then (.ok (), { s with isConnected := true }) else (.error .refused, s)

/-- accept up to a chunk of bytes, if the socket is open -/
def write (bytes : Bytes) (s : SimSocket) : Except SocketError Nat × SimSocket :=
  let s := { s with writeCalls := s.writeCalls + 1 }
  if s.failWrites || !s.isConnected then (.error .broken, s)
  else
    let count := capAt s.writeChunk bytes.length
    (.ok (count + s.overreport), { s with written := s.written ++ bytes.take count })

/-- move what the peer has sent, whether or not the socket is still open -/
def read (room : Nat) (s : SimSocket) : Except SocketError (Reading room) × SimSocket :=
  if s.failReads then (.error .broken, s)
  else
    let count := min room s.incoming.length
    (.ok ⟨s.incoming.take count, count + s.overreport, by simp; omega⟩, { s with incoming := s.incoming.drop count })

/-- poll; never fails -/
def available (s : SimSocket) : Except SocketError Nat × SimSocket :=
  (.ok (capAt s.availableChunk s.incoming.length), { s with polls := s.polls + 1 })

/-- nothing is queued, so there is nothing to push -/
def flush (s : SimSocket) : Except SocketError Unit × SimSocket := (.ok (), { s with flushes := s.flushes + 1 })

/-- close the socket -/
def stop (s : SimSocket) : SimSocket := { s with stops := s.stops + 1, isConnected := false }

/-- is the socket open? -/
def connected (s : SimSocket) : Bool × SimSocket := (s.isConnected, s)

end SimSocket

end TlsClient

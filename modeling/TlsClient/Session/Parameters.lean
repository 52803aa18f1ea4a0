/-
Resumable session parameters.

An engine hands them out after a handshake and takes them back byte for byte. Outside the engine only one thing is
read off them: without a session id they cannot be resumed.
-/
import TlsClient.Bytes

namespace TlsClient

/-- longest session id in bytes -/
def maxSessionIdLength : Nat := 32

/-- most bytes an engine may keep beside the id -/
def maxSessionDataLength : Nat := 64

/-- what an engine needs to resume a session -/
structure SessionParameters where
  /-- the session id; empty if the engine issued none -/
  id : Bytes
  /-- the rest, opaque outside the engine -/
  data : Bytes
  id_fits : id.length ≤ maxSessionIdLength
  data_fits : data.length ≤ maxSessionDataLength
  deriving DecidableEq, Repr

namespace SessionParameters

/-- no id and no data: nothing to resume -/
def empty : SessionParameters := ⟨[], [], by decide, by decide⟩

instance : Inhabited SessionParameters := ⟨empty⟩

/-- parameters from their two parts, unless one of them is too long -/
def new? (id data : Bytes) : Option SessionParameters :=
  if h : id.length ≤ maxSessionIdLength ∧ data.length ≤ maxSessionDataLength then some ⟨id, data, h.1, h.2⟩ else none

/-- did the engine issue an id that can be offered again? -/
def resumable (p : SessionParameters) : Bool := !p.id.isEmpty

theorem new?_eq_some_iff {id data : Bytes} {p : SessionParameters} : new? id data = some p ↔ p.id = id ∧ p.data = data := by
  unfold new?
  constructor
  · intro h
    split at h
    · cases h; exact ⟨rfl, rfl⟩
    · cases h
  · rintro ⟨rfl, rfl⟩
    simp [p.id_fits, p.data_fits]

end SessionParameters

end TlsClient

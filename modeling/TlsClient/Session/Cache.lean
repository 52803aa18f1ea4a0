/-
The session cache: at most `slots` sessions, oldest first, keyed by exact host name.

Sessions leave in the order they came. A look-up finds valid sessions only and moves nothing; to remember or to remove
matches an entry of the host whether it is valid or not.
- `find?`, `amend`: look a valid session up, change it in place;
- `remember`: refresh the entry of a host in place, or append one and drop the oldest if the cache is full; parameters
  that cannot be resumed drop the entry of the host;
- `CacheCall`, `apply`, `run`: the operations as data, and histories of them.
-/
import TlsClient.Session.Basic

namespace TlsClient

/-- the sessions a client remembers, oldest first -/
structure SessionCache (slots : Nat) where
  entries : List Session := []
  deriving DecidableEq, Repr

/-- change the first element that passes a test -/
def changeFirst {α : Type} (test : α → Bool) (change : α → α) : List α → List α
  | [] => []
  | a :: rest => if test a then change a :: rest else a :: changeFirst test change rest

namespace SessionCache

variable {slots : Nat}

/-- no session -/
def empty : SessionCache slots := {}

instance : Inhabited (SessionCache slots) := ⟨empty⟩

/-- how many sessions are held -/
def size (c : SessionCache slots) : Nat := c.entries.length

/-- how many sessions can be held -/
def capacity (_ : SessionCache slots) : Nat := slots

/-- the valid session of a host; a raw address has none -/
def find? (c : SessionCache slots) : Option String → Option Session
  | none => none
  | some name => c.entries.find? fun s => s.valid && s.isFor name

/-- change the valid session of a host in place -/
def amend (c : SessionCache slots) (host : Option String) (change : Session → Session) : SessionCache slots :=
  match host with
  | none => c
  | some name => ⟨changeFirst (fun s => s.valid && s.isFor name) change c.entries⟩

/-- drop the entry of a host, valid or not -/
def remove (c : SessionCache slots) : Option String → SessionCache slots
  | none => c
  | some name => ⟨c.entries.eraseP (·.isFor name)⟩

/-- drop the oldest entry if no slot is free -/
def makeRoom (c : SessionCache slots) : SessionCache slots :=
  if slots ≤ c.entries.length then ⟨c.entries.tail⟩ else c

/-- append a new entry for a host, if parameters and name make a valid session -/
def append (c : SessionCache slots) (name : String) (p : SessionParameters) : Bool × SessionCache slots :=
  match Session.new? (some name) with
  | none => (false, c)
  | some fresh =>
    let s := fresh.store p
    if s.valid then (true, ⟨c.makeRoom.entries ++ [s]⟩) else (false, c)

/-- keep the parameters of a handshake with a host; tells whether a usable entry is left -/
def remember (c : SessionCache slots) (name : String) (p : SessionParameters) : Bool × SessionCache slots :=
  if slots = 0 then (false, c)
  else if !p.resumable then (false, c.remove (some name))
  else match c.entries.find? (·.isFor name) with
    | some s => ((s.store p).valid, ⟨changeFirst (·.isFor name) (·.store p) c.entries⟩)
    | none => c.append name p

/-- drop every entry -/
def clear (_ : SessionCache slots) : SessionCache slots := empty

end SessionCache

/-! ## Operations as data -/

/-- an operation on a cache -/
inductive CacheCall where
  | remember (name : String) (parameters : SessionParameters)
  /-- look a session up and, if it is found, perhaps change it in place -/
  | find (host : Option String) (change : Option SessionChange)
  | remove (host : Option String)
  | clear
  deriving DecidableEq, Repr

/-- what an operation on a cache answers -/
inductive CacheAnswer where
  | none
  | stored (yes : Bool)
  | found (session : Option Session)
  deriving DecidableEq, Repr

namespace SessionCache

variable {slots : Nat}

/-- one operation; a look-up answers the session after the change -/
def apply (c : SessionCache slots) : CacheCall → CacheAnswer × SessionCache slots
  | .remember name p => let (yes, c) := c.remember name p; (.stored yes, c)
  | .find host none => (.found (c.find? host), c)
  | .find host (some change) => (.found ((c.find? host).map (·.change change)), c.amend host (·.change change))
  | .remove host => (.none, c.remove host)
  | .clear => (.none, c.clear)

/-- a history of operations -/
def run (c : SessionCache slots) (calls : List CacheCall) : SessionCache slots :=
  calls.foldl (fun c call => (c.apply call).2) c

end SessionCache

end TlsClient

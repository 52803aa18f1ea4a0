/-
What the session cache keeps, and in which order.

- `Orderly`: at most `slots` entries, of pairwise distinct hosts whose names fit, each valid exactly if it has an id to
  offer. Every operation keeps this (`Orderly.apply`), so it holds after every history (`Orderly.run`);
- `Keepable`: the parameters that a cache can keep for a name;
- `Orderly.remember_eq`: to remember refreshes the entry of the host where it stands, or appends one, or leaves the host
  without an entry. What a later look-up finds, and what happens to other hosts, is read off this equation;
- `Leaves`: what an operation does to the order of the entries and to the entries of other hosts;
- `cache_laws`: all of it, for every cache that a history leads to.
Between distinct hosts it makes no difference whether an operation reaches the first entry that passes its test or every
one (`changeFirst_eq_map`, `eraseP_eq_filter`).
-/
import Mathlib.Data.List.Nodup
import Mathlib.Tactic.SplitIfs
import TlsClient.Session.Cache

namespace TlsClient

/-! ## Tests that at most one element passes -/

section AtMostOne

variable {α : Type} {test : α → Bool} {l : List α}

/-- to change the first element that passes is to change every one, if no two pass -/
theorem changeFirst_eq_map {change : α → α} (hone : l.Pairwise fun a b => test a = true → test b = false) :
    changeFirst test change l = l.map fun a => if test a then change a else a := by
  induction l with
  | nil => rfl
  | cons a rest ih =>
    obtain ⟨hrest, hone⟩ := List.pairwise_cons.1 hone
    cases ha : test a with
    | true =>
      have hsame : rest.map (fun b => if test b then change b else b) = rest := by
        calc rest.map (fun b => if test b then change b else b)
            = rest.map id := List.map_congr_left fun b hb => if_neg (by simp [hrest b hb ha])
          _ = rest := List.map_id rest
      simp [changeFirst, ha, hsame]
    | false => simp [changeFirst, ha, ih hone]

/-- to drop the first element that passes is to drop every one, if no two pass -/
theorem eraseP_eq_filter (hone : l.Pairwise fun a b => test a = true → test b = false) :
    l.eraseP test = l.filter fun a => !test a := by
  induction l with
  | nil => rfl
  | cons a rest ih =>
    obtain ⟨hrest, hone⟩ := List.pairwise_cons.1 hone
    cases ha : test a with
    | true =>
      have hall : rest.filter (fun b => !test b) = rest := by
        apply List.filter_eq_self.2
        intro b hb
        simp [hrest b hb ha]
      simp [ha, hall]
    | false => simp [ha, ih hone]

end AtMostOne

/-! ## Sessions -/

theorem SessionParameters.resumable_iff {p : SessionParameters} : p.resumable = true ↔ p.id ≠ [] := by
  simp [resumable]

namespace Session

theorem isFor_iff {s : Session} {name : String} : s.isFor name = true ↔ s.host = some name := by simp [isFor]

/-- the valid session of a named host -/
def fresh (name : String) (p : SessionParameters) : Session := ⟨some name, true, p⟩

/-- a session as a cache keeps it: its host has a name that fits, and it is valid exactly if it has an id to offer -/
structure Kept (s : Session) : Prop where
  named : ∃ name, s.host = some name ∧ 0 < name.utf8ByteSize ∧ name.utf8ByteSize ≤ maxHostLength
  valid_iff : s.valid = true ↔ s.parameters.id ≠ []

/-- a session whose host has a name is valid with all parameters that can be resumed -/
theorem store_valid {s : Session} {name : String} (hhost : s.host = some name) (hpos : 0 < name.utf8ByteSize)
    (p : SessionParameters) : (s.store p).valid = p.resumable := by
  have hname : name ≠ "" := by
    rintro rfl
    exact absurd hpos (by decide)
  simp [store, hhost, hname]

/-- a session of the host becomes fresh, any other stays as it is -/
def renew (s : Session) (name : String) (p : SessionParameters) : Session := if s.isFor name then fresh name p else s

theorem host_renew (s : Session) (name : String) (p : SessionParameters) : (s.renew name p).host = s.host := by
  unfold renew
  split_ifs with hfor
  · exact (isFor_iff.1 hfor).symm
  · rfl

/-- a valid session of the host is changed, any other stays as it is -/
def revise (s : Session) (name : String) (change : SessionChange) : Session :=
  if s.valid && s.isFor name then s.change change else s

theorem host_revise (s : Session) (name : String) (change : SessionChange) : (s.revise name change).host = s.host := by
  unfold revise
  split_ifs
  · cases change <;> rfl
  · rfl

theorem Kept.change {s : Session} (h : s.Kept) (change : SessionChange) : (s.change change).Kept := by
  obtain ⟨name, hhost, hpos, hfits⟩ := h.named
  cases change with
  | store p =>
    refine ⟨⟨name, hhost, hpos, hfits⟩, ?_⟩
    rw [Session.change, store_valid hhost hpos]
    exact SessionParameters.resumable_iff
  | clear => exact ⟨⟨name, hhost, hpos, hfits⟩, by simp [Session.change, clear, SessionParameters.empty]⟩

end Session

/-- can a cache keep these parameters for a host of that name? -/
def Keepable (slots : Nat) (name : String) (p : SessionParameters) : Prop :=
  0 < slots ∧ p.id ≠ [] ∧ 0 < name.utf8ByteSize ∧ name.utf8ByteSize ≤ maxHostLength

instance (slots : Nat) (name : String) (p : SessionParameters) : Decidable (Keepable slots name p) :=
  inferInstanceAs (Decidable (_ ∧ _ ∧ _ ∧ _))

theorem Keepable.fresh {slots : Nat} {name : String} {p : SessionParameters} (h : Keepable slots name p) :
    (Session.fresh name p).Kept :=
  ⟨⟨name, rfl, h.2.2⟩, ⟨fun _ => h.2.1, fun _ => rfl⟩⟩

namespace SessionCache

variable {slots : Nat}

/-- the hosts of the entries, oldest first -/
def hosts (c : SessionCache slots) : List (Option String) := c.entries.map Session.host

/-- is there an entry of the host, valid or not? -/
def Holds (c : SessionCache slots) (name : String) : Prop := ∃ s ∈ c.entries, s.host = some name

instance (c : SessionCache slots) (name : String) : Decidable (c.Holds name) :=
  inferInstanceAs (Decidable (∃ s ∈ c.entries, s.host = some name))

/-- the entries of all hosts but one; without a host, all entries -/
def others (c : SessionCache slots) : Option String → List Session
  | none => c.entries
  | some name => c.entries.filter fun s => !s.isFor name

theorem holds_iff {c : SessionCache slots} {name : String} : c.Holds name ↔ some name ∈ c.hosts := by
  simp [Holds, hosts]

theorem others_of_absent {c : SessionCache slots} {name : String} (h : ¬c.Holds name) :
    c.others (some name) = c.entries := by
  apply List.filter_eq_self.2
  intro s hs
  have hhost : ¬s.isFor name = true := fun hfor => h ⟨s, hs, Session.isFor_iff.1 hfor⟩
  simp [hhost]

/-- entries changed in place leave the hosts where they are -/
theorem hosts_map {c : SessionCache slots} {change : Session → Session} (hhost : ∀ s, (change s).host = s.host) :
    (⟨c.entries.map change⟩ : SessionCache slots).hosts = c.hosts := by
  rw [hosts, List.map_map]
  exact List.map_congr_left fun s _ => hhost s

/-- entries changed in place leave the entries of other hosts alone -/
theorem others_map {c : SessionCache slots} {name : String} {change : Session → Session}
    (hhost : ∀ s, (change s).host = s.host) (hother : ∀ s, s.isFor name = false → change s = s) :
    (⟨c.entries.map change⟩ : SessionCache slots).others (some name) = c.others (some name) := by
  have hfor : ∀ s, (change s).isFor name = s.isFor name := fun s => by simp [Session.isFor, hhost s]
  simp only [others, List.filter_map, Function.comp_def, hfor]
  calc (c.entries.filter fun s => !s.isFor name).map change
      = (c.entries.filter fun s => !s.isFor name).map id := by
        apply List.map_congr_left
        intro s hs
        exact hother s (by simpa using (List.mem_filter.1 hs).2)
    _ = c.entries.filter fun s => !s.isFor name := List.map_id _

/-! ## Caches in order -/

/-- at most `slots` entries, of pairwise distinct hosts, each as a cache keeps it -/
structure Orderly (c : SessionCache slots) : Prop where
  fits : c.size ≤ slots
  kept : ∀ s ∈ c.entries, s.Kept
  distinct : c.hosts.Nodup

theorem Orderly.empty : (SessionCache.empty : SessionCache slots).Orderly := ⟨Nat.zero_le _, nofun, List.nodup_nil⟩

section Orderly

variable {c : SessionCache slots} (h : c.Orderly)

include h

/-- there is one entry of a host -/
theorem Orderly.unique {s t : Session} (hs : s ∈ c.entries) (ht : t ∈ c.entries) (hhost : s.host = t.host) : s = t :=
  List.inj_on_of_nodup_map h.distinct hs ht hhost

/-- a test that only entries of one host pass is passed by at most one -/
theorem Orderly.one_passes {test : Session → Bool} (name : String) (htest : ∀ s, test s = true → s.host = some name) :
    c.entries.Pairwise fun s t => test s = true → test t = false := by
  have hdistinct : c.entries.Pairwise fun s t => s.host ≠ t.host := List.pairwise_map.1 h.distinct
  apply hdistinct.imp
  intro s t hne hs
  apply Bool.eq_false_iff.2
  intro ht
  exact hne ((htest s hs).trans (htest t ht).symm)

/-- what a look-up finds is the valid entry of the host -/
theorem Orderly.find?_eq_some_iff {name : String} {s : Session} :
    c.find? (some name) = some s ↔ s ∈ c.entries ∧ s.valid = true ∧ s.host = some name := by
  constructor
  · intro hfind
    have hpass := List.find?_some hfind
    rw [Bool.and_eq_true, Session.isFor_iff] at hpass
    exact ⟨List.mem_of_find?_eq_some hfind, hpass⟩
  · rintro ⟨hs, hvalid, hhost⟩
    have hsome : (c.find? (some name)).isSome = true := by
      apply List.find?_isSome.2
      exact ⟨s, hs, by simp [hvalid, Session.isFor_iff.2 hhost]⟩
    obtain ⟨t, ht⟩ := Option.isSome_iff_exists.1 hsome
    have hpass := List.find?_some ht
    rw [Bool.and_eq_true, Session.isFor_iff] at hpass
    rw [ht, h.unique (List.mem_of_find?_eq_some ht) hs (hpass.2.trans hhost.symm)]

/-- a cache of some of the entries -/
theorem Orderly.of_sublist {entries : List Session} (hsub : entries.Sublist c.entries) :
    (⟨entries⟩ : SessionCache slots).Orderly where
  fits := Nat.le_trans hsub.length_le h.fits
  kept s hs := h.kept s (hsub.subset hs)
  distinct := (hsub.map Session.host).nodup h.distinct

/-- entries changed in place -/
theorem Orderly.of_map {change : Session → Session} (hhost : ∀ s, (change s).host = s.host)
    (hkept : ∀ s, s.Kept → (change s).Kept) : (⟨c.entries.map change⟩ : SessionCache slots).Orderly where
  fits := by
    rw [size, List.length_map]
    exact h.fits
  kept s hs := by
    obtain ⟨t, ht, rfl⟩ := List.mem_map.1 hs
    exact hkept t (h.kept t ht)
  distinct := by
    rw [hosts_map hhost]
    exact h.distinct

/-! ## Operations -/

theorem Orderly.amend_eq (name : String) (change : SessionChange) :
    c.amend (some name) (·.change change) = ⟨c.entries.map (·.revise name change)⟩ := by
  have htest : ∀ s : Session, (s.valid && s.isFor name) = true → s.host = some name := by
    intro s hpass
    rw [Bool.and_eq_true, Session.isFor_iff] at hpass
    exact hpass.2
  have hone := h.one_passes name htest
  rw [amend, changeFirst_eq_map hone]
  rfl

theorem Orderly.remove_eq (name : String) : c.remove (some name) = ⟨c.others (some name)⟩ := by
  have hone := h.one_passes name fun _ => Session.isFor_iff.1
  rw [remove, eraseP_eq_filter hone, others]

theorem Orderly.makeRoom_eq : c.makeRoom.entries = if c.size = slots then c.entries.tail else c.entries := by
  have hfits : c.entries.length ≤ slots := h.fits
  unfold makeRoom size
  split_ifs
  · rfl
  · omega
  · omega
  · rfl

end Orderly

/-- the entry of the host is refreshed where it stands -/
def refreshed (c : SessionCache slots) (name : String) (p : SessionParameters) : SessionCache slots :=
  ⟨c.entries.map (·.renew name p)⟩

/-- a new entry comes last; if no slot is free, the oldest entry goes -/
def appended (c : SessionCache slots) (name : String) (p : SessionParameters) : SessionCache slots :=
  ⟨c.makeRoom.entries ++ [.fresh name p]⟩

/-- what becomes of an entry appended for a host -/
theorem append_eq {c : SessionCache slots} {name : String} {p : SessionParameters} (hresumable : p.resumable = true) :
    c.append name p =
      if 0 < name.utf8ByteSize ∧ name.utf8ByteSize ≤ maxHostLength then (true, c.appended name p) else (false, c) := by
  have hvalid : (⟨some name, false, .empty⟩ : Session).store p = ⟨some name, !name.isEmpty, p⟩ := by
    simp [Session.store, hresumable]
  by_cases hfits : name.utf8ByteSize ≤ maxHostLength
  · by_cases hpos : 0 < name.utf8ByteSize
    · have hname : name.isEmpty = false := by
        apply Bool.eq_false_iff.2
        intro hempty
        rw [String.isEmpty_iff.1 hempty] at hpos
        exact absurd hpos (by decide)
      simp [append, Session.new?, hfits, hpos, hvalid, hname, appended, Session.fresh]
    · have hname : name.isEmpty = true := by
        simp [Nat.eq_zero_of_not_pos hpos, String.isEmpty]
      simp [append, Session.new?, hfits, hpos, hvalid, hname]
  · simp [append, Session.new?, hfits]

section Operations

variable {c : SessionCache slots} (h : c.Orderly)

include h

/-- the name of a host with an entry fits -/
theorem Orderly.name_fits {s : Session} {name : String} (hs : s ∈ c.entries) (hhost : s.host = some name) :
    0 < name.utf8ByteSize ∧ name.utf8ByteSize ≤ maxHostLength := by
  obtain ⟨name', hname', hfits⟩ := (h.kept s hs).named
  obtain rfl : name' = name := Option.some.inj (hname'.symm.trans hhost)
  exact hfits

theorem Orderly.refresh_eq {name : String} {p : SessionParameters} (hresumable : p.resumable = true) :
    (⟨changeFirst (·.isFor name) (·.store p) c.entries⟩ : SessionCache slots) = c.refreshed name p := by
  have hone := h.one_passes name fun _ => Session.isFor_iff.1
  rw [changeFirst_eq_map hone, refreshed]
  congr 1
  apply List.map_congr_left
  intro s hs
  unfold Session.renew
  split_ifs with hfor
  · have hhost := Session.isFor_iff.1 hfor
    have hvalid : (s.store p).valid = true := (Session.store_valid hhost (h.name_fits hs hhost).1 p).trans hresumable
    calc s.store p = ⟨s.host, (s.store p).valid, p⟩ := rfl
      _ = .fresh name p := by rw [hhost, hvalid, Session.fresh]
  · rfl

/-- **What to remember does.** Parameters that can be kept refresh the entry of the host or append one; whatever cannot
be kept leaves no entry of the host. -/
theorem Orderly.remember_eq (name : String) (p : SessionParameters) :
    c.remember name p =
      if Keepable slots name p then (true, if c.Holds name then c.refreshed name p else c.appended name p)
      else (false, ⟨c.others (some name)⟩) := by
  unfold remember
  by_cases hslots : slots = 0
  · -- without a slot there are no entries
    have hnone : c.entries = [] := by
      apply List.eq_nil_of_length_eq_zero
      have hfits : c.entries.length ≤ slots := h.fits
      omega
    have hothers : c.others (some name) = c.entries := by simp [others, hnone]
    rw [if_pos hslots, if_neg (fun hkeep => absurd hkeep.1 (by omega)), hothers]
  rw [if_neg hslots]
  by_cases hresumable : p.resumable = true
  · have hid : p.id ≠ [] := SessionParameters.resumable_iff.1 hresumable
    have hkeep : Keepable slots name p ↔ 0 < name.utf8ByteSize ∧ name.utf8ByteSize ≤ maxHostLength := by
      simp [Keepable, Nat.pos_of_ne_zero hslots, hid]
    rw [if_neg (by simp [hresumable])]
    cases hfind : c.entries.find? (·.isFor name) with
    | some s =>
      have hs := List.mem_of_find?_eq_some hfind
      have hfor : s.isFor name = true := by simpa using List.find?_some hfind
      have hhost := Session.isFor_iff.1 hfor
      have hname := h.name_fits hs hhost
      rw [if_pos (hkeep.2 hname), if_pos ⟨s, hs, hhost⟩]
      simp only [Session.store_valid hhost hname.1, hresumable, h.refresh_eq hresumable]
    | none =>
      have habsent : ¬c.Holds name := by
        rintro ⟨s, hs, hhost⟩
        exact List.find?_eq_none.1 hfind s hs (Session.isFor_iff.2 hhost)
      simp only [append_eq hresumable, hkeep, if_neg habsent, others_of_absent habsent]
  · rw [if_pos (by simpa using hresumable), h.remove_eq, if_neg]
    intro hkeep
    exact hresumable (SessionParameters.resumable_iff.2 hkeep.2.1)

end Operations

/-! ## Every operation keeps the order -/

section Kept

variable {c : SessionCache slots} {name : String} {p : SessionParameters}

theorem makeRoom_sublist : c.makeRoom.entries.Sublist c.entries := by
  unfold makeRoom
  split_ifs
  · exact List.tail_sublist _
  · exact List.Sublist.refl _

theorem others_sublist (host : Option String) : (c.others host).Sublist c.entries := by
  cases host with
  | none => exact List.Sublist.refl _
  | some name => exact List.filter_sublist

variable (h : c.Orderly)

include h

theorem Orderly.refreshed (hkeep : Keepable slots name p) : (c.refreshed name p).Orderly := by
  apply h.of_map fun s => s.host_renew name p
  intro s hs
  unfold Session.renew
  split_ifs
  · exact hkeep.fresh
  · exact hs

theorem Orderly.appended (hkeep : Keepable slots name p) (habsent : ¬c.Holds name) : (c.appended name p).Orderly where
  fits := by
    have hfits : c.entries.length ≤ slots := h.fits
    have hslots := hkeep.1
    rw [size, SessionCache.appended, List.length_append, List.length_singleton, h.makeRoom_eq]
    split_ifs with hfull
    · rw [List.length_tail]
      omega
    · have hfree : c.entries.length ≠ slots := hfull
      omega
  kept s hs := by
    rcases List.mem_append.1 hs with hs | hs
    · exact h.kept s (makeRoom_sublist.subset hs)
    · rw [List.mem_singleton.1 hs]
      exact hkeep.fresh
  distinct := by
    have hroom : (c.makeRoom.entries.map Session.host).Sublist c.hosts := makeRoom_sublist.map _
    rw [hosts, SessionCache.appended, List.map_append]
    apply (hroom.nodup h.distinct).append (List.nodup_singleton _)
    intro host hmem hlast
    rw [List.mem_singleton.1 hlast] at hmem
    exact habsent (holds_iff.2 (hroom.subset hmem))

theorem Orderly.remember (name : String) (p : SessionParameters) : (c.remember name p).2.Orderly := by
  rw [h.remember_eq]
  split_ifs with hkeep hholds
  · exact h.refreshed hkeep
  · exact h.appended hkeep hholds
  · exact h.of_sublist (others_sublist _)

theorem Orderly.amend (host : Option String) (change : SessionChange) :
    (c.amend host (·.change change)).Orderly := by
  cases host with
  | none => exact h
  | some name =>
    rw [h.amend_eq]
    apply h.of_map fun s => s.host_revise name change
    intro s hs
    unfold Session.revise
    split_ifs
    · exact hs.change change
    · exact hs

/-- **Every operation keeps the cache in order.** -/
theorem Orderly.apply (call : CacheCall) : (c.apply call).2.Orderly := by
  cases call with
  | remember name p => exact h.remember name p
  | find host change =>
    cases change with
    | none => exact h
    | some change => exact h.amend host change
  | remove host =>
    cases host with
    | none => exact h
    | some name =>
      show (c.remove (some name)).Orderly
      rw [h.remove_eq]
      exact h.of_sublist (others_sublist _)
  | clear => exact .empty

end Kept

/-- **A cache is in order after every history.** -/
theorem Orderly.run {c : SessionCache slots} (h : c.Orderly) (calls : List CacheCall) : (c.run calls).Orderly := by
  induction calls generalizing c with
  | nil => exact h
  | cons call calls ih => exact ih (h.apply call)

/-! ## What an operation leaves -/

/-- the host that an operation appends an entry for -/
def appends (c : SessionCache slots) : CacheCall → Option String
  | .remember name p => if (c.remember name p).1 ∧ ¬c.Holds name then some name else none
  | _ => none

end SessionCache

/-- the host that an operation names -/
def CacheCall.host? : CacheCall → Option String
  | .remember name _ => some name
  | .find host _ => host
  | .remove host => host
  | .clear => none

namespace SessionCache

variable {slots : Nat}

/-- what an operation that leads from `c` to `c'` leaves of the order and of the entries of other hosts -/
structure Leaves (c : SessionCache slots) (call : CacheCall) (c' : SessionCache slots) : Prop where
  /-- the entries that stay keep their order; a new one comes last -/
  order : ∃ stay, stay.Sublist c.hosts ∧ c'.hosts = stay ++ (c.appends call).toList.map some
  /-- entries of other hosts stay as they are; only the oldest goes, if an entry is appended to a full cache -/
  others : call ≠ .clear → c'.others call.host? =
    if (c.appends call).isSome ∧ c.size = slots then c.entries.tail else c.others call.host?

section Leaves

variable {c : SessionCache slots} {name : String} {p : SessionParameters}

/-- an operation that appends nothing and leaves the entries of other hosts -/
theorem Leaves.of_stay {c' : SessionCache slots} {call : CacheCall} (hnone : c.appends call = none)
    (hstay : c'.hosts.Sublist c.hosts) (hothers : call ≠ .clear → c'.others call.host? = c.others call.host?) :
    c.Leaves call c' where
  order := ⟨c'.hosts, hstay, by simp [hnone]⟩
  others hne := by simp [hnone, hothers hne]

theorem not_holds_others (name : String) : ¬(⟨c.others (some name)⟩ : SessionCache slots).Holds name := by
  rintro ⟨s, hs, hhost⟩
  have hother := (List.mem_filter.1 hs).2
  simp [Session.isFor_iff.2 hhost] at hother

theorem find?_of_absent (habsent : ¬c.Holds name) : c.find? (some name) = none := by
  apply List.find?_eq_none.2
  intro s hs hpass
  rw [Bool.and_eq_true, Session.isFor_iff] at hpass
  exact habsent ⟨s, hs, hpass.2⟩

theorem others_refreshed : (c.refreshed name p).others (some name) = c.others (some name) := by
  apply others_map fun s => s.host_renew name p
  intro s hfor
  simp [Session.renew, hfor]

theorem others_appended (habsent : ¬c.Holds name) : (c.appended name p).others (some name) = c.makeRoom.entries := by
  have hroom : ∀ s ∈ c.makeRoom.entries, (!s.isFor name) = true := by
    intro s hs
    have hhost : ¬s.isFor name = true := fun hfor => habsent ⟨s, makeRoom_sublist.subset hs, Session.isFor_iff.1 hfor⟩
    simp [hhost]
  simp [others, appended, List.filter_eq_self.2 hroom, Session.isFor_iff, Session.fresh]

variable (h : c.Orderly)

include h

/-- what a look-up finds once parameters were to be remembered -/
theorem Orderly.find?_remember (name : String) (p : SessionParameters) :
    (c.remember name p).2.find? (some name) = if Keepable slots name p then some (.fresh name p) else none := by
  have hc := h.remember name p
  rw [h.remember_eq] at hc ⊢
  split_ifs at hc ⊢ with hkeep hholds
  · obtain ⟨s, hs, hhost⟩ := hholds
    apply hc.find?_eq_some_iff.2
    exact ⟨List.mem_map.2 ⟨s, hs, if_pos (Session.isFor_iff.2 hhost)⟩, rfl, rfl⟩
  · apply hc.find?_eq_some_iff.2
    exact ⟨List.mem_append_right _ (List.mem_singleton.2 rfl), rfl, rfl⟩
  · exact find?_of_absent (not_holds_others name)

theorem Orderly.appends_remember (name : String) (p : SessionParameters) :
    c.appends (.remember name p) = if Keepable slots name p ∧ ¬c.Holds name then some name else none := by
  rw [appends, h.remember_eq]
  by_cases hkeep : Keepable slots name p <;> simp [hkeep]

/-- what becomes of the entries of other hosts once parameters were to be remembered -/
theorem Orderly.others_remember (name : String) (p : SessionParameters) :
    (c.remember name p).2.others (some name) =
      if (Keepable slots name p ∧ ¬c.Holds name) ∧ c.size = slots then c.entries.tail else c.others (some name) := by
  rw [h.remember_eq]
  by_cases hkeep : Keepable slots name p
  · by_cases hholds : c.Holds name
    · simp [hkeep, hholds, others_refreshed]
    · simp only [hkeep, hholds, if_true, if_false, others_appended hholds, h.makeRoom_eq, others_of_absent hholds]
      simp
  · simp [hkeep, others]

theorem Orderly.leaves_remember (name : String) (p : SessionParameters) :
    c.Leaves (.remember name p) (c.remember name p).2 where
  order := by
    rw [h.appends_remember, h.remember_eq]
    by_cases hkeep : Keepable slots name p
    · by_cases hholds : c.Holds name
      · refine ⟨c.hosts, List.Sublist.refl _, ?_⟩
        simp [hkeep, hholds, SessionCache.refreshed, hosts_map fun s => s.host_renew name p]
      · refine ⟨c.makeRoom.hosts, makeRoom_sublist.map _, ?_⟩
        simp [hkeep, hholds, SessionCache.appended, hosts, Session.fresh]
    · refine ⟨(c.others (some name)).map Session.host, (others_sublist _).map _, ?_⟩
      simp [hkeep, hosts]
  others _ := by
    rw [h.appends_remember]
    calc (c.remember name p).2.others (some name)
        = if (Keepable slots name p ∧ ¬c.Holds name) ∧ c.size = slots then c.entries.tail
          else c.others (some name) := h.others_remember name p
      _ = _ := by by_cases hnew : Keepable slots name p ∧ ¬c.Holds name <;> simp [hnew, CacheCall.host?]

theorem Orderly.leaves_amend (host : Option String) (change : SessionChange) :
    c.Leaves (.find host (some change)) (c.amend host (·.change change)) := by
  cases host with
  | none => exact .of_stay rfl (List.Sublist.refl _) fun _ => rfl
  | some name =>
    rw [h.amend_eq]
    apply Leaves.of_stay rfl
    · rw [hosts_map fun s => s.host_revise name change]
    · intro _
      apply others_map fun s => s.host_revise name change
      intro s hfor
      simp [Session.revise, hfor]

theorem Orderly.leaves_remove (host : Option String) : c.Leaves (.remove host) (c.remove host) := by
  cases host with
  | none => exact .of_stay rfl (List.Sublist.refl _) fun _ => rfl
  | some name =>
    rw [h.remove_eq]
    apply Leaves.of_stay rfl
    · exact (others_sublist (some name)).map _
    · intro _
      simp [others, CacheCall.host?]

/-- no operation changes the order of the entries that stay, or touches entries of other hosts beyond what it needs -/
theorem Orderly.leaves (call : CacheCall) : c.Leaves call (c.apply call).2 := by
  cases call with
  | remember name p => exact h.leaves_remember name p
  | find host change =>
    cases change with
    | none => exact .of_stay rfl (List.Sublist.refl _) fun _ => rfl
    | some change => exact h.leaves_amend host change
  | remove host => exact h.leaves_remove host
  | clear => exact .of_stay rfl (List.nil_sublist _) fun hne => absurd rfl hne

end Leaves

/-! ## The laws -/

/-- what every operation on a cache does, told by what it answers and by what it leaves -/
structure FifoLaws (c : SessionCache slots) : Prop where
  /-- a look-up changes nothing -/
  lookup : ∀ host, (c.apply (.find host none)).2 = c
  /-- to remember answers yes exactly if the parameters are found from then on -/
  told : ∀ name p, (c.remember name p).1 = true ↔
    ∃ s, (c.remember name p).2.find? (some name) = some s ∧ s.parameters = p
  /-- a host that has an entry, valid or not, keeps its place -/
  refreshed : ∀ name p, c.Holds name → p.resumable = true →
    (c.remember name p).1 = true ∧ (c.remember name p).2.hosts = c.hosts
  /-- an entry for a new host comes last, and exactly in a full cache the oldest goes for it -/
  appended : ∀ name p, ¬c.Holds name → (c.remember name p).1 = true →
    (c.remember name p).2.entries = (if c.size = slots then c.entries.tail else c.entries) ++ [.fresh name p]
  /-- to clear leaves nothing -/
  cleared : (c.apply .clear).2.entries = []
  /-- whatever else is left stays as it is and where it is -/
  leaves : ∀ call, c.Leaves call (c.apply call).2

theorem Orderly.laws {c : SessionCache slots} (h : c.Orderly) : c.FifoLaws where
  lookup _ := rfl
  told name p := by
    rw [h.find?_remember, h.remember_eq]
    by_cases hkeep : Keepable slots name p <;> simp [hkeep, Session.fresh]
  refreshed name p hholds hresumable := by
    obtain ⟨s, hs, hhost⟩ := hholds
    have hslots : 0 < slots := Nat.lt_of_lt_of_le (List.length_pos_of_mem hs) h.fits
    have hkeep : Keepable slots name p :=
      ⟨hslots, SessionParameters.resumable_iff.1 hresumable, h.name_fits hs hhost⟩
    rw [h.remember_eq, if_pos hkeep, if_pos ⟨s, hs, hhost⟩]
    exact ⟨rfl, hosts_map fun s => s.host_renew name p⟩
  appended name p habsent hyes := by
    rw [h.remember_eq] at hyes ⊢
    have hkeep : Keepable slots name p := by
      by_contra hkeep
      simp [hkeep] at hyes
    simp only [hkeep, habsent, if_true, if_false, SessionCache.appended, h.makeRoom_eq]
  cleared := rfl
  leaves := h.leaves

/-- **A cache is a queue of its hosts.** After every history at most `slots` entries are held, of pairwise distinct
hosts whose names have 1 to 255 bytes, each valid exactly if it has an id to offer; and every operation that may follow
keeps the laws of a queue in which a host that is remembered again keeps its place. -/
theorem cache_laws (calls : List CacheCall) :
    ((empty : SessionCache slots).run calls).Orderly ∧ ((empty : SessionCache slots).run calls).FifoLaws := by
  have horderly : ((empty : SessionCache slots).run calls).Orderly := Orderly.empty.run calls
  exact ⟨horderly, horderly.laws⟩

/-- two hosts are stored and the first of them is remembered again, which keeps its place: a third pushes it out -/
example :
    let p : SessionParameters := ⟨[1], [7], by decide, by decide⟩
    let q : SessionParameters := ⟨[2], [8], by decide, by decide⟩
    let full := (empty : SessionCache 2).run [.remember "a" p, .remember "b" p]
    full.entries = [.fresh "a" p, .fresh "b" p] ∧
      (full.run [.remember "a" q]).entries = [.fresh "a" q, .fresh "b" p] ∧
      (full.run [.remember "a" q, .remember "c" p]).entries = [.fresh "b" p, .fresh "c" p] := by
  decide

end SessionCache

end TlsClient

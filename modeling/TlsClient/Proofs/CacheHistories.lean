/-
What a history of operations leaves in a session cache, told from the history alone.

- `lastWord`: the last operation that concerns a host, which is the last one that remembers it, removes it or clears
  the cache;
- `followers`: the other hosts that have come since the host itself last came, latest first. A host comes when an entry
  is appended for it (`arrivals`); to be remembered again is not to come again;
- `Told`: what an entry of the host owes to the last word, which entries may stand behind it, and when it is still
  there. One operation more keeps this (`Told.apply`);
- `found_by_history`: what is found is what the last word said; it is found as long as the followers leave it a slot;
  and look-ups make no difference to any of this.
The entry of a host can only be pushed out by followers: each entry behind it is of a follower (`Told.behind`), no two
are of the same one, and a full cache has `slots` entries.
-/
import Mathlib.Data.List.Dedup
import Mathlib.Data.List.Induction
import Mathlib.Data.List.Perm.Subperm
import TlsClient.Proofs.CacheLaws

namespace TlsClient

/-! ## Histories -/

namespace CacheCall

/-- does the operation settle what is known of a host? -/
def concerns (name : String) : CacheCall → Bool
  | .remember other _ => other == name
  | .find _ _ => false
  | .remove host => host == some name
  | .clear => true

/-- does the operation look a session up? -/
def looksUp : CacheCall → Bool
  | .find _ _ => true
  | _ => false

/-- does the operation change the session that it looks up? -/
def amends : CacheCall → Bool
  | .find _ change => change.isSome
  | _ => false

end CacheCall

/-- the last operation of a history that concerns a host -/
def lastWord (name : String) (calls : List CacheCall) : Option CacheCall :=
  (calls.filter (·.concerns name)).getLast?

namespace SessionCache

variable {slots : Nat}

/-- the hosts that a history appends entries for, in this order -/
def arrivals (c : SessionCache slots) : List CacheCall → List String
  | [] => []
  | call :: calls => (c.appends call).toList ++ (c.apply call).2.arrivals calls

/-- the other hosts that have come to a cache since a host last came, latest first -/
def followers (slots : Nat) (name : String) (calls : List CacheCall) : List String :=
  ((empty : SessionCache slots).arrivals calls).reverse.takeWhile (· ≠ name)

theorem run_snoc (c : SessionCache slots) (calls : List CacheCall) (call : CacheCall) :
    c.run (calls ++ [call]) = ((c.run calls).apply call).2 := by
  simp [run]

theorem lastWord_snoc (name : String) (calls : List CacheCall) (call : CacheCall) :
    lastWord name (calls ++ [call]) = if call.concerns name then some call else lastWord name calls := by
  unfold lastWord
  split_ifs with hconcerns
  · simp [hconcerns]
  · simp [hconcerns]

theorem arrivals_snoc (c : SessionCache slots) (calls : List CacheCall) (call : CacheCall) :
    c.arrivals (calls ++ [call]) = c.arrivals calls ++ ((c.run calls).appends call).toList := by
  induction calls generalizing c with
  | nil => simp [arrivals, run]
  | cons first calls ih =>
    calc c.arrivals (first :: (calls ++ [call]))
        = (c.appends first).toList ++ (c.apply first).2.arrivals (calls ++ [call]) := rfl
      _ = (c.appends first).toList ++
            ((c.apply first).2.arrivals calls ++ (((c.apply first).2.run calls).appends call).toList) := by rw [ih]
      _ = c.arrivals (first :: calls) ++ ((c.run (first :: calls)).appends call).toList := by
        rw [← List.append_assoc]
        rfl

/-- the followers of a host once an operation has appended an entry, or none -/
def follow (name : String) (followers : List String) : Option String → List String
  | none => followers
  | some other => if other = name then [] else other :: followers

theorem followers_snoc (name : String) (calls : List CacheCall) (call : CacheCall) :
    followers slots name (calls ++ [call]) =
      follow name (followers slots name calls) (((empty : SessionCache slots).run calls).appends call) := by
  unfold followers
  rw [arrivals_snoc, List.reverse_append]
  cases ((empty : SessionCache slots).run calls).appends call with
  | none => rfl
  | some other => by_cases hother : other = name <;> simp [follow, hother]

/-- a pair in a list with a new last element -/
theorem pair_sublist_snoc {α : Type} {a b z : α} {l : List α} (h : [a, b].Sublist (l ++ [z])) :
    [a, b].Sublist l ∨ a ∈ l ∧ b = z := by
  obtain ⟨front, back, hsplit, hfront, hback⟩ := List.sublist_append_iff.1 h
  rcases front with _ | ⟨x, _ | ⟨y, front⟩⟩
  · rw [List.nil_append] at hsplit
    rw [← hsplit] at hback
    exact absurd hback.length_le (by simp)
  · simp only [List.cons_append, List.nil_append, List.cons.injEq] at hsplit
    obtain ⟨rfl, rfl⟩ := hsplit
    exact Or.inr ⟨List.singleton_sublist.1 hfront, List.mem_singleton.1 (List.singleton_sublist.1 hback)⟩
  · simp only [List.cons_append, List.cons.injEq, List.nil_eq, List.append_eq_nil_iff] at hsplit
    obtain ⟨rfl, rfl, rfl, -⟩ := hsplit
    exact Or.inl hfront

/-! ## Operations and the entry of a host -/

section Entry

variable {c : SessionCache slots} {name : String} {call : CacheCall}

/-- an entry is appended to remember a host that has none -/
theorem remember_of_appends {other : String} (h : c.appends call = some other) :
    (∃ p, call = .remember other p) ∧ ¬c.Holds other := by
  cases call with
  | remember name p =>
    simp only [appends] at h
    split_ifs at h with hnew
    obtain rfl := Option.some.inj h
    exact ⟨⟨p, rfl⟩, hnew.2⟩
  | find => cases h
  | remove => cases h
  | clear => cases h

/-- an operation that does not concern a host either names another one or changes nothing -/
theorem host?_ne_or_apply_eq (hconcerns : call.concerns name = false) (hplain : call.amends = false) :
    call ≠ .clear ∧ (call.host? ≠ some name ∨ (c.apply call).2 = c) := by
  cases call with
  | remember other p =>
    refine ⟨nofun, Or.inl ?_⟩
    intro hhost
    simp [CacheCall.concerns, Option.some.inj hhost] at hconcerns
  | find host change =>
    cases change with
    | none => exact ⟨nofun, Or.inr rfl⟩
    | some change => cases hplain
  | remove host =>
    refine ⟨nofun, Or.inl ?_⟩
    intro hhost
    have hhost : host = some name := hhost
    simp [CacheCall.concerns, hhost] at hconcerns
  | clear => cases hconcerns

theorem mem_others {host : Option String} {s : Session} (hs : s ∈ c.entries) (hne : s.host ≠ host) :
    s ∈ c.others host := by
  cases host with
  | none => exact hs
  | some name => exact List.mem_filter.2 ⟨hs, by simpa [Session.isFor] using hne⟩

variable (h : c.Orderly)

include h

/-- an operation that does not concern a host leaves no entry of it that was not there -/
theorem Orderly.mem_of_apply (hconcerns : call.concerns name = false) (hplain : call.amends = false) {s : Session}
    (hs : s ∈ (c.apply call).2.entries) (hhost : s.host = some name) : s ∈ c.entries := by
  obtain ⟨hclear, hne | hsame⟩ := host?_ne_or_apply_eq (c := c) hconcerns hplain
  · have hother : s ∈ (c.apply call).2.others call.host? := by
      apply mem_others hs
      rw [hhost]
      exact hne.symm
    rw [(h.leaves call).others hclear] at hother
    split_ifs at hother
    · exact List.mem_of_mem_tail hother
    · exact (others_sublist _).subset hother
  · rwa [hsame] at hs

/-- an operation that does not concern a host pushes its entry out only if it is the oldest of a full cache, to append an
entry of another host -/
theorem Orderly.pushed_out (hconcerns : call.concerns name = false) (hplain : call.amends = false)
    (hholds : c.Holds name) (hgone : ¬(c.apply call).2.Holds name) :
    ∃ other s rest, c.appends call = some other ∧ c.size = slots ∧ c.entries = s :: rest ∧ s.host = some name := by
  obtain ⟨s, hs, hhost⟩ := hholds
  obtain ⟨hclear, hne | hsame⟩ := host?_ne_or_apply_eq (c := c) hconcerns hplain
  · have hout : s ∉ (c.apply call).2.others call.host? := fun hin => hgone ⟨s, (others_sublist _).subset hin, hhost⟩
    rw [(h.leaves call).others hclear] at hout
    split_ifs at hout with hfull
    · obtain ⟨other, hother⟩ := Option.isSome_iff_exists.1 hfull.1
      obtain ⟨first, rest, hentries⟩ := List.exists_cons_of_ne_nil (List.ne_nil_of_mem hs)
      rw [hentries] at hs hout
      obtain rfl : s = first := by
        rcases List.mem_cons.1 hs with hs | hs
        · exact hs
        · exact absurd hs hout
      exact ⟨other, s, rest, hother, hfull.2, hentries, hhost⟩
    · refine absurd (mem_others hs ?_) hout
      rw [hhost]
      exact hne.symm
  · rw [hsame] at hgone
    exact absurd ⟨s, hs, hhost⟩ hgone

/-- an entry of the host is there after an operation that concerns it only if that operation made it -/
theorem Orderly.fresh_of_apply (hconcerns : call.concerns name = true) {s : Session}
    (hs : s ∈ (c.apply call).2.entries) (hhost : s.host = some name) :
    ∃ p, call = .remember name p ∧ p.resumable = true ∧ s = .fresh name p := by
  cases call with
  | remember other p =>
    obtain rfl : other = name := by simpa [CacheCall.concerns] using hconcerns
    by_cases hkeep : Keepable slots other p
    · have hc := h.remember other p
      have hfound : (c.remember other p).2.find? (some other) = some (.fresh other p) := by
        rw [h.find?_remember, if_pos hkeep]
      obtain ⟨hmem, -, hfor⟩ := hc.find?_eq_some_iff.1 hfound
      exact ⟨p, rfl, SessionParameters.resumable_iff.2 hkeep.2.1, hc.unique hs hmem (hhost.trans hfor.symm)⟩
    · have habsent : ¬(c.remember other p).2.Holds other := by
        rw [h.remember_eq, if_neg hkeep]
        exact not_holds_others other
      exact absurd ⟨s, hs, hhost⟩ habsent
  | find => cases hconcerns
  | remove host =>
    obtain rfl : host = some name := by simpa [CacheCall.concerns] using hconcerns
    have habsent : ¬(c.remove (some name)).Holds name := by
      rw [h.remove_eq]
      exact not_holds_others name
    exact absurd ⟨s, hs, hhost⟩ habsent
  | clear => cases hs

end Entry

/-! ## What a history tells of a host -/

/-- what is known of a host from its last word and its followers -/
structure Told (c : SessionCache slots) (name : String) (word : Option CacheCall) (followers : List String) : Prop where
  /-- an entry of the host is as the last word made it -/
  fresh : ∀ s ∈ c.entries, s.host = some name →
    ∃ p, word = some (.remember name p) ∧ p.resumable = true ∧ s = .fresh name p
  /-- behind the entry of the host there are followers only -/
  behind : ∀ other, [some name, some other].Sublist c.hosts → other ∈ followers
  /-- the entry is there as long as the followers leave it a slot -/
  stays : ∀ p, word = some (.remember name p) → Keepable slots name p → followers.dedup.length < slots → c.Holds name

/-- an operation that does not concern a host lets it lose no follower -/
theorem dedup_follow {c : SessionCache slots} {name : String} {followers : List String} {call : CacheCall}
    (hconcerns : call.concerns name = false) :
    followers.dedup.length ≤ (follow name followers (c.appends call)).dedup.length := by
  cases happends : c.appends call with
  | none => exact Nat.le_refl _
  | some other =>
    have hne : other ≠ name := by
      rintro rfl
      obtain ⟨⟨p, rfl⟩, -⟩ := remember_of_appends happends
      simp [CacheCall.concerns] at hconcerns
    rw [follow, if_neg hne]
    by_cases hmem : other ∈ followers
    · simp [List.dedup_cons_of_mem hmem]
    · rw [List.dedup_cons_of_notMem hmem, List.length_cons]
      omega

section Told

variable {c : SessionCache slots} {name : String} {word : Option CacheCall} {followers : List String} {call : CacheCall}

theorem Told.empty (name : String) : (empty : SessionCache slots).Told name none [] where
  fresh := nofun
  behind other hbehind := by simp [hosts, SessionCache.empty] at hbehind
  stays := nofun

variable (h : c.Orderly) (htold : c.Told name word followers)

include h htold

theorem Told.fresh_apply (hplain : call.amends = false) {s : Session} (hs : s ∈ (c.apply call).2.entries)
    (hhost : s.host = some name) :
    ∃ p, (if call.concerns name then some call else word) = some (.remember name p) ∧ p.resumable = true ∧
      s = .fresh name p := by
  cases hconcerns : call.concerns name with
  | true =>
    obtain ⟨p, rfl, hresumable, hfresh⟩ := h.fresh_of_apply hconcerns hs hhost
    exact ⟨p, rfl, hresumable, hfresh⟩
  | false => exact htold.fresh s (h.mem_of_apply hconcerns hplain hs hhost) hhost

/-- an entry that comes stands behind all others, so it has a host that follows theirs -/
theorem Told.behind_apply {other : String} (hbehind : [some name, some other].Sublist (c.apply call).2.hosts) :
    other ∈ follow name followers (c.appends call) := by
  obtain ⟨stay, hstay, hhosts⟩ := (h.leaves call).order
  have hdistinct := (h.apply call).distinct
  rw [hhosts] at hbehind hdistinct
  cases happends : c.appends call with
  | none =>
    rw [happends] at hbehind
    simp only [Option.toList_none, List.map_nil, List.append_nil] at hbehind
    exact htold.behind other (hbehind.trans hstay)
  | some last =>
    rw [happends] at hbehind hdistinct
    have hnew : some last ∉ stay := by
      intro hmem
      exact (List.nodup_append.1 hdistinct).2.2 _ hmem _ (List.mem_singleton.2 rfl) rfl
    have hstays : some name ∈ stay ∧ ([some name, some other].Sublist stay ∨ other = last) := by
      rcases pair_sublist_snoc hbehind with hpair | ⟨hmem, hlast⟩
      · exact ⟨hpair.subset List.mem_cons_self, Or.inl hpair⟩
      · exact ⟨hmem, Or.inr (Option.some.inj hlast)⟩
    have hne : last ≠ name := by
      rintro rfl
      exact hnew hstays.1
    rw [follow, if_neg hne]
    rcases hstays.2 with hpair | rfl
    · exact List.mem_cons_of_mem _ (htold.behind other (hpair.trans hstay))
    · exact List.mem_cons_self

/-- the entries behind the oldest, and one more to come, are of so many different followers -/
theorem Orderly.crowd {other : String} {s : Session} {rest : List Session} (happends : c.appends call = some other)
    (hentries : c.entries = s :: rest) (hhost : s.host = some name) :
    rest.length + 1 ≤ (other :: followers).dedup.length := by
  have hhosts : c.hosts = some name :: rest.map Session.host := by rw [hosts, hentries, List.map_cons, hhost]
  have hdistinct := h.distinct
  rw [hhosts] at hdistinct
  have hnew : some other ∉ rest.map Session.host := by
    intro hmem
    apply (remember_of_appends happends).2
    rw [holds_iff, hhosts]
    exact List.mem_cons_of_mem _ hmem
  have hsubset : some other :: rest.map Session.host ⊆ (other :: followers).dedup.map some := by
    intro host hmem
    rcases List.mem_cons.1 hmem with rfl | hmem
    · exact List.mem_map_of_mem (List.mem_dedup.2 List.mem_cons_self)
    · obtain ⟨t, ht, rfl⟩ := List.mem_map.1 hmem
      obtain ⟨follower, hfollower, -⟩ := (h.kept t (hentries ▸ List.mem_cons_of_mem s ht)).named
      have hpair : [some name, some follower].Sublist c.hosts := by
        rw [hhosts]
        apply List.Sublist.cons_cons
        rw [List.singleton_sublist, ← hfollower]
        exact hmem
      rw [hfollower]
      exact List.mem_map_of_mem (List.mem_dedup.2 (List.mem_cons_of_mem _ (htold.behind follower hpair)))
  have hnodup : (some other :: rest.map Session.host).Nodup := List.nodup_cons.2 ⟨hnew, hdistinct.of_cons⟩
  simpa using (hnodup.subperm hsubset).length_le

/-- a host is pushed out only if it has as many followers as there are slots -/
theorem Told.stays_apply (hplain : call.amends = false) {p : SessionParameters}
    (hword : (if call.concerns name then some call else word) = some (.remember name p)) (hkeep : Keepable slots name p)
    (hroom : (follow name followers (c.appends call)).dedup.length < slots) : (c.apply call).2.Holds name := by
  cases hconcerns : call.concerns name with
  | true =>
    rw [if_pos hconcerns] at hword
    obtain rfl := Option.some.inj hword
    have hfound : (c.remember name p).2.find? (some name) = some (.fresh name p) := by
      rw [h.find?_remember, if_pos hkeep]
    exact ⟨_, ((h.remember name p).find?_eq_some_iff.1 hfound).1, rfl⟩
  | false =>
    rw [hconcerns] at hword
    by_contra hgone
    have hholds : c.Holds name := htold.stays p hword hkeep (Nat.lt_of_le_of_lt (dedup_follow hconcerns) hroom)
    obtain ⟨other, s, rest, happends, hfull, hentries, hhost⟩ := h.pushed_out hconcerns hplain hholds hgone
    have hfollow : follow name followers (c.appends call) = other :: followers := by
      rw [happends, follow, if_neg]
      rintro rfl
      exact (remember_of_appends happends).2 hholds
    have hcrowd : rest.length + 1 ≤ (other :: followers).dedup.length := h.crowd htold happends hentries hhost
    have hlength : rest.length + 1 = slots := by
      rw [← hfull, size, hentries, List.length_cons]
    rw [hfollow] at hroom
    omega

/-- **One more operation.** -/
theorem Told.apply (hplain : call.amends = false) :
    (c.apply call).2.Told name (if call.concerns name then some call else word)
      (follow name followers (c.appends call)) where
  fresh _ hs hhost := htold.fresh_apply h hplain hs hhost
  behind _ hbehind := htold.behind_apply h hbehind
  stays _ hword hkeep hroom := htold.stays_apply h hplain hword hkeep hroom

end Told

theorem told_run (name : String) {calls : List CacheCall} (hplain : ∀ call ∈ calls, call.amends = false) :
    ((empty : SessionCache slots).run calls).Told name (lastWord name calls) (followers slots name calls) := by
  induction calls using List.reverseRecOn with
  | nil => exact Told.empty name
  | append_singleton calls call ih =>
    rw [run_snoc, lastWord_snoc, followers_snoc]
    apply Told.apply (Orderly.empty.run calls)
    · exact ih fun call hcall => hplain call (List.mem_append_left _ hcall)
    · exact hplain call (List.mem_append_right _ (List.mem_singleton.2 rfl))

/-! ## Look-ups -/

/-- a look-up appends nothing and, unless it changes what it finds, leaves the cache as it is -/
theorem lookUp_keeps (c : SessionCache slots) {call : CacheCall} (hlook : call.looksUp = true)
    (hplain : call.amends = false) : c.appends call = none ∧ (c.apply call).2 = c := by
  cases call with
  | find host change =>
    cases change with
    | none => exact ⟨rfl, rfl⟩
    | some change => cases hplain
  | remember => cases hlook
  | remove => cases hlook
  | clear => cases hlook

/-- the history without its look-ups -/
def withoutLookUps (calls : List CacheCall) : List CacheCall := calls.filter fun call => !call.looksUp

theorem run_withoutLookUps (c : SessionCache slots) {calls : List CacheCall}
    (hplain : ∀ call ∈ calls, call.amends = false) :
    c.run (withoutLookUps calls) = c.run calls ∧ c.arrivals (withoutLookUps calls) = c.arrivals calls := by
  induction calls generalizing c with
  | nil => exact ⟨rfl, rfl⟩
  | cons call calls ih =>
    obtain ⟨hcall, hcalls⟩ := List.forall_mem_cons.1 hplain
    cases hlook : call.looksUp with
    | true =>
      obtain ⟨happends, hsame⟩ := lookUp_keeps c hlook hcall
      have hrest : withoutLookUps (call :: calls) = withoutLookUps calls := by simp [withoutLookUps, hlook]
      have hrun : c.run (call :: calls) = (c.apply call).2.run calls := rfl
      rw [hrest, hrun, arrivals, happends, hsame]
      exact ih c hcalls
    | false =>
      have hrest : withoutLookUps (call :: calls) = call :: withoutLookUps calls := by simp [withoutLookUps, hlook]
      obtain ⟨hrun, harrivals⟩ := ih (c.apply call).2 hcalls
      rw [hrest]
      exact ⟨hrun, by rw [arrivals, harrivals, arrivals]⟩

theorem lastWord_withoutLookUps (name : String) (calls : List CacheCall) :
    lastWord name (withoutLookUps calls) = lastWord name calls := by
  unfold lastWord withoutLookUps
  rw [List.filter_filter]
  congr 1
  apply List.filter_congr
  intro call _
  cases call <;> simp [CacheCall.concerns, CacheCall.looksUp]

/-- **What is found is what the last word said, while there is room.** After every history of operations that change no
session in place, what a look-up finds for a host is what the last operation that concerns the host put there; what that
operation put there is found as long as fewer than `slots` other hosts have come since the host last came; and the
history may look sessions up in between as it likes. -/
theorem found_by_history (name : String) (calls : List CacheCall) (hplain : ∀ call ∈ calls, call.amends = false) :
    let c : SessionCache slots := empty.run calls
    (∀ s, c.find? (some name) = some s →
      ∃ p, lastWord name calls = some (.remember name p) ∧ p.resumable = true ∧ s.parameters = p) ∧
    (∀ p, lastWord name calls = some (.remember name p) → p.resumable = true → 0 < slots →
      0 < name.utf8ByteSize → name.utf8ByteSize ≤ maxHostLength → (followers slots name calls).dedup.length < slots →
        ∃ s, c.find? (some name) = some s ∧ s.parameters = p) ∧
    (empty.run (withoutLookUps calls) = c ∧ lastWord name (withoutLookUps calls) = lastWord name calls ∧
      followers slots name (withoutLookUps calls) = followers slots name calls) := by
  intro c
  have horderly : c.Orderly := Orderly.empty.run calls
  have htold : c.Told name (lastWord name calls) (followers slots name calls) := told_run name hplain
  refine ⟨?_, ?_, ?_⟩
  · intro s hfound
    obtain ⟨hs, -, hhost⟩ := horderly.find?_eq_some_iff.1 hfound
    obtain ⟨p, hword, hresumable, rfl⟩ := htold.fresh s hs hhost
    exact ⟨p, hword, hresumable, rfl⟩
  · intro p hword hresumable hslots hpos hfits hroom
    have hkeep : Keepable slots name p := ⟨hslots, SessionParameters.resumable_iff.1 hresumable, hpos, hfits⟩
    obtain ⟨s, hs, hhost⟩ := htold.stays p hword hkeep hroom
    obtain ⟨p', hword', -, rfl⟩ := htold.fresh s hs hhost
    have hsame : CacheCall.remember name p' = .remember name p := Option.some.inj (hword'.symm.trans hword)
    exact ⟨_, horderly.find?_eq_some_iff.2 ⟨hs, rfl, hhost⟩, (CacheCall.remember.inj hsame).2⟩
  · obtain ⟨hrun, harrivals⟩ := run_withoutLookUps (empty : SessionCache slots) hplain
    exact ⟨hrun, lastWord_withoutLookUps name calls, by rw [followers, harrivals, followers]⟩

/-- a history in which one host keeps its place while two others come -/
def busyHistory (early late : SessionParameters) : List CacheCall :=
  [.remember "a" early, .find (some "a") none, .remember "b" early, .remember "a" late, .remove (some "c"),
    .remember "c" early, .find (some "b") none]

/-- with three slots, a host that two others follow is found as it was last remembered -/
theorem found_behind_two_followers :
    let early : SessionParameters := ⟨[1], [], by decide, by decide⟩
    let late : SessionParameters := ⟨[2], [7], by decide, by decide⟩
    let calls := busyHistory early late
    (∀ call ∈ calls, call.amends = false) ∧ lastWord "a" calls = some (.remember "a" late) ∧
      followers 3 "a" calls = ["c", "b"] ∧
      ∃ s, ((empty : SessionCache 3).run calls).find? (some "a") = some s ∧ s.parameters = late := by
  intro early late calls
  have hplain : ∀ call ∈ calls, call.amends = false := by decide
  have hword : lastWord "a" calls = some (.remember "a" late) := by decide
  have hfollowers : followers 3 "a" calls = ["c", "b"] := by decide
  obtain ⟨-, hstays, -⟩ := @found_by_history 3 "a" calls hplain
  refine ⟨hplain, hword, hfollowers, hstays late hword rfl (by decide) (by decide) (by decide) ?_⟩
  rw [hfollowers]
  decide

end SessionCache

end TlsClient

/-
Loops with a budget.

A loop of a client ends when the outside world says so, so no measure of its own bounds it. A loop is therefore given
as a single `Turn` and run on a budget of turns. A budget that is used up yields no result at all: `none` says nothing
about the loop, and a result never depends on how much budget was left (`repeatTurn_mono`).
-/
namespace TlsClient

/-- how one turn of a loop ends -/
inductive Turn (σ α : Type) where
  /-- go on from this state -/
  | again (state : σ)
  /-- leave the loop with this result -/
  | done (result : α)

/-- repeat a turn until it is done; `none` if the budget, or that of a turn, is used up -/
def repeatTurn {σ α : Type} (turn : σ → Option (Turn σ α)) : Nat → σ → Option α
  | 0, _ => none
  | budget + 1, s =>
    match turn s with
    | none => none
    | some (.done a) => some a
    | some (.again s') => repeatTurn turn budget s'

/-- a turn of a loop over other states and with another result -/
def Turn.map {σ τ α ω : Type} (f : σ → τ) (g : α → ω) : Turn σ α → Turn τ ω
  | .again s => .again (f s)
  | .done a => .done (g a)

variable {σ α : Type}

/-- a larger budget, also for the turns, gives the same result -/
theorem repeatTurn_mono {turn turn' : σ → Option (Turn σ α)} (hturn : ∀ s t, turn s = some t → turn' s = some t)
    {m n : Nat} (hmn : m ≤ n) {s : σ} {a : α} (h : repeatTurn turn m s = some a) : repeatTurn turn' n s = some a := by
  induction m generalizing n s with
  | zero => simp [repeatTurn] at h
  | succ m ih =>
    obtain ⟨k, rfl⟩ : ∃ k, n = k + 1 := ⟨n - 1, by omega⟩
    simp only [repeatTurn] at h ⊢
    cases ht : turn s with
    | none => simp [ht] at h
    | some t =>
      rw [hturn s t ht]
      cases t with
      | done b => simpa [ht] using h
      | again s' => exact ih (by omega) (by simpa [ht] using h)

/-- what every turn keeps holds at the end -/
theorem repeatTurn_invariant {turn : σ → Option (Turn σ α)} {I : σ → Prop} {Q : α → Prop}
    (hagain : ∀ s s', I s → turn s = some (.again s') → I s')
    (hdone : ∀ s a, I s → turn s = some (.done a) → Q a)
    {budget : Nat} {s : σ} {a : α} (hs : I s) (h : repeatTurn turn budget s = some a) : Q a := by
  induction budget generalizing s with
  | zero => simp [repeatTurn] at h
  | succ budget ih =>
    simp only [repeatTurn] at h
    cases ht : turn s with
    | none => simp [ht] at h
    | some t =>
      cases t with
      | done b =>
        have hb : b = a := by simpa [ht] using h
        exact hb ▸ hdone s b hs ht
      | again s' => exact ih (hagain s s' hs ht) (by simpa [ht] using h)

/-- a loop whose turns commute with a map commutes with it -/
theorem repeatTurn_map {σ τ α ω : Type} {f : σ → τ} {g : α → ω} {turn : σ → Option (Turn σ α)}
    {turn' : τ → Option (Turn τ ω)} (hturn : ∀ s, turn' (f s) = (turn s).map (Turn.map f g)) (budget : Nat) (s : σ) :
    repeatTurn turn' budget (f s) = (repeatTurn turn budget s).map g := by
  induction budget generalizing s with
  | zero => rfl
  | succ budget ih =>
    simp only [repeatTurn, hturn]
    cases turn s with
    | none => rfl
    | some t =>
      cases t with
      | done a => rfl
      | again s' => exact ih s'

end TlsClient

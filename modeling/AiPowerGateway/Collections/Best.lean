import Mathlib.Order.Lattice

/-!
# The best item of a list

A scan that keeps the item with the greatest key, and of several the first.
-/

namespace AiPowerGateway.Best

variable {α κ : Type*} [LinearOrder κ] (key : α → κ)

/-- The better of the best item so far and the next one. -/
def improve : Option α → α → Option α
  | none, item => some item
  | some best, item => if key best < key item then some item else some best

/-- The best of the candidates; there is none when there are no candidates. -/
def IsBest (candidates : List α) : Option α → Prop
  | none => candidates = []
  | some best => best ∈ candidates ∧ ∀ other ∈ candidates, key other ≤ key best

variable {key}

theorem IsBest.improve {candidates : List α} {best : Option α} (isBest : IsBest key candidates best)
    (item : α) : IsBest key (candidates ++ [item]) (improve key best item) := by
  cases best with
  | none =>
      have none : candidates = [] := isBest
      subst none
      exact ⟨by simp, by simp⟩
  | some best =>
      obtain ⟨mem, greatest⟩ := isBest
      by_cases worse : key best < key item
      · rw [Best.improve, if_pos worse]
        refine ⟨by simp, fun other otherMem => ?_⟩
        rcases List.mem_append.mp otherMem with earlier | last
        · exact le_trans (greatest other earlier) (le_of_lt worse)
        · rw [List.mem_singleton.mp last]
      · rw [Best.improve, if_neg worse]
        refine ⟨List.mem_append_left _ mem, fun other otherMem => ?_⟩
        rcases List.mem_append.mp otherMem with earlier | last
        · exact greatest other earlier
        · rw [List.mem_singleton.mp last]
          exact not_lt.mp worse

theorem IsBest.foldl (items : List α) {candidates : List α} {best : Option α}
    (isBest : IsBest key candidates best) :
    IsBest key (candidates ++ items) (items.foldl (Best.improve key) best) := by
  induction items generalizing candidates best with
  | nil => rwa [List.append_nil]
  | cons item items ih =>
      have next := ih (isBest.improve item)
      rwa [List.append_assoc, List.singleton_append] at next

/-- A scan finds the best item. -/
theorem isBest_scan (key : α → κ) (items : List α) :
    IsBest key items (items.foldl (improve key) none) := by
  have nothing : IsBest key [] none := rfl
  exact nothing.foldl items

end AiPowerGateway.Best

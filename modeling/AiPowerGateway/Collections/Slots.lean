import Mathlib.Data.List.Basic

/-!
# Slots

A list of slots where a value keeps its position: values are pushed at the end, and a slot
that is cleared stays empty.  What is filled is the list of positions and values in order.
-/

namespace AiPowerGateway.Slots

variable {α β : Type*}

/-- The filled slots with their positions, the first slot being at a given one. -/
def filledFrom : Nat → List (Option α) → List (Nat × α)
  | _, [] => []
  | position, none :: slots => filledFrom (position + 1) slots
  | position, some value :: slots => (position, value) :: filledFrom (position + 1) slots

/-- The filled slots with their positions. -/
def filled (slots : List (Option α)) : List (Nat × α) := filledFrom 0 slots

theorem le_of_mem_filledFrom {slots : List (Option α)} {position : Nat} {entry : Nat × α}
    (mem : entry ∈ filledFrom position slots) : position ≤ entry.1 := by
  induction slots generalizing position with
  | nil => cases mem
  | cons slot slots ih =>
      have later (mem : entry ∈ filledFrom (position + 1) slots) : position ≤ entry.1 :=
        Nat.le_of_succ_le (ih mem)
      cases slot with
      | none => exact later mem
      | some value =>
          rcases List.mem_cons.mp mem with rfl | mem
          · exact Nat.le_refl _
          · exact later mem

theorem filledFrom_concat (slots : List (Option α)) (position : Nat) (value : α) :
    filledFrom position (slots ++ [some value]) =
      filledFrom position slots ++ [(position + slots.length, value)] := by
  induction slots generalizing position with
  | nil => rfl
  | cons slot slots ih =>
      have moved : position + 1 + slots.length = position + (slots.length + 1) := by omega
      cases slot <;> simp [filledFrom, ih, moved]

/-- Pushing a value gives it the next position. -/
theorem filled_concat (slots : List (Option α)) (value : α) :
    filled (slots ++ [some value]) = filled slots ++ [(slots.length, value)] := by
  rw [filled, filledFrom_concat, Nat.zero_add]
  rfl

theorem filledFrom_clear (slots : List (Option α)) (position index : Nat) :
    filledFrom position (slots.set index none) =
      (filledFrom position slots).filter fun entry => entry.1 ≠ position + index := by
  induction slots generalizing position index with
  | nil => rfl
  | cons slot slots ih =>
      cases index with
      | zero =>
          have others : (filledFrom (position + 1) slots).filter (fun entry => entry.1 ≠ position)
              = filledFrom (position + 1) slots := by
            refine List.filter_eq_self.mpr fun entry mem => ?_
            have later := le_of_mem_filledFrom mem
            simp only [ne_eq, decide_eq_true_eq]
            omega
          cases slot with
          | none => exact others.symm
          | some value =>
              rw [Nat.add_zero, filledFrom, List.filter_cons_of_neg (by simp)]
              exact others.symm
      | succ index =>
          have moved : position + 1 + index = position + (index + 1) := by omega
          cases slot with
          | none => simp [filledFrom, ih, moved]
          | some value =>
              simp [filledFrom, ih, moved]

/-- Clearing a slot takes out its entry, and moves no other. -/
theorem filled_clear (slots : List (Option α)) (index : Nat) :
    filled (slots.set index none) = (filled slots).filter fun entry => entry.1 ≠ index := by
  rw [filled, filledFrom_clear, Nat.zero_add]
  rfl

theorem pairwise_filledFrom (slots : List (Option α)) (position : Nat) :
    (filledFrom position slots).Pairwise fun first next => first.1 < next.1 := by
  induction slots generalizing position with
  | nil => exact List.Pairwise.nil
  | cons slot slots ih =>
      cases slot with
      | none => exact ih (position + 1)
      | some value =>
          exact List.pairwise_cons.mpr ⟨fun _ => le_of_mem_filledFrom, ih (position + 1)⟩

/-- The positions ascend. -/
theorem pairwise_filled (slots : List (Option α)) :
    (filled slots).Pairwise fun first next => first.1 < next.1 :=
  pairwise_filledFrom slots 0

theorem flatMap_filledFrom (yields : α → List β) (slots : List (Option α)) (position : Nat) :
    (filledFrom position slots).flatMap (fun entry => yields entry.2) =
      slots.flatMap fun slot => (slot.map yields).getD [] := by
  induction slots generalizing position with
  | nil => rfl
  | cons slot slots ih => cases slot <;> simp [filledFrom, ih]

/-- What the filled slots yield is what all slots yield when an empty one yields nothing. -/
theorem flatMap_filled (yields : α → List β) (slots : List (Option α)) :
    (filled slots).flatMap (fun entry => yields entry.2) =
      slots.flatMap fun slot => (slot.map yields).getD [] :=
  flatMap_filledFrom yields slots 0

end AiPowerGateway.Slots

import Mathlib.Data.Option.Basic

/-!
# Replacing a file through a temporary one

New content goes to a temporary file, the old file is removed, and the temporary file
takes its name.  Each step happens completely or not at all, and the process may end
after any of them.  Between the removal and the renaming there is no file.
-/

namespace AiPowerGateway.Systems.FileReplace

variable {α γ : Type}

structure Disk (α : Type) where
  target : Option α
  temp : Option α
  deriving DecidableEq, Repr

inductive Step where
  | writeTemp
  | removeTarget
  | renameTemp
  deriving DecidableEq, Repr

/-- Which of the steps succeed. -/
structure Results where
  written : Bool := true
  removed : Bool := true
  renamed : Bool := true
  deriving DecidableEq, Repr

def Results.of (results : Results) : Step → Bool
  | .writeTemp => results.written
  | .removeTarget => results.removed
  | .renameTemp => results.renamed

def Step.perform (content : α) (disk : Disk α) : Step → Disk α
  | .writeTemp => { disk with temp := some content }
  | .removeTarget => { disk with target := none }
  | .renameTemp => ⟨disk.temp, none⟩

def protocol : List Step := [.writeTemp, .removeTarget, .renameTemp]

/-- A failed step changes nothing and ends the replacement, except that the removal is
only tried. -/
def run (content : α) (results : Results) : List Step → Disk α → Disk α
  | [], disk => disk
  | step :: rest, disk =>
      if results.of step then run content results rest (step.perform content disk)
      else if step = .removeTarget then run content results rest disk
      else disk

/-- The disk when the process ends after some of the steps. -/
def crashedAfter (count : Nat) (content : α) (results : Results) (disk : Disk α) : Disk α :=
  run content results (protocol.take count) disk

/-- The disk when the replacement has come to its end. -/
def replace (content : α) (results : Results) (disk : Disk α) : Disk α :=
  run content results protocol disk

/-- The replacement reports success. -/
def Results.replaced (results : Results) : Bool := results.written && results.renamed

/-- The old file is gone and the new one did not take its place. -/
def Interrupted (count : Nat) (results : Results) : Prop :=
  2 ≤ count ∧ results.written = true ∧ results.removed = true ∧
    (count = 2 ∨ results.renamed = false)

instance (count : Nat) (results : Results) : Decidable (Interrupted count results) :=
  inferInstanceAs (Decidable (_ ∧ _))

theorem crashedAfter_of_three_le {count : Nat} (all : 3 ≤ count) (content : α)
    (results : Results) (disk : Disk α) :
    crashedAfter count content results disk = replace content results disk := by
  have whole : protocol.take count = protocol := List.take_of_length_le all
  rw [crashedAfter, whole, replace]

/-- An interrupted replacement leaves no file. -/
theorem target_of_interrupted {count : Nat} {results : Results}
    (interrupted : Interrupted count results) (content : α) (disk : Disk α) :
    (crashedAfter count content results disk).target = none := by
  obtain ⟨started, written, removed, rest⟩ := interrupted
  by_cases two : count = 2
  · subst two
    simp [crashedAfter, protocol, run, Results.of, Step.perform, written, removed]
  · have failed := rest.resolve_left two
    rw [crashedAfter_of_three_le (by omega)]
    simp [replace, protocol, run, Results.of, Step.perform, written, removed, failed]

/-- Every other replacement leaves the old file or the new one. -/
theorem target_of_not_interrupted {count : Nat} {results : Results}
    (whole : ¬ Interrupted count results) (content : α) (disk : Disk α) :
    (crashedAfter count content results disk).target = disk.target ∨
      (crashedAfter count content results disk).target = some content := by
  match count with
  | 0 => exact Or.inl rfl
  | 1 =>
      left
      cases written : results.written <;>
        simp [crashedAfter, protocol, run, Results.of, Step.perform, written]
  | 2 =>
      left
      cases written : results.written with
      | false => simp [crashedAfter, protocol, run, Results.of, written]
      | true =>
          have kept : results.removed = false := by
            by_contra removed
            exact whole ⟨Nat.le_refl 2, written, by simpa using removed, Or.inl rfl⟩
          simp [crashedAfter, protocol, run, Results.of, Step.perform, written, kept]
  | count + 3 =>
      rw [crashedAfter_of_three_le (by omega)]
      cases written : results.written with
      | false => simp [replace, protocol, run, Results.of, written]
      | true =>
          cases renamed : results.renamed with
          | true =>
              right
              cases removed : results.removed <;>
                simp [replace, protocol, run, Results.of, Step.perform, written, removed, renamed]
          | false =>
              have kept : results.removed = false := by
                by_contra removed
                exact whole ⟨by omega, written, by simpa using removed, Or.inr renamed⟩
              left
              simp [replace, protocol, run, Results.of, Step.perform, written, kept, renamed]

/-- A replacement that reports a failure leaves the old file, unless it has removed it. -/
theorem target_of_failed {results : Results} (failed : results.replaced = false)
    (content : α) (disk : Disk α) :
    (replace content results disk).target = disk.target ↔
      ¬ (Interrupted 3 results ∧ disk.target ≠ none) := by
  have whole : crashedAfter 3 content results disk = replace content results disk :=
    crashedAfter_of_three_le (Nat.le_refl 3) content results disk
  by_cases interrupted : Interrupted 3 results
  · rw [← whole, target_of_interrupted interrupted]
    simp [interrupted, eq_comm]
  · simp only [interrupted, false_and, not_false_eq_true, iff_true]
    cases written : results.written with
    | false => simp [replace, protocol, run, Results.of, written]
    | true =>
        have renamed : results.renamed = false := by simpa [Results.replaced, written] using failed
        have kept : results.removed = false := by
          by_contra removed
          exact interrupted ⟨by omega, written, by simpa using removed, Or.inr renamed⟩
        simp [replace, protocol, run, Results.of, Step.perform, written, kept, renamed]

/-- A replacement that reports success leaves the new file and no temporary one. -/
theorem replace_of_replaced {results : Results} (replaced : results.replaced = true)
    (content : α) (disk : Disk α) : replace content results disk = ⟨some content, none⟩ := by
  obtain ⟨written, renamed⟩ := (Bool.and_eq_true _ _).mp replaced
  cases removed : results.removed <;>
    simp [replace, protocol, run, Results.of, Step.perform, written, removed, renamed]

/--
What a reader finds after the process has ended somewhere: the old value or the new
one, unless the replacement was interrupted and neither of them is what a missing file
stands for.
-/
theorem recovers_iff (reads : Option α → γ) (content : α) (disk : Disk α) (count : Nat)
    (results : Results) :
    (reads (crashedAfter count content results disk).target = reads disk.target ∨
        reads (crashedAfter count content results disk).target = reads (some content)) ↔
      ¬ Interrupted count results ∨ reads disk.target = reads none ∨
        reads (some content) = reads none := by
  by_cases interrupted : Interrupted count results
  · rw [target_of_interrupted interrupted]
    simp only [interrupted, not_true_eq_false, false_or]
    exact or_congr eq_comm eq_comm
  · simp only [interrupted, not_false_eq_true, true_or, iff_true]
    rcases target_of_not_interrupted interrupted content disk with old | new
    · exact Or.inl (by rw [old])
    · exact Or.inr (by rw [new])

end AiPowerGateway.Systems.FileReplace

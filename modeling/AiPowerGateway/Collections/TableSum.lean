import AiPowerGateway.Collections.HashMap
import Mathlib.Algebra.BigOperators.Group.List.Basic

/-!
# Sums over tables

The sum of the values of a table whose values can be added.  Adding to the value of one
key, whether it is stored or not, adds as much to the sum.
-/

namespace AiPowerGateway.HashMap

variable {μ : Type} [AddCommMonoid μ]

def sum (table : HashMap μ) : μ := table.values.sum

@[simp] theorem sum_empty : sum (∅ : HashMap μ) = 0 := rfl

theorem sum_insert_new {key : String} {table : HashMap μ} (absent : table.lookup key = none)
    (value : μ) : sum (table.insert key value) = value + table.sum := by
  have notMem : key ∉ table := AList.lookup_eq_none.mp absent
  rw [sum, values, AList.entries_insert_of_notMem notMem, List.map_cons, List.sum_cons]
  rfl

/-- Storing under a key that is present replaces its share of the sum. -/
theorem sum_insert_present {key : String} {stored : μ} {table : HashMap μ}
    (found : table.lookup key = some stored) (amount : μ) :
    sum (table.insert key (stored + amount)) = table.sum + amount := by
  have present : key ∈ table.entries.keys :=
    List.dlookup_isSome.mp (by rw [show table.entries.dlookup key = _ from found]; rfl)
  obtain ⟨other, before, after, notBefore, entries, erased⟩ := List.exists_of_kerase present
  have same : other = stored := by
    have mem : (⟨key, other⟩ : Sigma fun _ : String => μ) ∈ table.entries := by simp [entries]
    exact Option.some.inj ((AList.mem_lookup_iff.mpr mem).symm.trans found)
  subst same
  have whole : table.sum = (before.map Sigma.snd).sum + (other + (after.map Sigma.snd).sum) := by
    rw [sum, values, entries, List.map_append, List.map_cons, List.sum_append, List.sum_cons]
  rw [whole, sum, values, AList.entries_insert, erased, List.map_cons, List.map_append,
    List.sum_cons, List.sum_append, add_left_comm _ other, add_right_comm]

/-- Adding to the value of a key adds as much to the sum. -/
theorem sum_upsert (key : String) (amount : μ) (table : HashMap μ) :
    sum (table.upsert key 0 (· + amount)) = table.sum + amount := by
  unfold upsert
  cases found : table.lookup key with
  | none =>
      rw [Option.getD_none, sum_insert_new found, add_comm]
      exact congrArg (table.sum + ·) (zero_add amount)
  | some stored => exact sum_insert_present found amount

end AiPowerGateway.HashMap

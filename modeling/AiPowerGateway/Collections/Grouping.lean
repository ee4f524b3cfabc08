import Mathlib.Data.List.Perm.Subperm
import Mathlib.Data.List.Nodup

/-!
# Grouping by key

Items that arrive one by one and are merged into the group of their key; a key
that is new opens a group at the end.
-/

namespace AiPowerGateway.Grouping

variable {κ β : Type} [DecidableEq κ] (merge : β → β → β)

def absorb : List (κ × β) → κ × β → List (κ × β)
  | [], item => [item]
  | (key, group) :: rest, item =>
      if key = item.1 then (key, merge group item.2) :: rest
      else (key, group) :: absorb rest item

def group (items : List (κ × β)) : List (κ × β) := items.foldl (absorb merge) []

variable {merge}

/-- A new key is appended. -/
theorem absorb_new {groups : List (κ × β)} {item : κ × β}
    (new : item.1 ∉ groups.map Prod.fst) : absorb merge groups item = groups ++ [item] := by
  induction groups with
  | nil => rfl
  | cons first rest ih =>
      obtain ⟨key, value⟩ := first
      simp only [List.map_cons, List.mem_cons, not_or] at new
      simp [absorb, Ne.symm new.1, ih new.2]

/-- A known key opens no group. -/
theorem keys_absorb_known {groups : List (κ × β)} {item : κ × β}
    (known : item.1 ∈ groups.map Prod.fst) :
    (absorb merge groups item).map Prod.fst = groups.map Prod.fst := by
  induction groups with
  | nil => simp at known
  | cons first rest ih =>
      obtain ⟨key, value⟩ := first
      by_cases same : key = item.1
      · simp [absorb, same]
      · have later : item.1 ∈ rest.map Prod.fst := by
          simpa [Ne.symm same] using known
        simp [absorb, same, ih later]

theorem nodup_keys_absorb {groups : List (κ × β)} (distinct : (groups.map Prod.fst).Nodup)
    (item : κ × β) : ((absorb merge groups item).map Prod.fst).Nodup := by
  by_cases known : item.1 ∈ groups.map Prod.fst
  · rwa [keys_absorb_known known]
  · rw [absorb_new known, List.map_append, List.map_cons, List.map_nil, ← List.concat_eq_append]
    exact List.Nodup.concat known distinct

theorem mem_keys_absorb {groups : List (κ × β)} {item : κ × β} {key : κ}
    (mem : key ∈ (absorb merge groups item).map Prod.fst) :
    key ∈ groups.map Prod.fst ∨ key = item.1 := by
  by_cases known : item.1 ∈ groups.map Prod.fst
  · rw [keys_absorb_known known] at mem
    exact Or.inl mem
  · rw [absorb_new known] at mem
    simpa using mem

theorem absorb_ne_nil (groups : List (κ × β)) (item : κ × β) :
    absorb merge groups item ≠ [] := by
  cases groups with
  | nil => simp [absorb]
  | cons first rest =>
      rw [absorb]
      split <;> simp

/-- Only no items have no groups. -/
theorem group_eq_nil {items : List (κ × β)} : group merge items = [] ↔ items = [] := by
  have opened (items : List (κ × β)) {groups : List (κ × β)} (some : groups ≠ []) :
      items.foldl (absorb merge) groups ≠ [] := by
    induction items generalizing groups with
    | nil => exact some
    | cons item items ih => exact ih (absorb_ne_nil groups item)
  cases items with
  | nil => simp [group]
  | cons item items => simpa [group] using opened items (absorb_ne_nil [] item)

theorem keys_foldl_absorb (items : List (κ × β)) {groups : List (κ × β)}
    (distinct : (groups.map Prod.fst).Nodup) :
    ((items.foldl (absorb merge) groups).map Prod.fst).Nodup ∧
      ∀ key ∈ (items.foldl (absorb merge) groups).map Prod.fst,
        key ∈ groups.map Prod.fst ∨ key ∈ items.map Prod.fst := by
  induction items generalizing groups with
  | nil => exact ⟨distinct, fun key mem => Or.inl mem⟩
  | cons item items ih =>
      obtain ⟨nodup, origin⟩ := ih (nodup_keys_absorb distinct item)
      refine ⟨nodup, fun key mem => ?_⟩
      rcases origin key mem with old | new
      · rcases mem_keys_absorb old with older | same
        · exact Or.inl older
        · exact Or.inr (by simp [same])
      · exact Or.inr (List.mem_cons_of_mem _ new)

theorem foldl_absorb_distinct (items : List (κ × β)) {groups : List (κ × β)}
    (distinct : ((groups ++ items).map Prod.fst).Nodup) :
    items.foldl (absorb merge) groups = groups ++ items := by
  induction items generalizing groups with
  | nil => simp
  | cons item items ih =>
      have regroup : groups ++ item :: items = (groups ++ [item]) ++ items := by simp
      have new : item.1 ∉ groups.map Prod.fst := by
        rw [List.map_append, List.nodup_append] at distinct
        intro mem
        exact distinct.2.2 _ mem _ (by simp) rfl
      rw [List.foldl_cons, absorb_new new, regroup]
      exact ih (by rwa [regroup] at distinct)

/-- Items of distinct keys are their own groups. -/
theorem group_of_nodup {items : List (κ × β)} (distinct : (items.map Prod.fst).Nodup) :
    group merge items = items := by
  have appended : items.foldl (absorb merge) [] = [] ++ items :=
    foldl_absorb_distinct items (by simpa using distinct)
  simpa [group] using appended

/-- As many groups as items means that the keys are distinct. -/
theorem nodup_of_length_group {items : List (κ × β)}
    (full : (group merge items).length = items.length) : (items.map Prod.fst).Nodup := by
  have groups : ((group merge items).map Prod.fst).Nodup ∧
      ∀ key ∈ (group merge items).map Prod.fst,
        key ∈ ([] : List (κ × β)).map Prod.fst ∨ key ∈ items.map Prod.fst :=
    keys_foldl_absorb items (by simp)
  have within : List.Subperm ((group merge items).map Prod.fst) (items.map Prod.fst) := by
    refine groups.1.subperm fun key mem => ?_
    simpa using groups.2 key mem
  have same := within.perm_of_length_le (by simp [full])
  exact same.nodup_iff.mp groups.1

end AiPowerGateway.Grouping

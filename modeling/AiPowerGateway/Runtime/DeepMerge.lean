import AiPowerGateway.Json.Paths
import AiPowerGateway.Runtime.Boot

/-!
# Deep merge, path by path

What the merge of two objects has at a key depends on what both have there: a key of one
side only is kept, two objects are merged, and every other override replaces what is there.
-/

namespace AiPowerGateway.Runtime

open Json

/-- What an override makes of the value under its key. -/
def overlay (existing : Option Json) (value : Json) : Json :=
  match existing with
  | some existing =>
      if existing.asObject?.isSome && value.asObject?.isSome then deepMerge existing value
      else value
  | none => value

theorem mergeFields_cons (target : Fields) (key : String) (value : Json) (rest : Fields) :
    mergeFields target ((key, value) :: rest) =
      mergeFields (insertField key (overlay (lookupField key target) value) target) rest := by
  rw [mergeFields]
  rfl

theorem overlay_of_not_object (existing : Option Json) {value : Json}
    (leaf : value.isObject = false) : overlay existing value = value := by
  cases existing with
  | none => rfl
  | some existing =>
      rw [isObject] at leaf
      rw [overlay, leaf, Bool.and_false]
      rfl

theorem overlay_of_objects {existing value : Json} (one : existing.isObject = true)
    (other : value.isObject = true) : overlay (some existing) value = deepMerge existing value := by
  rw [isObject] at one other
  rw [overlay, one, other]
  rfl

theorem overlay_of_replaced {existing value : Json} (leaf : existing.isObject = false) :
    overlay (some existing) value = value := by
  rw [isObject] at leaf
  rw [overlay, leaf, Bool.false_and]
  rfl

/-- Unless both are objects the override replaces what is there. -/
theorem overlay_of_apart {old value : Json}
    (apart : ¬ (old.isObject = true ∧ value.isObject = true)) :
    overlay (some old) value = value := by
  rcases not_and_or.mp apart with leaf | leaf
  · exact overlay_of_replaced (Bool.eq_false_of_not_eq_true leaf)
  · exact overlay_of_not_object _ (Bool.eq_false_of_not_eq_true leaf)

/-- Only objects are merged. -/
theorem deepMerge_of_apart {target overrides : Json}
    (apart : ¬ (target.isObject = true ∧ overrides.isObject = true)) :
    deepMerge target overrides = target := by
  cases target with
  | obj target =>
      cases overrides with
      | obj overrides => exact absurd ⟨rfl, rfl⟩ apart
      | null | bool | num | str | arr => rw [deepMerge]; simp
  | null | bool | num | str | arr => rw [deepMerge]; simp

theorem isObject_deepMerge (target overrides : Json) :
    (deepMerge target overrides).isObject = target.isObject := by
  cases target <;> cases overrides <;> rw [deepMerge] <;> first | rfl | simp

/-- The loop writes every key of the overrides once. -/
theorem lookupField_mergeFields {overrides : Fields} (distinct : (overrides.map (·.1)).Nodup)
    (target : Fields) (key : String) :
    lookupField key (mergeFields target overrides) =
      match lookupField key overrides with
      | none => lookupField key target
      | some value => some (overlay (lookupField key target) value) := by
  induction overrides generalizing target with
  | nil => rfl
  | cons field rest ih =>
      obtain ⟨name, value⟩ := field
      rw [List.map_cons, List.nodup_cons] at distinct
      rw [mergeFields_cons, ih distinct.2]
      by_cases same : name = key
      · subst same
        have once : lookupField name rest = none := lookupField_eq_none.mpr distinct.1
        rw [once]
        simp only [lookupField, ↓reduceIte]
        exact lookup_insert_self _ _ _
      · simp only [lookupField, if_neg same, lookup_insert_ne same]

/-- A merge of objects under a key. -/
theorem get?_deepMerge {target overrides : Json} (object : target.isObject = true)
    (distinct : overrides.distinctKeys = true) (key : String) :
    (deepMerge target overrides).get? key =
      match overrides.get? key with
      | none => target.get? key
      | some value => some (overlay (target.get? key) value) := by
  cases target with
  | obj target =>
      cases overrides with
      | obj overrides =>
          rw [deepMerge]
          exact lookupField_mergeFields (distinctKeys_obj.mp distinct).1 target key
      | null | bool | num | str | arr => rw [deepMerge] <;> simp [get?]
  | null | bool | num | str | arr => cases object

theorem get?_deepMerge_of_none {target overrides : Json} (object : target.isObject = true)
    (distinct : overrides.distinctKeys = true) {key : String}
    (absent : overrides.get? key = none) :
    (deepMerge target overrides).get? key = target.get? key := by
  rw [get?_deepMerge object distinct, absent]

theorem get?_deepMerge_of_some {target overrides value : Json} (object : target.isObject = true)
    (distinct : overrides.distinctKeys = true) {key : String}
    (found : overrides.get? key = some value) :
    (deepMerge target overrides).get? key = some (overlay (target.get? key) value) := by
  rw [get?_deepMerge object distinct, found]

end AiPowerGateway.Runtime

import AiPowerGateway.Runtime.DeepMerge

/-!
# The law of the deep merge

Where the overrides have a leaf, the result has it; where they have nothing, and nothing
above is written over, the result has what the target has.  Merging the same overrides
again changes nothing.
-/

namespace AiPowerGateway.Runtime

open Json

/-! ## What stands at a path -/

section Paths

variable {target overrides : Json}

theorem isObject_overlay (existing : Option Json) {value : Json} (object : value.isObject = true) :
    (overlay existing value).isObject = true := by
  cases existing with
  | none => exact object
  | some existing =>
      cases one : existing.isObject with
      | true => rw [overlay_of_objects one object, isObject_deepMerge, one]
      | false => rw [overlay_of_replaced one, object]

theorem overlay_at?_of_apart {old child value : Json} {path : List String}
    (apart : ¬ (old.isObject = true ∧ child.isObject = true))
    (found : child.at? path = some value) : overlay (old.at? path) value = value := by
  cases path with
  | nil =>
      rw [← Option.some.inj found]
      exact overlay_of_apart apart
  | cons key rest =>
      have object : child.isObject = true := by
        obtain ⟨below, get, -⟩ := Option.bind_eq_some_iff.mp found
        exact isObject_of_get? get
      have leaf : old.isObject = false :=
        Bool.eq_false_of_not_eq_true fun one => apart ⟨one, object⟩
      rw [at?_of_not_object leaf (List.cons_ne_nil key rest)]
      rfl

/-- The overrides lie over the target at every path that they have. -/
theorem at?_deepMerge_of_some (object : target.isObject = true)
    (overriding : overrides.isObject = true) (distinct : overrides.distinctKeys = true)
    {path : List String} {value : Json} (found : overrides.at? path = some value) :
    (deepMerge target overrides).at? path = some (overlay (target.at? path) value) := by
  induction path generalizing target overrides with
  | nil =>
      rw [← Option.some.inj found]
      exact congrArg some (overlay_of_objects object overriding).symm
  | cons key rest ih =>
      obtain ⟨child, get, deeper⟩ := Option.bind_eq_some_iff.mp found
      rw [at?, get?_deepMerge_of_some object distinct get, Option.bind_some, at?]
      cases target.get? key with
      | none => exact deeper
      | some old =>
          rw [Option.bind_some]
          by_cases objects : old.isObject = true ∧ child.isObject = true
          · rw [overlay_of_objects objects.1 objects.2]
            exact ih objects.1 objects.2 (distinctKeys_of_get? distinct get) deeper
          · rw [overlay_of_apart objects, overlay_at?_of_apart objects deeper]
            exact deeper

/-- The overrides write over what the target has at a path: they have a leaf there, or an
object where the target has a leaf. -/
def Overwrites (target overrides : Json) (path : List String) : Prop :=
  ∃ value, overrides.at? path = some value ∧
    (value.isObject = false ∨ ∃ old, target.at? path = some old ∧ old.isObject = false)

/-- Something on the way to a path is written over. -/
def OverwrittenAbove (target overrides : Json) (path : List String) : Prop :=
  ∃ front, front ≠ [] ∧ front <+: path ∧ front ≠ path ∧ Overwrites target overrides front

theorem OverwrittenAbove.cons {key : String} {path : List String} {old child : Json}
    (existing : target.get? key = some old) (get : overrides.get? key = some child)
    (above : OverwrittenAbove old child path) :
    OverwrittenAbove target overrides (key :: path) := by
  obtain ⟨front, -, leads, differs, value, found, overwritten⟩ := above
  refine ⟨key :: front, List.cons_ne_nil key front, List.cons_prefix_cons.mpr ⟨rfl, leads⟩,
    fun same => differs (List.cons.inj same).2, value, ?_, ?_⟩
  · rw [at?, get, Option.bind_some, found]
  · rw [at?, existing, Option.bind_some]
    exact overwritten

/-- What the overrides do not reach stays as it is. -/
theorem at?_deepMerge_of_none (object : target.isObject = true)
    (distinct : overrides.distinctKeys = true) {path : List String}
    (absent : overrides.at? path = none) (kept : ¬ OverwrittenAbove target overrides path) :
    (deepMerge target overrides).at? path = target.at? path := by
  induction path generalizing target overrides with
  | nil => cases absent
  | cons key rest ih =>
      rw [at?, at?]
      cases get : overrides.get? key with
      | none => rw [get?_deepMerge_of_none object distinct get]
      | some child =>
          rw [at?, get, Option.bind_some] at absent
          have below : rest ≠ [] := by
            rintro rfl
            cases absent
          have untouched : ¬ Overwrites target overrides [key] := fun overwritten =>
            kept ⟨[key], List.cons_ne_nil key [], ⟨rest, rfl⟩,
              fun same => below (List.cons.inj same).2.symm, overwritten⟩
          have childObject : child.isObject = true := by
            by_contra leaf
            exact untouched ⟨child, (at?_singleton overrides key).trans get,
              Or.inl (Bool.eq_false_of_not_eq_true leaf)⟩
          rw [get?_deepMerge_of_some object distinct get, Option.bind_some]
          cases existing : target.get? key with
          | none => exact absent
          | some old =>
              have oldObject : old.isObject = true := by
                by_contra leaf
                exact untouched ⟨child, (at?_singleton overrides key).trans get, Or.inr
                  ⟨old, (at?_singleton target key).trans existing,
                    Bool.eq_false_of_not_eq_true leaf⟩⟩
              rw [overlay_of_objects oldObject childObject, Option.bind_some]
              exact ih oldObject (distinctKeys_of_get? distinct get) absent
                fun above => kept (above.cons existing get)

end Paths

/-! ## Merging again -/

theorem mergeFields_of_absorbed {target overrides : Fields}
    (absorbed : ∀ field ∈ overrides, ∃ existing, lookupField field.1 target = some existing ∧
      overlay (some existing) field.2 = existing) : mergeFields target overrides = target := by
  induction overrides with
  | nil => rfl
  | cons field rest ih =>
      obtain ⟨key, value⟩ := field
      obtain ⟨existing, found, same⟩ := absorbed _ List.mem_cons_self
      rw [mergeFields_cons, found, same, insert_of_lookup found]
      exact ih fun field inRest => absorbed field (List.mem_cons_of_mem _ inRest)

theorem overlay_self_of {value : Json} (merged : deepMerge value value = value) :
    overlay (some value) value = value := by
  by_cases objects : value.isObject = true ∧ value.isObject = true
  · rw [overlay_of_objects objects.1 objects.2, merged]
  · exact overlay_of_apart objects

/-- A value that is merged into itself stays as it is. -/
theorem deepMerge_self (value : Json) (distinct : value.distinctKeys = true) :
    deepMerge value value = value := by
  induction value using field_induction with
  | step value ih =>
      cases value with
      | obj fields =>
          have keys := (distinctKeys_obj.mp distinct).1
          rw [deepMerge]
          refine congrArg Json.obj (mergeFields_of_absorbed ?_)
          rintro ⟨key, item⟩ inFields
          have found := lookupField_of_mem keys inFields
          exact ⟨item, found, overlay_self_of (ih key item found
            ((distinctKeys_obj.mp distinct).2 _ inFields))⟩
      | null | bool | num | str | arr =>
          exact deepMerge_of_apart fun objects => Bool.false_ne_true objects.1

/-- What an override has made of a value it makes of it again. -/
theorem overlay_overlay {existing : Option Json} {value : Json}
    (distinct : value.distinctKeys = true)
    (again : ∀ target, deepMerge (deepMerge target value) value = deepMerge target value) :
    overlay (some (overlay existing value)) value = overlay existing value := by
  have same := overlay_self_of (deepMerge_self value distinct)
  cases existing with
  | none => exact same
  | some old =>
      by_cases objects : old.isObject = true ∧ value.isObject = true
      · have merged : (deepMerge old value).isObject = true := by
          rw [isObject_deepMerge, objects.1]
        rw [overlay_of_objects objects.1 objects.2, overlay_of_objects merged objects.2, again]
      · rw [overlay_of_apart objects, same]

/-- Overrides that are merged already change nothing. -/
theorem deepMerge_deepMerge (target overrides : Json) (distinct : overrides.distinctKeys = true) :
    deepMerge (deepMerge target overrides) overrides = deepMerge target overrides := by
  induction overrides using field_induction generalizing target with
  | step overrides ih =>
      by_cases objects : target.isObject = true ∧ overrides.isObject = true
      · obtain ⟨target, rfl⟩ := exists_fields objects.1
        obtain ⟨fields, rfl⟩ := exists_fields objects.2
        obtain ⟨keys, values⟩ := distinctKeys_obj.mp distinct
        rw [deepMerge, deepMerge]
        refine congrArg Json.obj (mergeFields_of_absorbed ?_)
        rintro ⟨key, item⟩ inFields
        have found := lookupField_of_mem keys inFields
        have distinctItem := values _ inFields
        refine ⟨overlay (lookupField key target) item, ?_, ?_⟩
        · rw [lookupField_mergeFields keys, found]
        · exact overlay_overlay distinctItem fun inner => ih key item found inner distinctItem
      · rw [deepMerge_of_apart objects, deepMerge_of_apart objects]

theorem deepMerge_empty (target : Json) : deepMerge target (.obj []) = target := by
  cases target with
  | obj target => rw [deepMerge, mergeFields]
  | null | bool | num | str | arr =>
      exact deepMerge_of_apart fun objects => Bool.false_ne_true objects.1

/-! ## The law -/

/-- What a merge makes of a target and its overrides. -/
structure MergeLaw (target overrides merged : Json) : Prop where
  leaf : ∀ path, path ≠ [] → ∀ value, overrides.at? path = some value →
    value.isObject = false → merged.at? path = some value
  untouched : ∀ path, path ≠ [] → overrides.at? path = none →
    ¬ OverwrittenAbove target overrides path → merged.at? path = target.at? path
  object : ∀ path, path ≠ [] → ∀ value, overrides.at? path = some value →
    value.isObject = true → ∃ result, merged.at? path = some result ∧ result.isObject = true
  again : deepMerge merged overrides = merged
  empty : deepMerge target (.obj []) = target
  keepsOverrides : ∀ path, path ≠ [] → (overrides.at? path).isSome → (merged.at? path).isSome
  keepsTarget : ∀ path, path ≠ [] → (target.at? path).isSome →
    (merged.at? path).isSome ∨ OverwrittenAbove target overrides path

theorem mergeLaw_of_isObject {target overrides : Json} (object : target.isObject = true)
    (overriding : overrides.isObject = true) (distinct : overrides.distinctKeys = true) :
    MergeLaw target overrides (deepMerge target overrides) where
  leaf path _ value found leaf := by
    rw [at?_deepMerge_of_some object overriding distinct found, overlay_of_not_object _ leaf]
  untouched path _ absent kept := at?_deepMerge_of_none object distinct absent kept
  object path _ value found valueObject :=
    ⟨_, at?_deepMerge_of_some object overriding distinct found, isObject_overlay _ valueObject⟩
  again := deepMerge_deepMerge target overrides distinct
  empty := deepMerge_empty target
  keepsOverrides path _ present := by
    obtain ⟨value, found⟩ := Option.isSome_iff_exists.mp present
    rw [at?_deepMerge_of_some object overriding distinct found]
    rfl
  keepsTarget path _ present := by
    by_cases above : OverwrittenAbove target overrides path
    · exact Or.inr above
    · refine Or.inl ?_
      cases found : overrides.at? path with
      | none => rwa [at?_deepMerge_of_none object distinct found above]
      | some value =>
          rw [at?_deepMerge_of_some object overriding distinct found]
          rfl

/-- The merge of two objects obeys the law. -/
theorem deepMerge_law {target overrides : Json} (object : target.isObject = true)
    (overriding : overrides.isObject = true) (distinct : overrides.distinctKeys = true) :
    MergeLaw target overrides (deepMerge target overrides) :=
  mergeLaw_of_isObject object overriding distinct

/-- One key comes from the overrides, the other one from the target. -/
theorem deepMerge_law_nested :
    MergeLaw (.obj [("a", .obj [("b", .bool true), ("c", .null)])])
      (.obj [("a", .obj [("b", .str "x")]), ("d", .null)])
      (.obj [("a", .obj [("b", .str "x"), ("c", .null)]), ("d", .null)]) :=
  deepMerge_law rfl rfl rfl

/-- The configuration of a module obeys the law, with the overrides for its name. -/
theorem mergeModuleConfig_law {default overrides own : Json} {module : String}
    (object : default.isObject = true) (distinct : overrides.distinctKeys = true)
    (found : overrides.get? module = some own) (overriding : own.isObject = true) :
    MergeLaw default own (mergeModuleConfig default overrides module) := by
  rw [mergeModuleConfig, found]
  exact mergeLaw_of_isObject object overriding (distinctKeys_of_get? distinct found)

end AiPowerGateway.Runtime

import AiPowerGateway.Runtime.Config
import AiPowerGateway.Runtime.DeepMerge

/-!
# Precedence of configuration values

Overrides go before the base configuration, and the base before the defaults.  The merge
is deep: two objects at one path are merged, and an override that is no object takes away
everything below it.
-/

namespace AiPowerGateway.Runtime

open Json

/-! ## Merging into values that agree along a path -/

/-- A relation that a merge of the same overrides respects. -/
structure Merges (related : Json → Json → Prop) : Prop where
  compares : Comparison related
  merge : ∀ {first second} overrides, related first second →
    related (deepMerge first overrides) (deepMerge second overrides)

theorem merges_eq : Merges (· = ·) :=
  ⟨comparison_eq, fun overrides same => congrArg (deepMerge · overrides) same⟩

theorem merges_sameOrObjects : Merges SameOrObjects where
  compares := comparison_sameOrObjects
  merge overrides := by
    rintro (rfl | ⟨one, other⟩)
    · exact Or.inl rfl
    · exact Or.inr ⟨(isObject_deepMerge _ overrides).trans one,
        (isObject_deepMerge _ overrides).trans other⟩

theorem deepMerge_of_not_object {target : Json} (leaf : target.isObject = false)
    (overrides : Json) : deepMerge target overrides = target :=
  deepMerge_of_apart fun objects => Bool.false_ne_true (leaf.symm.trans objects.1)

/-- What an override makes of two values agrees, as long as merging into them does. -/
theorem Merges.agreeAlong_overlay {related : Json → Json → Prop} (merges : Merges related)
    {path : List String} {first second value : Json} (agree : AgreeAlong related path first second)
    (merged : AgreeAlong related path (deepMerge first value) (deepMerge second value)) :
    AgreeAlong related path (overlay (some first) value) (overlay (some second) value) := by
  have objects := agree.isObject merges.compares
  cases one : first.isObject with
  | false =>
      rw [overlay_of_replaced one, overlay_of_replaced (objects ▸ one)]
      exact merges.compares.agreeAlong_refl path value
  | true =>
      cases other : value.isObject with
      | false =>
          rw [overlay_of_not_object _ other, overlay_of_not_object _ other]
          exact merges.compares.agreeAlong_refl path value
      | true =>
          rw [overlay_of_objects one other, overlay_of_objects (objects ▸ one) other]
          exact merged

theorem Merges.agreeAlong {related : Json → Json → Prop} (merges : Merges related)
    {path : List String} {first second overrides : Json}
    (distinct : overrides.distinctKeys = true) (agree : AgreeAlong related path first second) :
    AgreeAlong related path (deepMerge first overrides) (deepMerge second overrides) := by
  induction path generalizing first second overrides with
  | nil => exact merges.merge overrides agree
  | cons key rest ih =>
      obtain ⟨alike, fields⟩ := agree
      cases one : first.isObject with
      | false =>
          rw [deepMerge_of_not_object one, deepMerge_of_not_object (alike ▸ one)]
          exact ⟨alike, fields⟩
      | true =>
          have other : second.isObject = true := alike ▸ one
          refine ⟨by rw [isObject_deepMerge, isObject_deepMerge, alike], ?_⟩
          rw [get?_deepMerge one distinct, get?_deepMerge other distinct]
          cases found : overrides.get? key with
          | none => exact fields
          | some value =>
              have valueDistinct := distinctKeys_of_get? distinct found
              revert fields
              generalize first.get? key = a
              generalize second.get? key = b
              rintro (deeper | -)
              · exact Option.Rel.some (merges.agreeAlong_overlay deeper (ih valueDistinct deeper))
              · exact rel_refl (merges.compares.agreeAlong_refl rest) _

/-! ## Overrides at a path -/

/--
What a path has after the merge of the overrides into a configuration that has the
settled value there.
-/
structure FollowsPrecedence (overrides settled : Json) (path : List String)
    (result : Option Json) : Prop where
  replaced : ∀ value, overrides.at? path = some value →
    (settled.isObject && value.isObject) = false → result = some value
  merged : ∀ value, overrides.at? path = some value → settled.isObject = true →
    value.isObject = true → result = some (deepMerge settled value)
  kept : overrides.at? path = none →
    (∀ front parent, front <+: path → overrides.at? front = some parent →
      parent.isObject = true) → result = some settled
  /-- An override above the path that is no object takes the path away. -/
  removed : ∀ front parent, front <+: path → front ≠ path → overrides.at? front = some parent →
    parent.isObject = false → result = none

section Precedence

variable {overrides settled value : Json} {key : String} {rest : List String}
  {result : Option Json}

theorem at?_cons_of_get? (found : overrides.get? key = some value) (path : List String) :
    overrides.at? (key :: path) = value.at? path := by
  rw [at?, found, Option.bind_some]

theorem FollowsPrecedence.cons (object : overrides.isObject = true)
    (found : overrides.get? key = some value)
    (inner : FollowsPrecedence value settled rest result) :
    FollowsPrecedence overrides settled (key :: rest) result where
  replaced given override := inner.replaced given (at?_cons_of_get? found rest ▸ override)
  merged given override := inner.merged given (at?_cons_of_get? found rest ▸ override)
  kept absent parents := by
    refine inner.kept (at?_cons_of_get? found rest ▸ absent) fun front parent leads reached => ?_
    exact parents (key :: front) parent (List.cons_prefix_cons.mpr ⟨rfl, leads⟩)
      ((at?_cons_of_get? found front).trans reached)
  removed front parent leads differs reached leaf := by
    cases front with
    | nil =>
        rw [← Option.some.inj reached, object] at leaf
        cases leaf
    | cons name front =>
        obtain ⟨rfl, deeper⟩ := List.cons_prefix_cons.mp leads
        exact inner.removed front parent deeper (fun same => differs (same ▸ rfl))
          ((at?_cons_of_get? found front).symm.trans reached) leaf

/-- Overrides without a key keep everything below it. -/
theorem followsPrecedence_of_get?_none (object : overrides.isObject = true)
    (absent : overrides.get? key = none) :
    FollowsPrecedence overrides settled (key :: rest) (some settled) := by
  have none (path : List String) : overrides.at? (key :: path) = Option.none := by
    rw [at?, absent, Option.bind_none]
  refine ⟨fun value override => ?_, fun value override => ?_, fun _ _ => rfl,
    fun front parent leads differs reached leaf => ?_⟩
  · rw [none] at override
    cases override
  · rw [none] at override
    cases override
  · cases front with
    | nil =>
        rw [← Option.some.inj reached, object] at leaf
        cases leaf
    | cons name front =>
        obtain ⟨rfl, -⟩ := List.cons_prefix_cons.mp leads
        rw [none] at reached
        cases reached

/-- An override at the path itself. -/
theorem followsPrecedence_overlay (value : Json) :
    FollowsPrecedence value settled [] (some (overlay (some settled) value)) := by
  refine ⟨fun given override leaf => ?_, fun given override one other => ?_,
    fun absent => ?_, fun front parent leads differs => ?_⟩
  · obtain rfl := Option.some.inj override
    rcases Bool.and_eq_false_iff.mp leaf with settledLeaf | valueLeaf
    · rw [overlay_of_replaced settledLeaf]
    · rw [overlay_of_not_object _ valueLeaf]
  · obtain rfl := Option.some.inj override
    rw [overlay_of_objects one other]
  · cases absent
  · exact absurd (List.prefix_nil.mp leads) differs

/-- An override above the path that is no object. -/
theorem followsPrecedence_of_leaf (leaf : value.isObject = false) (nonempty : rest ≠ []) :
    FollowsPrecedence value settled rest none := by
  have nothing : value.at? rest = none := at?_of_not_object leaf nonempty
  refine ⟨fun given override => ?_, fun given override => ?_, fun _ parents => ?_,
    fun _ _ _ _ _ _ => rfl⟩
  · rw [nothing] at override
    cases override
  · rw [nothing] at override
    cases override
  · have object := parents [] value List.nil_prefix rfl
    rw [leaf] at object
    cases object

theorem followsPrecedence_deepMerge {target : Json} {path : List String}
    (object : overrides.isObject = true) (distinct : overrides.distinctKeys = true)
    (nonempty : path ≠ []) (reached : target.at? path = some settled) :
    FollowsPrecedence overrides settled path ((deepMerge target overrides).at? path) := by
  induction path generalizing target overrides with
  | nil => exact absurd rfl nonempty
  | cons key rest ih =>
      obtain ⟨existing, found, deeper⟩ := Option.bind_eq_some_iff.mp reached
      have targetObject := isObject_of_get? found
      cases given : overrides.get? key with
      | none =>
          rw [at?, get?_deepMerge_of_none targetObject distinct given, found, Option.bind_some,
            deeper]
          exact followsPrecedence_of_get?_none object given
      | some value =>
          refine FollowsPrecedence.cons object given ?_
          rw [at?, get?_deepMerge_of_some targetObject distinct given, found, Option.bind_some]
          cases rest with
          | nil =>
              obtain rfl := Option.some.inj deeper
              exact followsPrecedence_overlay value
          | cons next rest =>
              obtain ⟨child, childFound, -⟩ := Option.bind_eq_some_iff.mp deeper
              cases leaf : value.isObject with
              | false =>
                  rw [overlay_of_not_object _ leaf,
                    at?_of_not_object leaf (List.cons_ne_nil next rest)]
                  exact followsPrecedence_of_leaf leaf (List.cons_ne_nil next rest)
              | true =>
                  rw [overlay_of_objects (isObject_of_get? childFound) leaf]
                  exact ih leaf (distinctKeys_of_get? distinct given)
                    (List.cons_ne_nil next rest) deeper

end Precedence

/-! ## Defaults -/

theorem withDefault_eq (out : Json) (field : ConfigField) :
    withDefault out field = out ∨ withDefault out field = out.setAt field.path field.default := by
  rw [withDefault]
  cases out.get? field.key with
  | none => exact Or.inr rfl
  | some value => exact Or.inl rfl

/-- What every default leaves alone, all of them do. -/
theorem agreeAlong_withDefaults {related : Json → Json → Prop} (compares : Comparison related)
    {fields : List ConfigField} {path : List String}
    (writes : ∀ field ∈ fields, ∀ out, AgreeAlong related path
      (out.setAt field.path field.default) out) (base : Json) :
    AgreeAlong related path (withDefaults fields base) base := by
  induction fields generalizing base with
  | nil => exact compares.agreeAlong_refl path base
  | cons field rest ih =>
      have later := ih (fun other mem => writes other (List.mem_cons_of_mem _ mem))
        (withDefault base field)
      refine later.trans compares ?_
      rcases withDefault_eq base field with same | written
      · rw [same]
        exact compares.agreeAlong_refl path base
      · rw [written]
        exact writes field List.mem_cons_self base

theorem agreeAlong_withDefaults_beside {fields : List ConfigField} {path : List String}
    (beside : ∀ field ∈ fields, ¬ Comparable field.path path) (base : Json) :
    AgreeAlong (· = ·) path (withDefaults fields base) base :=
  agreeAlong_withDefaults comparison_eq
    (fun field mem out => agreeAlong_setAt_of_not_comparable (beside field mem) out field.default)
    base

theorem agreeAlong_withDefaults_above {fields : List ConfigField} {path : List String}
    (outside : ∀ field ∈ fields, ¬ field.path <+: path) (base : Json) :
    AgreeAlong SameOrObjects path (withDefaults fields base) base :=
  agreeAlong_withDefaults comparison_sameOrObjects
    (fun field mem out => agreeAlong_setAt_of_not_prefix (outside field mem) out field.default)
    base

/-- The key has no dots; or the base has nothing at its path, and no field that is named by
the key as a whole. -/
def ConfigField.Settles (field : ConfigField) (base : Json) : Prop :=
  '.' ∉ field.key.toList ∨ base.at? field.path = none ∧ base.get? field.key = none

theorem at?_withDefault {field : ConfigField} {out : Json}
    (parents : ParentsAreObjects field.path out) (settles : field.Settles out) :
    (withDefault out field).at? field.path = some ((out.at? field.path).getD field.default) := by
  have written := parents.at?_setAt (segments_ne_nil field.key) field.default
  rw [withDefault]
  rcases settles with plain | ⟨absent, unnamed⟩
  · have single : field.path = [field.key] := segments_of_dot_not_mem plain
    have direct : out.at? field.path = out.get? field.key := by rw [single, at?_singleton]
    cases found : out.get? field.key with
    | none =>
        rw [direct, found]
        exact written
    | some value =>
        simp only
        rw [direct, found]
        rfl
  · rw [unnamed, absent]
    exact written

/-! ## The configuration -/

/-- Neither of two declared paths leads through the other. -/
def Incomparable (fields : List ConfigField) : Prop :=
  fields.Pairwise fun first second => ¬ Comparable first.path second.path

theorem Incomparable.beside {before after : List ConfigField} {field : ConfigField}
    (incomparable : Incomparable (before ++ field :: after)) :
    (∀ other ∈ before, ¬ Comparable other.path field.path) ∧
      ∀ other ∈ after, ¬ Comparable other.path field.path := by
  obtain ⟨-, later, across⟩ := List.pairwise_append.mp incomparable
  exact ⟨fun other mem => across other mem field List.mem_cons_self,
    fun other mem => mt comparable_comm.mp (List.rel_of_pairwise_cons later mem)⟩

/-- The value at a declared path before the overrides are merged. -/
theorem at?_withDefaults {fields : List ConfigField} {base : Json}
    (incomparable : Incomparable fields) {field : ConfigField} (mem : field ∈ fields)
    (parents : ParentsAreObjects field.path base) (settles : field.Settles base) :
    (withDefaults fields base).at? field.path =
      some ((base.at? field.path).getD field.default) := by
  obtain ⟨before, after, rfl⟩ := List.append_of_mem mem
  obtain ⟨earlier, later⟩ := incomparable.beside
  have along := agreeAlong_withDefaults_beside earlier base
  have named : (withDefaults before base).get? field.key = base.get? field.key := by
    have apart : ∀ other ∈ before, ¬ Comparable other.path [field.key] := by
      intro other otherMem
      by_cases dotted : '.' ∈ field.key.toList
      · exact not_comparable_of_dot dotted other.key
      · rw [← segments_of_dot_not_mem dotted]
        exact earlier other otherMem
    rw [← at?_singleton, ← at?_singleton]
    exact (agreeAlong_withDefaults_beside apart base).at?_eq
  have settled : field.Settles (withDefaults before base) := by
    rw [ConfigField.Settles, along.at?_eq, named]
    exact settles
  have split : withDefaults (before ++ field :: after) base =
      withDefaults after (withDefault (withDefaults before base) field) := by
    rw [withDefaults, List.foldl_append, List.foldl_cons]
    rfl
  rw [split, (agreeAlong_withDefaults_beside later _).at?_eq,
    at?_withDefault (along.parents comparison_eq parents) settled, along.at?_eq]

/-- Which values a merged configuration has. -/
structure Precedence (fields : List ConfigField) (base overrides merged : Json) : Prop where
  declared : ∀ field ∈ fields, field.Settles base →
    FollowsPrecedence overrides ((base.at? field.path).getD field.default) field.path
      (merged.at? field.path)
  /-- Off the declared paths the values are those of the deep merge. -/
  beside : ∀ path, (∀ field ∈ fields, ¬ Comparable field.path path) →
    merged.at? path = (deepMerge base overrides).at? path
  /-- Above a declared path an object may have got a default. -/
  outside : ∀ path, (∀ field ∈ fields, ¬ field.path <+: path) →
    Option.Rel SameOrObjects (merged.at? path) ((deepMerge base overrides).at? path)

/--
The overrides go before the base and the base before the defaults, by a deep merge: at
every declared path, but for dotted keys that the base already has, and off those paths.
-/
theorem merge_precedence (fields : List ConfigField) (base overrides : Json)
    (incomparable : Incomparable fields)
    (parents : ∀ field ∈ fields, ParentsAreObjects field.path base)
    (object : overrides.isObject = true) (distinct : overrides.distinctKeys = true) :
    Precedence fields base overrides (merge fields base overrides) where
  declared field mem settles :=
    followsPrecedence_deepMerge object distinct (segments_ne_nil field.key)
      (at?_withDefaults incomparable mem (parents field mem) settles)
  beside _ beside :=
    (merges_eq.agreeAlong distinct (agreeAlong_withDefaults_beside beside base)).at?_eq
  outside _ outside :=
    (merges_sameOrObjects.agreeAlong distinct (agreeAlong_withDefaults_above outside base)).at?

/-- One nested field, and one at the top. -/
def serverFields : List ConfigField :=
  [{ key := "net.port", default := .num (.posInt 39091) },
    { key := "limits", default := .null }]

def serverBase : Json :=
  .obj [("net", .obj []), ("limits", .obj [("day", .num (.posInt 1000))])]

def serverOverrides : Json := .obj [("limits", .obj [("hour", .num (.posInt 100))])]

theorem incomparable_serverFields : Incomparable serverFields := by
  simp only [Incomparable, serverFields, List.pairwise_cons, List.mem_singleton, forall_eq,
    List.not_mem_nil, false_implies, implies_true, List.Pairwise.nil, and_true]
  decide

theorem parents_serverBase :
    ∀ field ∈ serverFields, ParentsAreObjects field.path serverBase := by
  intro field mem
  simp only [serverFields, List.mem_cons, List.not_mem_nil, or_false] at mem
  rcases mem with rfl | rfl
  · have net : serverBase.get? "net" = some (.obj []) := rfl
    exact ParentsAreObjects.cons net (parentsAreObjects_singleton rfl "port")
  · exact parentsAreObjects_singleton rfl "limits"

theorem merge_precedence_server :
    Precedence serverFields serverBase serverOverrides
      (merge serverFields serverBase serverOverrides) :=
  merge_precedence serverFields serverBase serverOverrides incomparable_serverFields
    parents_serverBase rfl (by decide)

/-- The overrides value, else the base value, else the default. -/
def PlainPrecedence (fields : List ConfigField) (base overrides : Json) : Prop :=
  ∀ field ∈ fields, (merge fields base overrides).at? field.path =
    some ((overrides.at? field.path).getD ((base.at? field.path).getD field.default))

/-- The limits of both sides are there after the merge. -/
theorem limits_merged :
    (merge serverFields serverBase serverOverrides).at? ["limits"] =
        some (.obj [("day", .num (.posInt 1000)), ("hour", .num (.posInt 100))]) ∧
      Incomparable serverFields ∧
      (∀ field ∈ serverFields, ParentsAreObjects field.path serverBase) ∧
      ¬ PlainPrecedence serverFields serverBase serverOverrides := by
  have both : (merge serverFields serverBase serverOverrides).at? ["limits"] =
      some (.obj [("day", .num (.posInt 1000)), ("hour", .num (.posInt 100))]) := rfl
  refine ⟨both, incomparable_serverFields, parents_serverBase, fun plain => ?_⟩
  have limits : (merge serverFields serverBase serverOverrides).at? ["limits"] =
      some (.obj [("hour", .num (.posInt 100))]) :=
    plain { key := "limits", default := .null } (by simp [serverFields])
  rw [both] at limits
  simp at limits

end AiPowerGateway.Runtime

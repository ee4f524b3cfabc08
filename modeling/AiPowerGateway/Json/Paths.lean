import AiPowerGateway.Json.Value
import Mathlib.Logic.Relation

/-!
# Paths into a JSON value

A path is a list of keys that leads down through objects.  A value is read at a path, and
written at a path whose objects are all there.
-/

namespace AiPowerGateway.Json

def isObject (value : Json) : Bool := value.asObject?.isSome

/-- The value at a path. -/
def at? : Json → List String → Option Json
  | value, [] => some value
  | value, key :: rest => (value.get? key).bind (at? · rest)

/-- Write a field; what is no object stays as it is. -/
def setField : Json → String → Json → Json
  | .obj fields, key, item => .obj (insertField key item fields)
  | value, _, _ => value

/-- Write at a path; nothing is written when some object on the way is missing. -/
def setAt : Json → List String → Json → Json
  | value, [], _ => value
  | value, [key], item => value.setField key item
  | value, key :: next :: rest, item =>
      match value.get? key with
      | none => value
      | some child => value.setField key (setAt child (next :: rest) item)

/-- One of the two paths leads through the other. -/
def Comparable (first second : List String) : Prop := first <+: second ∨ second <+: first

instance (first second : List String) : Decidable (Comparable first second) :=
  inferInstanceAs (Decidable (_ ∨ _))

/-- Every object on the way to a path is there. -/
def ParentsAreObjects (path : List String) (value : Json) : Prop :=
  ∀ front, front <+: path → front ≠ path → ∃ parent, value.at? front = some parent ∧
    parent.isObject = true

/-! ## Distinct keys -/

mutual

/-- Every object has each of its keys once, as a map does. -/
def distinctKeys : Json → Bool
  | .arr items => distinctItems items
  | .obj fields => (fields.map (·.1)).Nodup && distinctFields fields
  | _ => true

def distinctItems : List Json → Bool
  | [] => true
  | item :: rest => distinctKeys item && distinctItems rest

def distinctFields : List (String × Json) → Bool
  | [] => true
  | (_, value) :: rest => distinctKeys value && distinctFields rest

end

theorem distinctFields_iff {fields : Fields} :
    distinctFields fields = true ↔ ∀ field ∈ fields, field.2.distinctKeys = true := by
  induction fields with
  | nil => simp [distinctFields]
  | cons field rest ih => simp [distinctFields, ih]

theorem distinctKeys_obj {fields : Fields} :
    (Json.obj fields).distinctKeys = true ↔
      (fields.map (·.1)).Nodup ∧ ∀ field ∈ fields, field.2.distinctKeys = true := by
  rw [distinctKeys, Bool.and_eq_true, decide_eq_true_eq, distinctFields_iff]

theorem mem_of_lookupField {key : String} {item : Json} {fields : Fields}
    (found : lookupField key fields = some item) : (key, item) ∈ fields := by
  induction fields with
  | nil => cases found
  | cons field rest ih =>
      obtain ⟨name, value⟩ := field
      by_cases same : name = key
      · rw [lookupField, if_pos same] at found
        rw [same, Option.some.inj found]
        exact List.mem_cons_self
      · rw [lookupField, if_neg same] at found
        exact List.mem_cons_of_mem _ (ih found)

theorem lookupField_of_mem {fields : Fields} (distinct : (fields.map (·.1)).Nodup)
    {key : String} {item : Json} (inFields : (key, item) ∈ fields) :
    lookupField key fields = some item := by
  induction fields with
  | nil => cases inFields
  | cons field rest ih =>
      obtain ⟨name, value⟩ := field
      rw [List.map_cons, List.nodup_cons] at distinct
      rcases List.mem_cons.mp inFields with same | inRest
      · cases same
        rw [lookupField, if_pos rfl]
      · have other : name ≠ key := by
          rintro rfl
          exact distinct.1 (List.mem_map.mpr ⟨_, inRest, rfl⟩)
        rw [lookupField, if_neg other]
        exact ih distinct.2 inRest

theorem lookupField_eq_none {key : String} {fields : Fields} :
    lookupField key fields = none ↔ key ∉ fields.map (·.1) := by
  induction fields with
  | nil => simp [lookupField]
  | cons field rest ih =>
      obtain ⟨name, value⟩ := field
      by_cases same : name = key
      · simp [lookupField, same]
      · rw [lookupField, if_neg same, ih, List.map_cons, List.mem_cons, not_or,
          and_iff_right (Ne.symm same)]

theorem distinctKeys_of_get? {value item : Json} {key : String}
    (distinct : value.distinctKeys = true) (found : value.get? key = some item) :
    item.distinctKeys = true := by
  cases value with
  | obj fields => exact (distinctKeys_obj.mp distinct).2 _ (mem_of_lookupField found)
  | null | bool | num | str | arr => cases found

theorem sizeOf_get?_lt {value item : Json} {key : String} (found : value.get? key = some item) :
    sizeOf item < sizeOf value := by
  cases value with
  | obj fields =>
      have smaller := List.sizeOf_lt_of_mem (mem_of_lookupField found)
      simp only [Prod.mk.sizeOf_spec, Json.obj.sizeOf_spec] at smaller ⊢
      omega
  | null | bool | num | str | arr => cases found

/-- Induction over the objects of a value. -/
theorem field_induction {motive : Json → Prop}
    (step : ∀ value, (∀ key item, value.get? key = some item → motive item) → motive value)
    (value : Json) : motive value := by
  induction size : sizeOf value using Nat.strongRecOn generalizing value with
  | ind bound ih =>
      subst size
      exact step value fun _ item found => ih _ (sizeOf_get?_lt found) item rfl

/-! ## Fields -/

theorem isObject_of_get? {value item : Json} {key : String} (found : value.get? key = some item) :
    value.isObject = true := by
  cases value with
  | obj => rfl
  | null | bool | num | str | arr => cases found

theorem exists_fields {value : Json} (object : value.isObject = true) :
    ∃ fields, value = .obj fields := by
  cases value with
  | obj fields => exact ⟨fields, rfl⟩
  | null | bool | num | str | arr => cases object

@[simp] theorem isObject_setField (value : Json) (key : String) (item : Json) :
    (value.setField key item).isObject = value.isObject := by
  cases value <;> rfl

theorem get?_setField_self {value : Json} (object : value.isObject = true) (key : String)
    (item : Json) : (value.setField key item).get? key = some item := by
  cases value with
  | obj fields => exact lookup_insert_self key item fields
  | null | bool | num | str | arr => cases object

theorem get?_setField_ne {key other : String} (differ : key ≠ other) (value item : Json) :
    (value.setField key item).get? other = value.get? other := by
  cases value with
  | obj fields => exact lookup_insert_ne differ item fields
  | null | bool | num | str | arr => rfl

theorem setField_setField_self (value : Json) (key : String) (item later : Json) :
    (value.setField key item).setField key later = value.setField key later := by
  cases value with
  | obj fields => exact congrArg Json.obj (insert_insert_self key item later fields)
  | null | bool | num | str | arr => rfl

theorem setField_setField_comm {key other : String} (differ : key ≠ other) {value a b : Json}
    (found : value.get? key = some a) (otherFound : value.get? other = some b)
    (item later : Json) :
    (value.setField other later).setField key item =
      (value.setField key item).setField other later := by
  cases value with
  | obj fields =>
      refine congrArg Json.obj (insert_insert_comm differ ?_ ?_ item later)
      · exact Option.isSome_iff_exists.mpr ⟨a, found⟩
      · exact Option.isSome_iff_exists.mpr ⟨b, otherFound⟩
  | null | bool | num | str | arr => rfl

theorem at?_singleton (value : Json) (key : String) : value.at? [key] = value.get? key := by
  rw [at?]
  cases value.get? key <;> rfl

/-- There is nothing below a value that is no object. -/
theorem at?_of_not_object {value : Json} (leaf : value.isObject = false) {path : List String}
    (below : path ≠ []) : value.at? path = none := by
  cases path with
  | nil => exact absurd rfl below
  | cons key rest =>
      cases value with
      | obj => cases leaf
      | null | bool | num | str | arr => rfl

/-! ## Comparable paths -/

theorem comparable_comm {first second : List String} :
    Comparable first second ↔ Comparable second first := or_comm

/-! ## Values that agree along a path -/

/-- A relation that writing and merging at a place respect. -/
structure Comparison (related : Json → Json → Prop) : Prop where
  refl : ∀ value, related value value
  trans : ∀ {first second third}, related first second → related second third →
    related first third
  isObject : ∀ {first second}, related first second → first.isObject = second.isObject

/-- The same objects lead down the path, and the values at its end are related. -/
def AgreeAlong (related : Json → Json → Prop) : List String → Json → Json → Prop
  | [], first, second => related first second
  | key :: rest, first, second =>
      first.isObject = second.isObject ∧
        Option.Rel (AgreeAlong related rest) (first.get? key) (second.get? key)

/-- The same value, or two objects. -/
def SameOrObjects (first second : Json) : Prop :=
  first = second ∨ first.isObject = true ∧ second.isObject = true

theorem comparison_eq : Comparison (· = ·) := ⟨fun _ => rfl, Eq.trans, congrArg Json.isObject⟩

theorem comparison_sameOrObjects : Comparison SameOrObjects where
  refl _ := Or.inl rfl
  trans := by
    rintro first second third (rfl | ⟨one, other⟩) (rfl | ⟨again, last⟩)
    · exact Or.inl rfl
    · exact Or.inr ⟨again, last⟩
    · exact Or.inr ⟨one, other⟩
    · exact Or.inr ⟨one, last⟩
  isObject := by
    rintro first second (rfl | ⟨one, other⟩)
    · rfl
    · rw [one, other]

section Agree

variable {related : Json → Json → Prop} {path : List String} {first second third : Json}

theorem rel_bind {ρ : Json → Json → Prop} {one other : Option Json} {f g : Json → Option Json}
    (rel : Option.Rel ρ one other) (each : ∀ a b, ρ a b → Option.Rel related (f a) (g b)) :
    Option.Rel related (one.bind f) (other.bind g) := by
  cases rel with
  | some rel => exact each _ _ rel
  | none => exact Option.Rel.none

theorem rel_refl {ρ : Json → Json → Prop} (refl : ∀ value, ρ value value) (found : Option Json) :
    Option.Rel ρ found found := by
  cases found with
  | none => exact Option.Rel.none
  | some value => exact Option.Rel.some (refl value)

theorem AgreeAlong.at? (agree : AgreeAlong related path first second) :
    Option.Rel related (first.at? path) (second.at? path) := by
  induction path generalizing first second with
  | nil => exact Option.Rel.some agree
  | cons key rest ih =>
      obtain ⟨-, fields⟩ := agree
      exact rel_bind fields fun _ _ deeper => ih deeper

theorem AgreeAlong.at?_eq (agree : AgreeAlong (· = ·) path first second) :
    first.at? path = second.at? path := by
  have rel := agree.at?
  revert rel
  generalize first.at? path = one
  generalize second.at? path = other
  rintro (rfl | -)
  · rfl
  · rfl

theorem Comparison.agreeAlong_refl (compares : Comparison related) (path : List String)
    (value : Json) : AgreeAlong related path value value := by
  induction path generalizing value with
  | nil => exact compares.refl value
  | cons key rest ih => exact ⟨rfl, rel_refl ih _⟩

theorem AgreeAlong.trans (compares : Comparison related)
    (one : AgreeAlong related path first second) (other : AgreeAlong related path second third) :
    AgreeAlong related path first third := by
  induction path generalizing first second third with
  | nil => exact compares.trans one other
  | cons key rest ih =>
      refine ⟨one.1.trans other.1, ?_⟩
      have front := one.2
      have back := other.2
      revert front back
      generalize first.get? key = a
      generalize second.get? key = b
      generalize third.get? key = c
      rintro (deeper | -) (further | -)
      · exact Option.Rel.some (ih deeper further)
      · exact Option.Rel.none

theorem AgreeAlong.isObject (compares : Comparison related)
    (agree : AgreeAlong related path first second) : first.isObject = second.isObject := by
  cases path with
  | nil => exact compares.isObject agree
  | cons key rest => exact agree.1

/-- On the way the same objects are there. -/
theorem AgreeAlong.front (compares : Comparison related)
    (agree : AgreeAlong related path first second) {front : List String} (leads : front <+: path) :
    AgreeAlong (fun one other => one.isObject = other.isObject) front first second := by
  induction front generalizing path first second with
  | nil => exact agree.isObject compares
  | cons key front ih =>
      obtain ⟨rest, rfl⟩ := leads
      refine ⟨agree.1, ?_⟩
      have fields := agree.2
      revert fields
      generalize first.get? key = a
      generalize second.get? key = b
      rintro (deeper | -)
      · exact Option.Rel.some (ih deeper (List.prefix_append front rest))
      · exact Option.Rel.none

theorem AgreeAlong.parents (compares : Comparison related)
    (agree : AgreeAlong related path first second) (parents : ParentsAreObjects path second) :
    ParentsAreObjects path first := by
  intro front leads differs
  obtain ⟨parent, found, object⟩ := parents front leads differs
  have rel := (agree.front compares leads).at?
  rw [found] at rel
  revert rel
  generalize first.at? front = reached
  rintro (same | -)
  exact ⟨_, rfl, same.trans object⟩

end Agree

/-! ## Writing at a path -/

section Writing

variable {value item : Json}

theorem isObject_setAt (value : Json) (path : List String) (item : Json) :
    (value.setAt path item).isObject = value.isObject := by
  match path with
  | [] => rfl
  | [key] => exact isObject_setField value key item
  | key :: next :: rest =>
      rw [setAt]
      cases value.get? key with
      | none => rfl
      | some child => exact isObject_setField value key _

theorem get?_setAt_ne {key other : String} (differ : key ≠ other) (value : Json)
    (rest : List String) (item : Json) :
    (value.setAt (key :: rest) item).get? other = value.get? other := by
  match rest with
  | [] => exact get?_setField_ne differ value item
  | next :: rest =>
      rw [setAt]
      cases value.get? key with
      | none => rfl
      | some child => exact get?_setField_ne differ value _

/-- A write changes nothing along the paths that do not lead through its place; where they
lead to it, what stands above is still an object. -/
theorem Comparison.agreeAlong_setAt {related : Json → Json → Prop} (compares : Comparison related)
    {path other : List String} (apart : ¬ path <+: other)
    (above : other <+: path → ∀ value rest, rest ≠ [] → related (setAt value rest item) value)
    (value : Json) : AgreeAlong related other (value.setAt path item) value := by
  induction other generalizing path value with
  | nil => exact above List.nil_prefix value path fun empty => apart (empty ▸ List.nil_prefix)
  | cons name other ih =>
      match path with
      | [] => exact absurd List.nil_prefix apart
      | key :: rest =>
          refine ⟨isObject_setAt value _ item, ?_⟩
          by_cases same : key = name
          · subst same
            rw [List.cons_prefix_cons, and_iff_right rfl] at apart
            match rest with
            | [] => exact absurd List.nil_prefix apart
            | next :: rest =>
                rw [setAt]
                cases found : value.get? key with
                | none =>
                    simp only [found]
                    exact Option.Rel.none
                | some child =>
                    simp only [get?_setField_self (isObject_of_get? found)]
                    exact Option.Rel.some (ih apart
                      (fun leads => above (List.cons_prefix_cons.mpr ⟨rfl, leads⟩)) child)
          · rw [get?_setAt_ne same]
            exact rel_refl (compares.agreeAlong_refl other) _

/-- A write leaves every path alone that is not comparable with its own. -/
theorem agreeAlong_setAt_of_not_comparable {path other : List String}
    (apart : ¬ Comparable path other) (value item : Json) :
    AgreeAlong (· = ·) other (value.setAt path item) value :=
  comparison_eq.agreeAlong_setAt (fun leads => apart (Or.inl leads))
    (fun leads => absurd (Or.inr leads) apart) value

theorem sameOrObjects_setAt (value : Json) (path : List String) (nonempty : path ≠ []) :
    SameOrObjects (value.setAt path item) value := by
  cases object : value.isObject with
  | true => exact Or.inr ⟨(isObject_setAt value path item).trans object, object⟩
  | false =>
      match path, nonempty with
      | [key], _ =>
          cases value with
          | obj => cases object
          | null | bool | num | str | arr => exact Or.inl rfl
      | key :: next :: rest, _ =>
          cases value with
          | obj => cases object
          | null | bool | num | str | arr => exact Or.inl rfl

theorem agreeAlong_setAt_of_not_prefix {path other : List String} (apart : ¬ path <+: other)
    (value item : Json) : AgreeAlong SameOrObjects other (value.setAt path item) value :=
  comparison_sameOrObjects.agreeAlong_setAt apart (fun _ => sameOrObjects_setAt) value

theorem ParentsAreObjects.isObject {key : String} {rest : List String}
    (parents : ParentsAreObjects (key :: rest) value) : value.isObject = true := by
  obtain ⟨parent, found, object⟩ := parents [] List.nil_prefix (List.cons_ne_nil _ _).symm
  rwa [Option.some.inj found]

theorem ParentsAreObjects.exists_child {key next : String} {rest : List String}
    (parents : ParentsAreObjects (key :: next :: rest) value) :
    ∃ child, value.get? key = some child ∧ ParentsAreObjects (next :: rest) child := by
  obtain ⟨parent, found, object⟩ := parents [key] ⟨next :: rest, rfl⟩ (by simp)
  obtain ⟨child, get, -⟩ := Option.bind_eq_some_iff.mp found
  refine ⟨child, get, fun front leads differs => ?_⟩
  obtain ⟨deeper, reached, deeperObject⟩ := parents (key :: front)
    (List.cons_prefix_cons.mpr ⟨rfl, leads⟩) (fun same => differs (List.cons.inj same).2)
  rw [at?, get, Option.bind_some] at reached
  exact ⟨deeper, reached, deeperObject⟩

theorem parentsAreObjects_singleton (object : value.isObject = true) (key : String) :
    ParentsAreObjects [key] value := by
  intro front leads differs
  rcases List.prefix_cons_iff.mp leads with rfl | ⟨rest, rfl, nothing⟩
  · exact ⟨value, rfl, object⟩
  · exact absurd (by rw [List.prefix_nil.mp nothing]) differs

theorem ParentsAreObjects.cons {key : String} {path : List String} {child : Json}
    (found : value.get? key = some child) (parents : ParentsAreObjects path child) :
    ParentsAreObjects (key :: path) value := by
  intro front leads differs
  rcases List.prefix_cons_iff.mp leads with rfl | ⟨rest, rfl, deeper⟩
  · exact ⟨value, rfl, isObject_of_get? found⟩
  · rw [at?, found, Option.bind_some]
    exact parents rest deeper fun same => differs (same ▸ rfl)

/-- What is written is read back. -/
theorem ParentsAreObjects.at?_setAt {path : List String} (parents : ParentsAreObjects path value)
    (nonempty : path ≠ []) (item : Json) : (value.setAt path item).at? path = some item := by
  induction path generalizing value with
  | nil => exact absurd rfl nonempty
  | cons key rest ih =>
      cases rest with
      | nil =>
          rw [setAt, at?, get?_setField_self parents.isObject]
          rfl
      | cons next rest =>
          obtain ⟨child, found, deeper⟩ := parents.exists_child
          rw [setAt, found, at?, get?_setField_self parents.isObject, Option.bind_some]
          exact ih deeper (List.cons_ne_nil next rest)

end Writing

/-! ## Values that are equal but for some places -/

/-- Another value at one of the paths, where one was. -/
def ReplacedAt (paths : List (List String)) (allowed : Json → Json → Prop)
    (first second : Json) : Prop :=
  ∃ path ∈ paths, ∃ old item, first.at? path = some old ∧ allowed old item ∧
    second = first.setAt path item

/-- Equal but for the values at the paths. -/
def EqualExcept (paths : List (List String)) (allowed : Json → Json → Prop) :
    Json → Json → Prop :=
  Relation.ReflTransGen (ReplacedAt paths allowed)

/-- Off the paths nothing differs. -/
theorem EqualExcept.at?_eq {paths : List (List String)} {allowed : Json → Json → Prop}
    {first second : Json} (equal : EqualExcept paths allowed first second) {other : List String}
    (beside : ∀ path ∈ paths, ¬ Comparable path other) : second.at? other = first.at? other := by
  induction equal with
  | refl => rfl
  | tail _ step ih =>
      obtain ⟨path, mem, old, item, -, -, rfl⟩ := step
      rw [← ih]
      exact (agreeAlong_setAt_of_not_comparable (beside path mem) _ item).at?_eq

end AiPowerGateway.Json

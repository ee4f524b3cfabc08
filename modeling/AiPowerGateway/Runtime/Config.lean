import AiPowerGateway.Json.Paths
import AiPowerGateway.Runtime.Boot

/-!
# Configuration of modules

A module declares its configuration fields by dotted keys, with defaults and marks for
secrets.  The defaults are put into a base configuration, then the overrides are merged
into it, object into object.
-/

namespace AiPowerGateway.Runtime

open Json

inductive Sensitivity where
  | normal
  /-- Hidden when the configuration is read, exported or logged. -/
  | secret
  deriving DecidableEq, Repr

structure ConfigField where
  /-- A dotted path. -/
  key : String
  default : Json
  sensitivity : Sensitivity := .normal

/-- `split('.')` -/
def segments (path : String) : List String := (path.toList.splitOn '.').map String.ofList

def ConfigField.path (field : ConfigField) : List String := segments field.key

/-! ## Merging -/

/-- Write at a dotted path, if the objects on the way are there. -/
def setPath (target : Json) (path : String) (value : Json) : Json :=
  target.setAt (segments path) value

/-- The default of a field, when the whole dotted key is no field of the configuration. -/
def withDefault (out : Json) (field : ConfigField) : Json :=
  match out.get? field.key with
  | none => setPath out field.key field.default
  | some _ => out

def withDefaults (fields : List ConfigField) (base : Json) : Json :=
  fields.foldl withDefault base

def merge (fields : List ConfigField) (base overrides : Json) : Json :=
  deepMerge (withDefaults fields base) overrides

/-! ## Redaction -/

/-- What is shown of a secret. -/
def masked : Json → Json
  | .null => .null
  | _ => .bool true

def redactField (out : Json) (field : ConfigField) : Json :=
  match field.sensitivity with
  | .normal => out
  | .secret =>
      match out.get? field.key with
      | none => out
      | some value => out.setField field.key (masked value)

def redact (fields : List ConfigField) (value : Json) : Json := fields.foldl redactField value

/-! ## Segments of a key -/

theorem segments_ne_nil (path : String) : segments path ≠ [] := by
  rw [segments, Ne, List.map_eq_nil_iff]
  exact List.splitOn_ne_nil _ _

theorem not_mem_of_mem_splitOn {text : List Char} {separator : Char} :
    ∀ part ∈ text.splitOn separator, separator ∉ part := by
  induction text with
  | nil =>
      intro part mem
      rw [List.splitOn_nil, List.mem_singleton] at mem
      rw [mem]
      exact List.not_mem_nil
  | cons c text ih =>
      rw [List.splitOn_cons_eq_if_modifyHead]
      split
      · intro part mem
        rcases List.mem_cons.mp mem with rfl | mem
        · exact List.not_mem_nil
        · exact ih part mem
      · next other =>
        cases parts : text.splitOn separator with
        | nil => exact absurd parts (List.splitOn_ne_nil _ _)
        | cons head tail =>
            rw [parts] at ih
            intro part mem
            rcases List.mem_cons.mp mem with rfl | mem
            · refine List.not_mem_cons_of_ne_of_not_mem (fun same => ?_)
                (ih head List.mem_cons_self)
              exact other (by simp [same])
            · exact ih part (List.mem_cons_of_mem _ mem)

theorem dot_not_mem_segment {path segment : String} (mem : segment ∈ segments path) :
    '.' ∉ segment.toList := by
  obtain ⟨part, partMem, rfl⟩ := List.mem_map.mp mem
  rw [String.toList_ofList]
  exact not_mem_of_mem_splitOn part partMem

/-- A key without dots is its own path. -/
theorem segments_of_dot_not_mem {path : String} (plain : '.' ∉ path.toList) :
    segments path = [path] := by
  rw [segments, List.splitOn_eq_singleton plain, List.map_singleton, String.ofList_toList]

/-- A key with dots is no segment, so no path leads to a field of that name. -/
theorem not_comparable_of_dot {key : String} (dotted : '.' ∈ key.toList) (path : String) :
    ¬ Comparable (segments path) [key] := by
  have segment : key ∉ segments path := fun mem => dot_not_mem_segment mem dotted
  rintro (⟨rest, whole⟩ | ⟨rest, whole⟩)
  · cases parts : segments path with
    | nil => exact segments_ne_nil path parts
    | cons head tail =>
        rw [parts, List.cons_append] at whole
        rw [parts, (List.cons.inj whole).1] at segment
        exact segment List.mem_cons_self
  · rw [← whole] at segment
    exact segment List.mem_cons_self

end AiPowerGateway.Runtime

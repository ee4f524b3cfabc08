import Mathlib.Algebra.Ring.Nat
import Mathlib.Data.List.Basic

/-!
# JSON values

A JSON document as a program that reads it by key sees it.  An object is the
list of its fields: a lookup reads the first field of a key, and a store writes
that field in place.  No reader asks for the order of the fields.
-/

namespace AiPowerGateway

/-- A JSON number: an unsigned integer, an integer below zero, or a fraction. -/
inductive Number where
  | posInt (value : UInt64)
  /-- The integer `-(magnitude + 1)`. -/
  | negInt (magnitude : Fin (2 ^ 63))
  /-- The decimal `mantissa * 10 ^ exponent`. -/
  | float (mantissa exponent : Int)
  deriving DecidableEq, Repr

inductive Json where
  | null
  | bool (flag : Bool)
  | num (number : Number)
  | str (text : String)
  | arr (items : List Json)
  | obj (fields : List (String × Json))
  deriving Repr, Inhabited

namespace Json

abbrev Fields := List (String × Json)

/-! ## Decidable equality and the absence of fractions -/

mutual

def decEq : (left right : Json) → Decidable (left = right)
  | .null, .null => isTrue rfl
  | .bool a, .bool b => decidable_of_iff (a = b) (by simp)
  | .num a, .num b => decidable_of_iff (a = b) (by simp)
  | .str a, .str b => decidable_of_iff (a = b) (by simp)
  | .arr as, .arr bs =>
      match decEqItems as bs with
      | isTrue same => isTrue (by rw [same])
      | isFalse differ => isFalse (by simpa using differ)
  | .obj as, .obj bs =>
      match decEqFields as bs with
      | isTrue same => isTrue (by rw [same])
      | isFalse differ => isFalse (by simpa using differ)
  | .null, .bool _ | .null, .num _ | .null, .str _ | .null, .arr _ | .null, .obj _
  | .bool _, .null | .bool _, .num _ | .bool _, .str _ | .bool _, .arr _ | .bool _, .obj _
  | .num _, .null | .num _, .bool _ | .num _, .str _ | .num _, .arr _ | .num _, .obj _
  | .str _, .null | .str _, .bool _ | .str _, .num _ | .str _, .arr _ | .str _, .obj _
  | .arr _, .null | .arr _, .bool _ | .arr _, .num _ | .arr _, .str _ | .arr _, .obj _
  | .obj _, .null | .obj _, .bool _ | .obj _, .num _ | .obj _, .str _ | .obj _, .arr _ =>
      isFalse (by simp)

def decEqItems : (left right : List Json) → Decidable (left = right)
  | [], [] => isTrue rfl
  | [], _ :: _ | _ :: _, [] => isFalse (by simp)
  | a :: as, b :: bs =>
      match decEq a b, decEqItems as bs with
      | isTrue same, isTrue rest => isTrue (by rw [same, rest])
      | isFalse differ, _ => isFalse (by simp [differ])
      | _, isFalse differ => isFalse (by simp [differ])

def decEqFields : (left right : List (String × Json)) → Decidable (left = right)
  | [], [] => isTrue rfl
  | [], _ :: _ | _ :: _, [] => isFalse (by simp)
  | (j, a) :: as, (k, b) :: bs =>
      match decEq a b, decEqFields as bs with
      | isTrue same, isTrue rest =>
          decidable_of_iff (j = k) (by simp [same, rest])
      | isFalse differ, _ => isFalse (by simp [differ])
      | _, isFalse differ => isFalse (by simp [differ])

end

instance : DecidableEq Json := decEq

mutual

/-- No fraction occurs in the value, so printing it loses no precision. -/
def fractionFree : Json → Bool
  | .num (.float _ _) => false
  | .arr items => fractionFreeItems items
  | .obj fields => fractionFreeFields fields
  | _ => true

def fractionFreeItems : List Json → Bool
  | [] => true
  | item :: rest => fractionFree item && fractionFreeItems rest

def fractionFreeFields : List (String × Json) → Bool
  | [] => true
  | (_, value) :: rest => fractionFree value && fractionFreeFields rest

end

/-! ## Reading a value -/

def asStr? : Json → Option String
  | .str text => some text
  | _ => none

def asBool? : Json → Option Bool
  | .bool flag => some flag
  | _ => none

def asU64? : Json → Option UInt64
  | .num (.posInt value) => some value
  | _ => none

/-- An integer of 64 bits with sign. -/
def asI64? : Json → Option Int
  | .num (.posInt value) => if value.toNat < 2 ^ 63 then some value.toNat else none
  | .num (.negInt magnitude) => some (-(magnitude.val + 1 : Int))
  | _ => none

def asArray? : Json → Option (List Json)
  | .arr items => some items
  | _ => none

def asObject? : Json → Option Fields
  | .obj fields => some fields
  | _ => none

@[simp] theorem asStr?_str (text : String) : (Json.str text).asStr? = some text := rfl

@[simp] theorem asBool?_bool (flag : Bool) : (Json.bool flag).asBool? = some flag := rfl

@[simp] theorem asArray?_arr (items : List Json) : (Json.arr items).asArray? = some items := rfl

@[simp] theorem asU64?_posInt (value : UInt64) :
    (Json.num (.posInt value)).asU64? = some value := rfl

theorem asStr?_eq_some {value : Json} {text : String} (read : value.asStr? = some text) :
    value = .str text := by
  cases value <;> simp_all [asStr?]

/-- An index or a counter printed as a JSON number. -/
def ofNat (n : Nat) : Json := .num (.posInt (UInt64.ofNat n))

/-! ## Fields of an object -/

def lookupField (key : String) : Fields → Option Json
  | [] => none
  | (name, value) :: rest => if name = key then some value else lookupField key rest

def insertField (key : String) (value : Json) : Fields → Fields
  | [] => [(key, value)]
  | (name, old) :: rest =>
      if name = key then (name, value) :: rest else (name, old) :: insertField key value rest

/-- The field of a key; a value that is no object has no fields. -/
def get? : Json → String → Option Json
  | .obj fields, key => lookupField key fields
  | _, _ => none

/-- Index assignment.  `null` becomes an object; every other value that is no
object has no fields to assign, and the assignment panics. -/
def set? : Json → String → Json → Option Json
  | .null, key, value => some (.obj [(key, value)])
  | .obj fields, key, value => some (.obj (insertField key value fields))
  | _, _, _ => none

/-- The values that an index assignment works on. -/
def takesFields : Json → Bool
  | .null => true
  | .obj _ => true
  | _ => false

def removeField : Json → String → Json
  | .obj fields, key => .obj (fields.filter fun field => field.1 ≠ key)
  | value, _ => value

def item? : Json → Nat → Option Json
  | .arr items, index => items[index]?
  | _, _ => none

/-- The text of a field, when the field is there and is a string. -/
def text? (value : Json) (key : String) : Option String :=
  (value.get? key).bind asStr?

def textOr (value : Json) (key fallback : String) : String :=
  (value.text? key).getD fallback

@[simp] theorem get?_obj_nil (key : String) : (Json.obj []).get? key = none := rfl

@[simp] theorem get?_obj_cons (name key : String) (value : Json) (rest : Fields) :
    (Json.obj ((name, value) :: rest)).get? key =
      if name = key then some value else (Json.obj rest).get? key := rfl

@[simp] theorem get?_str (text key : String) : (Json.str text).get? key = none := rfl

@[simp] theorem get?_arr (items : List Json) (key : String) : (Json.arr items).get? key = none :=
  rfl

theorem lookup_insert_self (key : String) (value : Json) (fields : Fields) :
    lookupField key (insertField key value fields) = some value := by
  induction fields with
  | nil => simp [insertField, lookupField]
  | cons field rest ih =>
      obtain ⟨name, old⟩ := field
      by_cases same : name = key
      · simp [insertField, lookupField, same]
      · simp [insertField, lookupField, same, ih]

theorem lookup_insert_ne {key other : String} (differ : key ≠ other) (value : Json)
    (fields : Fields) :
    lookupField other (insertField key value fields) = lookupField other fields := by
  induction fields with
  | nil => simp [insertField, lookupField, differ]
  | cons field rest ih =>
      obtain ⟨name, old⟩ := field
      by_cases same : name = key
      · subst same
        simp [insertField, lookupField, differ]
      · simp [insertField, lookupField, same, ih]

/-- Writing the value a key already has changes nothing. -/
theorem insert_of_lookup {key : String} {value : Json} {fields : Fields}
    (found : lookupField key fields = some value) : insertField key value fields = fields := by
  induction fields with
  | nil => simp [lookupField] at found
  | cons field rest ih =>
      obtain ⟨name, old⟩ := field
      by_cases same : name = key
      · simp_all [insertField, lookupField]
      · simp only [lookupField, same, if_false] at found
        simp [insertField, same, ih found]

theorem insert_insert_self (key : String) (value later : Json) (fields : Fields) :
    insertField key later (insertField key value fields) = insertField key later fields := by
  induction fields with
  | nil => simp [insertField]
  | cons field rest ih =>
      obtain ⟨name, old⟩ := field
      by_cases same : name = key
      · simp [insertField, same]
      · simp [insertField, same, ih]

/-- Writes of two keys that are there commute. -/
theorem insert_insert_comm {key other : String} (differ : key ≠ other) {fields : Fields}
    (there : (lookupField key fields).isSome = true)
    (otherThere : (lookupField other fields).isSome = true) (value item : Json) :
    insertField key value (insertField other item fields) =
      insertField other item (insertField key value fields) := by
  induction fields with
  | nil => simp [lookupField] at there
  | cons field rest ih =>
      obtain ⟨name, old⟩ := field
      by_cases same : name = key
      · subst same
        simp [insertField, differ]
      · by_cases otherSame : name = other
        · subst otherSame
          simp [insertField, same]
        · simp only [lookupField, if_neg same] at there
          simp only [lookupField, if_neg otherSame] at otherThere
          simp [insertField, same, otherSame, ih there otherThere]

theorem isSome_set? (value : Json) (key : String) (item : Json) :
    (value.set? key item).isSome = value.takesFields := by
  cases value <;> rfl

theorem takesFields_of_set? {value updated item : Json} {key : String}
    (stored : value.set? key item = some updated) : updated.takesFields = true := by
  cases value with
  | null | obj =>
      cases stored
      rfl
  | bool | num | str | arr => cases stored

theorem takesFields_removeField (value : Json) (key : String) :
    (value.removeField key).takesFields = value.takesFields := by
  cases value <;> rfl

theorem get?_set?_self {value updated item : Json} {key : String}
    (stored : value.set? key item = some updated) : updated.get? key = some item := by
  cases value with
  | null => simp only [set?, Option.some.injEq] at stored; simp [← stored]
  | obj fields =>
      simp only [set?, Option.some.injEq] at stored
      simpa [← stored, get?] using lookup_insert_self key item fields
  | bool | num | str | arr => simp [set?] at stored

theorem get?_set?_ne {value updated item : Json} {key other : String}
    (stored : value.set? key item = some updated) (differ : key ≠ other) :
    updated.get? other = value.get? other := by
  cases value with
  | null =>
      simp only [set?, Option.some.injEq] at stored
      simp [← stored, get?, lookupField, differ]
  | obj fields =>
      simp only [set?, Option.some.injEq] at stored
      simpa [← stored, get?] using lookup_insert_ne differ item fields
  | bool | num | str | arr => simp [set?] at stored

theorem set?_of_get? {value item : Json} {key : String} (found : value.get? key = some item) :
    value.set? key item = some value := by
  cases value with
  | obj fields => simp [set?, insert_of_lookup (by simpa [get?] using found)]
  | null | bool | num | str | arr => simp [get?] at found

theorem lookup_remove_ne {key other : String} (differ : key ≠ other) (fields : Fields) :
    lookupField other (fields.filter fun field => field.1 ≠ key) = lookupField other fields := by
  induction fields with
  | nil => rfl
  | cons field rest ih =>
      obtain ⟨name, value⟩ := field
      by_cases removed : name = key
      · rw [List.filter_cons_of_neg (by simp [removed]), ih]
        simp [lookupField, removed, differ]
      · rw [List.filter_cons_of_pos (by simp [removed])]
        simp only [lookupField, ih]

theorem get?_removeField_ne {key other : String} (differ : key ≠ other) (value : Json) :
    (value.removeField key).get? other = value.get? other := by
  cases value with
  | obj fields => exact lookup_remove_ne differ fields
  | null | bool | num | str | arr => rfl

theorem text?_set?_self {value updated : Json} {key text : String}
    (stored : value.set? key (.str text) = some updated) : updated.text? key = some text := by
  simp [text?, get?_set?_self stored]

end Json

end AiPowerGateway

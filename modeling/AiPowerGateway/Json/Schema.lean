import AiPowerGateway.Json.Value
import AiPowerGateway.Numbers.F64

/-!
# Reading records from JSON

Readers for optional values, lists, fields with defaults and records, each with the law that
it reads back what the matching printer prints.
-/

namespace AiPowerGateway.Json

open Numbers (F64)

variable {α : Type}

/-- `null` for no value. -/
def ofOption (print : α → Json) : Option α → Json
  | none => .null
  | some value => print value

def toOption? (read : Json → Option α) : Json → Option (Option α)
  | .null => some none
  | value => (read value).map some

def ofList (print : α → Json) (values : List α) : Json := .arr (values.map print)

def toList? (read : Json → Option α) (value : Json) : Option (List α) :=
  value.asArray?.bind (List.mapM read)

/-- A field, or what stands for a missing one; with no default the field is required. -/
def field? (value : Json) (key : String) (missing : Option α) (read : Json → Option α) :
    Option α :=
  match value.get? key with
  | some field => read field
  | none => missing

/-- A record of so many members: an object, or an array of no more values. -/
def record? (size : Nat) : Json → Option Json
  | .obj fields => some (.obj fields)
  | .arr items => if items.length ≤ size then some (.arr items) else none
  | _ => none

/-- A member of a record: under its key in an object, at its place in an array. -/
def member? (record : Json) (place : Nat) (key : String) (missing : Option α)
    (read : Json → Option α) : Option α :=
  match record with
  | .arr items => (items[place]?).elim missing read
  | _ => field? record key missing read

@[simp] theorem record?_obj (size : Nat) (fields : Fields) :
    record? size (.obj fields) = some (.obj fields) := rfl

@[simp] theorem member?_obj (fields : Fields) (place : Nat) (key : String) (missing : Option α)
    (read : Json → Option α) :
    member? (.obj fields) place key missing read = field? (.obj fields) key missing read := rfl

/-- An unsigned number of 32 bits. -/
def asU32? (value : Json) : Option UInt32 :=
  value.asU64?.bind fun number =>
    if number.toNat < UInt32.size then some number.toUInt32 else none

theorem asU32?_ofU32 (number : UInt32) :
    (Json.num (.posInt number.toUInt64)).asU32? = some number := by
  have small : number.toNat < UInt32.size := number.toNat_lt
  simp [asU32?, small]

/-- The value of a number as it is written. -/
def Number.value : Number → ℚ
  | .posInt value => value.toNat
  | .negInt magnitude => -(magnitude.val + 1 : ℚ)
  | .float mantissa exponent => mantissa * 10 ^ exponent

/-- The nearest double. -/
def asF64? : Json → Option F64
  | .num number => some (.ofRat (Number.value number))
  | _ => none

/-- A double, with all digits of its value. -/
def ofF64 (double : F64) : Json :=
  let place := Numbers.lastPlace double.val
  let digits := Numbers.digits double.val
  .num (if 0 ≤ place then .float (digits * 2 ^ place.toNat) 0
    else .float (digits * 5 ^ (-place).toNat) place)

/-- Binary digits are decimal ones. -/
theorem value_binary (digits place : ℤ) :
    Number.value (if 0 ≤ place then .float (digits * 2 ^ place.toNat) 0
      else .float (digits * 5 ^ (-place).toNat) place) = digits * 2 ^ place := by
  split
  case isTrue above =>
    obtain ⟨count, rfl⟩ := Int.eq_ofNat_of_zero_le above
    simp [Number.value]
  case isFalse below =>
    obtain ⟨count, negated⟩ := Int.eq_ofNat_of_zero_le (Int.le_of_lt (by omega) : 0 ≤ -place)
    obtain rfl : place = -count := by omega
    have ten : (10 : ℚ) ^ count = 5 ^ count * 2 ^ count := by
      rw [← mul_pow]
      norm_num
    simp only [Number.value, neg_neg, Int.toNat_natCast, zpow_neg, zpow_natCast, ten]
    push_cast
    field_simp

theorem asF64?_ofF64 (double : F64) : asF64? (ofF64 double) = some double := by
  rw [ofF64, asF64?, value_binary, ← Numbers.nearest, double.property, F64.ofRat_val]

theorem toOption?_ofOption {print : α → Json} {read : Json → Option α}
    (reads : ∀ value, read (print value) = some value) (visible : ∀ value, print value ≠ .null)
    (value : Option α) : toOption? read (ofOption print value) = some value := by
  cases value with
  | none => rfl
  | some value =>
      have present := visible value
      have readsValue := reads value
      unfold ofOption toOption?
      split
      · contradiction
      · rw [readsValue]
        rfl

theorem toOption?_str (text : String) : toOption? asStr? (.str text) = some (some text) := rfl

theorem toOption?_ofF64 (double : F64) : toOption? asF64? (ofF64 double) = some (some double) := by
  show (asF64? (ofF64 double)).map some = _
  rw [asF64?_ofF64, Option.map_some]

theorem toList?_ofList {print : α → Json} {read : Json → Option α}
    (reads : ∀ value, read (print value) = some value) (values : List α) :
    toList? read (ofList print values) = some values := by
  rw [ofList, toList?, asArray?_arr, Option.bind_some, List.mapM_map]
  induction values with
  | nil => rfl
  | cons value values ih => simp [List.mapM_cons, reads, ih]

theorem toOption?_ofOption_str (text : Option String) :
    toOption? asStr? (ofOption .str text) = some text := by
  cases text <;> rfl

theorem toList?_ofList_str (texts : List String) :
    toList? asStr? (ofList .str texts) = some texts :=
  toList?_ofList asStr?_str texts

end AiPowerGateway.Json

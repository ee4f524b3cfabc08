import AiPowerGateway.Encodings.Codec

/-!
# Base64

The standard alphabet with padding: three bytes are four digits of six bits.  A text is
read back only if its last group is padded as it is written, without bits left over.
-/

namespace AiPowerGateway.Base64

/-! ## Digits -/

def digit (value : Nat) : Char :=
  if value < 26 then Char.ofNat (65 + value)
  else if value < 52 then Char.ofNat (97 + (value - 26))
  else if value < 62 then Char.ofNat (48 + (value - 52))
  else if value = 62 then '+'
  else '/'

def value? (c : Char) : Option Nat :=
  if 'A' ≤ c ∧ c ≤ 'Z' then some (c.toNat - 65)
  else if 'a' ≤ c ∧ c ≤ 'z' then some (c.toNat - 97 + 26)
  else if '0' ≤ c ∧ c ≤ '9' then some (c.toNat - 48 + 52)
  else if c = '+' then some 62
  else if c = '/' then some 63
  else none

theorem value?_digit {value : Nat} (small : value < 64) : value? (digit value) = some value := by
  revert value
  decide

theorem digit_ne {value : Nat} (small : value < 64) {c : Char} (other : value? c = none) :
    digit value ≠ c := by
  rintro rfl
  rw [value?_digit small] at other
  cases other

/-! ## Groups -/

def encode : List UInt8 → List Char
  | [] => []
  | [a] => [digit (a.toNat / 4), digit (a.toNat % 4 * 16), '=', '=']
  | [a, b] =>
      [digit (a.toNat / 4), digit (a.toNat % 4 * 16 + b.toNat / 16), digit (b.toNat % 16 * 4), '=']
  | a :: b :: c :: rest =>
      digit (a.toNat / 4) :: digit (a.toNat % 4 * 16 + b.toNat / 16) ::
        digit (b.toNat % 16 * 4 + c.toNat / 64) :: digit (c.toNat % 64) :: encode rest

/-- Four digits are three bytes. -/
def decodeGroup (w x y z : Char) : Option (List UInt8) := do
  let w ← value? w
  let x ← value? x
  let y ← value? y
  let z ← value? z
  some [UInt8.ofNat (w * 4 + x / 16), UInt8.ofNat (x % 16 * 16 + y / 4),
    UInt8.ofNat (y % 4 * 64 + z)]

/-- The last group can be padded; the bits that pad it are zero. -/
def decodeLast (w x y z : Char) : Option (List UInt8) :=
  if z ≠ '=' then decodeGroup w x y z
  else if y ≠ '=' then do
    let w ← value? w
    let x ← value? x
    let y ← value? y
    if y % 4 = 0 then some [UInt8.ofNat (w * 4 + x / 16), UInt8.ofNat (x % 16 * 16 + y / 4)]
    else none
  else do
    let w ← value? w
    let x ← value? x
    if x % 16 = 0 then some [UInt8.ofNat (w * 4 + x / 16)] else none

def decode? : List Char → Option (List UInt8)
  | [] => some []
  | [w, x, y, z] => decodeLast w x y z
  | w :: x :: y :: z :: rest => do
      let group ← decodeGroup w x y z
      let bytes ← decode? rest
      some (group ++ bytes)
  | _ => none

theorem decode?_group {w x y z : Char} (whole : z ≠ '=') (rest : List Char) :
    decode? (w :: x :: y :: z :: rest) =
      (decodeGroup w x y z).bind fun group => (decode? rest).map (group ++ ·) := by
  cases rest with
  | nil =>
      have last : decode? [w, x, y, z] = decodeGroup w x y z := if_pos whole
      rw [last, decode?]
      cases decodeGroup w x y z with
      | none => rfl
      | some group => simp
  | cons next rest =>
      rw [decode?]
      · cases decodeGroup w x y z with
        | none => rfl
        | some group => cases decode? (next :: rest) <;> rfl
      · simp

section Bytes

variable (a b c : UInt8)

theorem decodeGroup_digits :
    decodeGroup (digit (a.toNat / 4)) (digit (a.toNat % 4 * 16 + b.toNat / 16))
      (digit (b.toNat % 16 * 4 + c.toNat / 64)) (digit (c.toNat % 64)) = some [a, b, c] := by
  have boundA := a.toNat_lt
  have boundB := b.toNat_lt
  have boundC := c.toNat_lt
  have first : a.toNat / 4 * 4 + (a.toNat % 4 * 16 + b.toNat / 16) / 16 = a.toNat := by omega
  have second : (a.toNat % 4 * 16 + b.toNat / 16) % 16 * 16 +
      (b.toNat % 16 * 4 + c.toNat / 64) / 4 = b.toNat := by omega
  have third : (b.toNat % 16 * 4 + c.toNat / 64) % 4 * 64 + c.toNat % 64 = c.toNat := by omega
  rw [decodeGroup, value?_digit (by omega), value?_digit (by omega), value?_digit (by omega),
    value?_digit (by omega)]
  simp only [Option.bind_eq_bind, Option.bind_some, first, second, third, UInt8.ofNat_toNat]

theorem decodeLast_pair :
    decodeLast (digit (a.toNat / 4)) (digit (a.toNat % 4 * 16 + b.toNat / 16))
      (digit (b.toNat % 16 * 4)) '=' = some [a, b] := by
  have boundA := a.toNat_lt
  have boundB := b.toNat_lt
  have whole : digit (b.toNat % 16 * 4) ≠ '=' := digit_ne (by omega) (by decide)
  have first : a.toNat / 4 * 4 + (a.toNat % 4 * 16 + b.toNat / 16) / 16 = a.toNat := by omega
  have second : (a.toNat % 4 * 16 + b.toNat / 16) % 16 * 16 + b.toNat % 16 * 4 / 4 = b.toNat := by
    omega
  have padding : b.toNat % 16 * 4 % 4 = 0 := by omega
  rw [decodeLast, if_neg (not_not.mpr rfl), if_pos whole, value?_digit (by omega),
    value?_digit (by omega), value?_digit (by omega)]
  simp only [Option.bind_eq_bind, Option.bind_some, first, second, padding, ↓reduceIte,
    UInt8.ofNat_toNat]

theorem decodeLast_single :
    decodeLast (digit (a.toNat / 4)) (digit (a.toNat % 4 * 16)) '=' '=' = some [a] := by
  have bound := a.toNat_lt
  have first : a.toNat / 4 * 4 + a.toNat % 4 * 16 / 16 = a.toNat := by omega
  have padding : a.toNat % 4 * 16 % 16 = 0 := by omega
  rw [decodeLast, if_neg (not_not.mpr rfl), if_neg (not_not.mpr rfl), value?_digit (by omega),
    value?_digit (by omega)]
  simp only [Option.bind_eq_bind, Option.bind_some, first, padding, ↓reduceIte, UInt8.ofNat_toNat]

end Bytes

/-- What is encoded is read back. -/
theorem decode?_encode (bytes : List UInt8) : decode? (encode bytes) = some bytes := by
  induction bytes using encode.induct with
  | case1 => rfl
  | case2 a => exact decodeLast_single a
  | case3 a b => exact decodeLast_pair a b
  | case4 a b c rest ih =>
      have whole : digit (c.toNat % 64) ≠ '=' := digit_ne (by omega) (by decide)
      rw [encode, decode?_group whole, decodeGroup_digits, ih]
      rfl

/-- A text has digits and padding only. -/
theorem notMem_encode {c : Char} (other : value? c = none) (noPadding : c ≠ '=')
    (bytes : List UInt8) : c ∉ encode bytes := by
  have differ {value : Nat} (small : value < 64) : c ≠ digit value := (digit_ne small other).symm
  induction bytes using encode.induct with
  | case1 => exact List.not_mem_nil
  | case2 a =>
      have bound := a.toNat_lt
      simp [encode, noPadding, differ (show a.toNat / 4 < 64 by omega),
        differ (show a.toNat % 4 * 16 < 64 by omega)]
  | case3 a b =>
      have boundA := a.toNat_lt
      have boundB := b.toNat_lt
      simp [encode, noPadding, differ (show a.toNat / 4 < 64 by omega),
        differ (show a.toNat % 4 * 16 + b.toNat / 16 < 64 by omega),
        differ (show b.toNat % 16 * 4 < 64 by omega)]
  | case4 a b c rest ih =>
      have boundA := a.toNat_lt
      have boundB := b.toNat_lt
      have boundC := c.toNat_lt
      simp [encode, ih, differ (show a.toNat / 4 < 64 by omega),
        differ (show a.toNat % 4 * 16 + b.toNat / 16 < 64 by omega),
        differ (show b.toNat % 16 * 4 + c.toNat / 64 < 64 by omega),
        differ (show c.toNat % 64 < 64 by omega)]

/-- The standard encoding, for texts with colons between them. -/
def standard : Codec UInt8 Char ':' where
  encode := encode
  decode? := decode?
  decode?_encode := decode?_encode
  separator_notMem := notMem_encode (by decide) (by decide)

end AiPowerGateway.Base64

import Mathlib.Tactic.Ring
import AiPowerGateway.Json.Value
import AiPowerGateway.Text.Basic

/-!
# Compact JSON text

A printer without insignificant blanks and a reader of JSON text, over the
characters of a text.  The reader returns a value and the characters after it;
its fuel bounds the nesting and the lengths of arrays and objects.  It reads no
surrogate pair, and the printer writes none.
-/

namespace AiPowerGateway.Json.Compact

/-! ## Strings -/

def simpleEscapes : List (Char × Char) :=
  [('"', '"'), ('\\', '\\'), ('b', '\x08'), ('f', '\x0c'), ('n', '\n'), ('r', '\r'), ('t', '\t')]

def escapeChar (c : Char) : List Char :=
  match simpleEscapes.find? (·.2 = c) with
  | some (letter, _) => ['\\', letter]
  | none =>
      if c.toNat < 32 then
        ['\\', 'u', '0', '0', Nat.digitChar (c.toNat / 16), Nat.digitChar (c.toNat % 16)]
      else [c]

def writeString (text : List Char) : List Char := '"' :: text.flatMap escapeChar ++ ['"']

def hexValue? (c : Char) : Option Nat :=
  if '0' ≤ c ∧ c ≤ '9' then some (c.toNat - 48)
  else if 'a' ≤ c ∧ c ≤ 'f' then some (c.toNat - 87)
  else if 'A' ≤ c ∧ c ≤ 'F' then some (c.toNat - 55)
  else none

/-- The character of four hexadecimal digits, unless they are half of a pair. -/
def codePoint? (digits : List Char) : Option Char := do
  let values ← digits.mapM hexValue?
  let code := values.foldl (fun total value => 16 * total + value) 0
  if 0xD800 ≤ code ∧ code ≤ 0xDFFF then none else some (Char.ofNat code)

/-- Where the reader of a string stands: between characters, after a backslash,
or inside the digits of `\u`. -/
inductive StringState where
  | plain
  | escape
  | hex (digits : List Char)

def prepend (c : Char) (result : List Char × List Char) : List Char × List Char :=
  (c :: result.1, result.2)

/-- The characters up to the closing quote, and the input after it. -/
def readString : StringState → List Char → Option (List Char × List Char)
  | _, [] => none
  | .plain, c :: rest =>
      if c = '"' then some ([], rest)
      else if c = '\\' then readString .escape rest
      else (readString .plain rest).map (prepend c)
  | .escape, letter :: rest =>
      if letter = 'u' then readString (.hex []) rest
      else match (('/', '/') :: simpleEscapes).find? (·.1 = letter) with
        | some (_, c) => (readString .plain rest).map (prepend c)
        | none => none
  | .hex digits, digit :: rest =>
      if digits.length = 3 then
        match codePoint? (digits ++ [digit]) with
        | some c => (readString .plain rest).map (prepend c)
        | none => none
      else readString (.hex (digits ++ [digit])) rest

theorem codePoint?_control : ∀ n < 32,
    codePoint? ['0', '0', Nat.digitChar (n / 16), Nat.digitChar (n % 16)] =
      some (Char.ofNat n) := by
  decide

/-- The letter after a backslash stands for the character it escapes. -/
theorem find?_letter {c letter : Char} {escaped : Char}
    (found : simpleEscapes.find? (·.2 = c) = some (letter, escaped)) :
    escaped = c ∧ letter ≠ 'u' ∧
      (('/', '/') :: simpleEscapes).find? (·.1 = letter) = some (letter, c) := by
  have isChar : escaped = c := by simpa using List.find?_some found
  subst isChar
  have listed : (letter, escaped) ∈ simpleEscapes := List.mem_of_find?_eq_some found
  have table : ∀ entry ∈ simpleEscapes, entry.1 ≠ 'u' ∧
      (('/', '/') :: simpleEscapes).find? (·.1 = entry.1) = some entry := by decide
  exact ⟨rfl, (table _ listed).1, (table _ listed).2⟩

theorem readString_escape (c : Char) (rest : List Char) :
    readString .plain (escapeChar c ++ rest) = (readString .plain rest).map (prepend c) := by
  cases found : simpleEscapes.find? (·.2 = c) with
  | some entry =>
      obtain ⟨letter, escaped⟩ := entry
      obtain ⟨rfl, notHex, named⟩ := find?_letter found
      simp [escapeChar, found, readString, notHex, named]
  | none =>
      have plain : ∀ entry ∈ simpleEscapes, entry.2 ≠ c := by simpa using found
      have noQuote : c ≠ '"' := fun same => plain ('"', '"') (by decide) same.symm
      have noSlash : c ≠ '\\' := fun same => plain ('\\', '\\') (by decide) same.symm
      by_cases control : c.toNat < 32
      · have code := codePoint?_control c.toNat control
        rw [Char.ofNat_toNat] at code
        simp [escapeChar, found, control, readString, code]
      · simp [escapeChar, found, control, readString, noQuote, noSlash]

/-- A written string is read back, and the input after its quote is left. -/
theorem readString_write (text rest : List Char) :
    readString .plain (text.flatMap escapeChar ++ '"' :: rest) = some (text, rest) := by
  induction text with
  | nil => simp [readString]
  | cons c text ih =>
      rw [List.flatMap_cons, List.append_assoc, readString_escape, ih]
      rfl

/-! ## Numbers -/

def writeNat (n : Nat) : List Char := Nat.toDigits 10 n

def writeInt : Int → List Char
  | .ofNat n => writeNat n
  | .negSucc n => '-' :: writeNat (n + 1)

def writeNumber : Number → List Char
  | .posInt value => writeNat value.toNat
  | .negInt magnitude => '-' :: writeNat (magnitude.val + 1)
  | .float mantissa exponent => writeInt mantissa ++ 'e' :: writeInt exponent

def digitsValue (digits : List Char) : Nat := Nat.ofDigitChars 10 digits 0

def readDigits (input : List Char) : List Char × List Char :=
  (input.takeWhile Char.isDigit, input.dropWhile Char.isDigit)

/-- An optional minus sign. -/
def readSign : List Char → Bool × List Char
  | [] => (false, [])
  | c :: rest => if c = '-' then (true, rest) else (false, c :: rest)

def signed (negative : Bool) (n : Nat) : Int := if negative then -(n : Int) else n

/-- The digits after a point; none without a point. -/
def readFraction : List Char → List Char × List Char
  | [] => ([], [])
  | c :: rest => if c = '.' then readDigits rest else ([], c :: rest)

/-- The exponent after `e` or `E`; none without one. -/
def readExponent : List Char → Option Int × List Char
  | [] => (none, [])
  | c :: rest =>
      if c = 'e' ∨ c = 'E' then
        let (negative, more) := readSign (if rest.head? = some '+' then rest.drop 1 else rest)
        let (digits, after) := readDigits more
        (some (signed negative (digitsValue digits)), after)
      else (none, c :: rest)

/-- An integer in the range of its kind; other numbers are fractions. -/
def integer (negative : Bool) (n : Nat) : Number :=
  if negative then
    if bound : 0 < n ∧ n - 1 < 2 ^ 63 then .negInt ⟨n - 1, bound.2⟩ else .float (-(n : Int)) 0
  else if n < 2 ^ 64 then .posInt (UInt64.ofNat n) else .float n 0

def readNumber (input : List Char) : Option (Number × List Char) :=
  let (negative, rest) := readSign input
  let (digits, rest) := readDigits rest
  let (fraction, rest) := readFraction rest
  let (exponent, rest) := readExponent rest
  if digits = [] then none
  else if fraction = [] ∧ exponent = none then
    some (integer negative (digitsValue digits), rest)
  else
    some (.float (signed negative (digitsValue (digits ++ fraction)))
      (exponent.getD 0 - fraction.length), rest)

/-- No character that would continue a number comes next. -/
def Stops (rest : List Char) : Prop :=
  ∀ c ∈ rest.head?, ¬ c.isDigit ∧ c ≠ '.' ∧ c ≠ 'e' ∧ c ≠ 'E'

theorem isDigit_writeNat {n : Nat} {c : Char} (mem : c ∈ writeNat n) : c.isDigit :=
  Nat.isDigit_of_mem_toDigits (by decide) (by decide) mem

theorem writeNat_ne_nil (n : Nat) : writeNat n ≠ [] := Nat.toDigits_ne_nil

@[simp] theorem digitsValue_writeNat (n : Nat) : digitsValue (writeNat n) = n :=
  Nat.ofDigitChars_ten_toDigits

theorem readDigits_append {digits rest : List Char} (all : ∀ c ∈ digits, c.isDigit)
    (stop : ∀ c ∈ rest.head?, ¬ c.isDigit) : readDigits (digits ++ rest) = (digits, rest) := by
  have first : rest.takeWhile Char.isDigit = [] := by
    cases rest with
    | nil => rfl
    | cons c rest => simp [stop c (by simp)]
  have second : rest.dropWhile Char.isDigit = rest := by
    cases rest with
    | nil => rfl
    | cons c rest => simp [stop c (by simp)]
  rw [readDigits, List.takeWhile_append_of_pos all, List.dropWhile_append_of_pos all, first,
    second, List.append_nil]

theorem readDigits_writeNat (n : Nat) {rest : List Char}
    (stop : ∀ c ∈ rest.head?, ¬ c.isDigit) :
    readDigits (writeNat n ++ rest) = (writeNat n, rest) :=
  readDigits_append (fun _ mem => isDigit_writeNat mem) stop

theorem head?_writeNat (n : Nat) (rest : List Char) :
    ∃ c tail, writeNat n ++ rest = c :: tail ∧ c.isDigit := by
  cases digits : writeNat n with
  | nil => exact absurd digits (writeNat_ne_nil n)
  | cons c tail =>
      exact ⟨c, tail ++ rest, rfl, isDigit_writeNat (n := n) (by simp [digits])⟩

theorem readSign_writeNat (n : Nat) (rest : List Char) :
    readSign (writeNat n ++ rest) = (false, writeNat n ++ rest) := by
  obtain ⟨c, tail, starts, digit⟩ := head?_writeNat n rest
  have noSign : c ≠ '-' := fun same => by subst same; exact absurd digit (by decide)
  simp [starts, readSign, noSign]

theorem readSign_writeInt (value : Int) (rest : List Char) :
    readSign (writeInt value ++ rest) =
      (decide (value < 0), writeNat value.natAbs ++ rest) := by
  cases value with
  | ofNat n =>
      have sign : ¬ Int.ofNat n < 0 := by simp
      rw [decide_eq_false sign]
      exact readSign_writeNat n rest
  | negSucc n => simp [writeInt, readSign, Int.natAbs]

theorem signed_natAbs (value : Int) : signed (decide (value < 0)) value.natAbs = value := by
  unfold signed
  by_cases negative : value < 0
  · rw [decide_eq_true negative, if_pos rfl]
    omega
  · rw [decide_eq_false negative, if_neg Bool.false_ne_true]
    omega

theorem readFraction_of_ne {rest : List Char} (stop : ∀ c ∈ rest.head?, c ≠ '.') :
    readFraction rest = ([], rest) := by
  cases rest with
  | nil => rfl
  | cons c rest => simp [readFraction, stop c (by simp)]

theorem readExponent_of_ne {rest : List Char} (stop : ∀ c ∈ rest.head?, c ≠ 'e' ∧ c ≠ 'E') :
    readExponent rest = (none, rest) := by
  cases rest with
  | nil => rfl
  | cons c rest => simp [readExponent, stop c (by simp)]

theorem head?_writeInt_ne_plus (value : Int) (rest : List Char) :
    (writeInt value ++ rest).head? ≠ some '+' := by
  cases value with
  | ofNat n =>
      obtain ⟨c, tail, starts, digit⟩ := head?_writeNat n rest
      have noPlus : c ≠ '+' := fun same => by subst same; exact absurd digit (by decide)
      simpa [writeInt, starts] using noPlus
  | negSucc n => simp [writeInt]

theorem readExponent_write (value : Int) {rest : List Char}
    (stop : ∀ c ∈ rest.head?, ¬ c.isDigit) :
    readExponent ('e' :: (writeInt value ++ rest)) = (some value, rest) := by
  simp only [readExponent, true_or, if_true, head?_writeInt_ne_plus, if_false]
  rw [readSign_writeInt]
  simp only [readDigits_writeNat _ stop, digitsValue_writeNat, signed_natAbs]

/-- A number read off digits that no point, exponent or digit follows. -/
theorem readNumber_integer (negative : Bool) (n : Nat) {rest : List Char} (stops : Stops rest) :
    readNumber ((if negative then ['-'] else []) ++ (writeNat n ++ rest)) =
      some (integer negative n, rest) := by
  have digitStop : ∀ c ∈ rest.head?, ¬ c.isDigit := fun c mem => (stops c mem).1
  have fractionStop : ∀ c ∈ rest.head?, c ≠ '.' := fun c mem => (stops c mem).2.1
  have exponentStop : ∀ c ∈ rest.head?, c ≠ 'e' ∧ c ≠ 'E' := fun c mem => (stops c mem).2.2
  have sign : readSign ((if negative then ['-'] else []) ++ (writeNat n ++ rest)) =
      (negative, writeNat n ++ rest) := by
    cases negative with
    | false => simpa using readSign_writeNat n rest
    | true => simp [readSign]
  rw [readNumber, sign]
  simp only [readDigits_writeNat n digitStop, readFraction_of_ne fractionStop,
    readExponent_of_ne exponentStop, writeNat_ne_nil, if_false, and_self, if_true,
    digitsValue_writeNat]

theorem readNumber_write (number : Number) {rest : List Char} (stops : Stops rest) :
    readNumber (writeNumber number ++ rest) = some (number, rest) := by
  cases number with
  | posInt value =>
      have range : value.toNat < 2 ^ 64 := value.toNat_lt
      have read := readNumber_integer false value.toNat stops
      have kind : integer false value.toNat = .posInt value := by
        rw [integer, if_neg (by decide), if_pos range, UInt64.ofNat_toNat]
      rwa [kind] at read
  | negInt magnitude =>
      have read := readNumber_integer true (magnitude.val + 1) stops
      have kind : integer true (magnitude.val + 1) = .negInt magnitude := by
        simp [integer]
      rwa [kind] at read
  | float mantissa exponent =>
      have digitStop : ∀ c ∈ rest.head?, ¬ c.isDigit := fun c mem => (stops c mem).1
      have mantissaStop : ∀ c ∈ ('e' :: (writeInt exponent ++ rest)).head?, ¬ c.isDigit := by
        simp
      have noPoint : ∀ c ∈ ('e' :: (writeInt exponent ++ rest)).head?, c ≠ '.' := by simp
      rw [writeNumber, List.append_assoc, List.cons_append, readNumber, readSign_writeInt]
      simp only [readDigits_writeNat _ mantissaStop, readFraction_of_ne noPoint,
        readExponent_write _ digitStop, writeNat_ne_nil, if_false, List.append_nil,
        digitsValue_writeNat, signed_natAbs]
      simp

/-! ## Values -/

mutual

def write : Json → List Char
  | .null => ['n', 'u', 'l', 'l']
  | .bool true => ['t', 'r', 'u', 'e']
  | .bool false => ['f', 'a', 'l', 's', 'e']
  | .num number => writeNumber number
  | .str text => writeString text.toList
  | .arr [] => ['[', ']']
  | .arr (item :: rest) => '[' :: write item ++ writeItems rest
  | .obj [] => ['{', '}']
  | .obj ((key, value) :: rest) =>
      '{' :: writeString key.toList ++ ':' :: write value ++ writeFields rest

/-- The items after the first, up to the closing bracket. -/
def writeItems : List Json → List Char
  | [] => [']']
  | item :: rest => ',' :: write item ++ writeItems rest

/-- The fields after the first, up to the closing brace. -/
def writeFields : List (String × Json) → List Char
  | [] => ['}']
  | (key, value) :: rest =>
      ',' :: writeString key.toList ++ ':' :: write value ++ writeFields rest

end

def skipBlanks (input : List Char) : List Char :=
  input.dropWhile fun c => c = ' ' || c = '\n' || c = '\r' || c = '\t'

/-- The input after a given word. -/
def readWord (word input : List Char) : Option (List Char) :=
  if word.isPrefixOf input then some (input.drop word.length) else none

/-- A quoted key and the colon after it. -/
def readKey (input : List Char) : Option (String × List Char) :=
  match skipBlanks input with
  | '"' :: rest =>
      match readString .plain rest with
      | some (key, rest) =>
          match skipBlanks rest with
          | ':' :: rest => some (String.ofList key, rest)
          | _ => none
      | none => none
  | _ => none

mutual

def read : Nat → List Char → Option (Json × List Char)
  | 0, _ => none
  | fuel + 1, input =>
      match skipBlanks input with
      | [] => none
      | c :: rest =>
          if c = 'n' then (readWord ['u', 'l', 'l'] rest).map fun rest => (.null, rest)
          else if c = 't' then
            (readWord ['r', 'u', 'e'] rest).map fun rest => (.bool true, rest)
          else if c = 'f' then
            (readWord ['a', 'l', 's', 'e'] rest).map fun rest => (.bool false, rest)
          else if c = '"' then
            (readString .plain rest).map fun result => (.str (String.ofList result.1), result.2)
          else if c = '[' then
            if (skipBlanks rest).head? = some ']' then some (.arr [], (skipBlanks rest).drop 1)
            else (readItems fuel rest).map fun result => (.arr result.1, result.2)
          else if c = '{' then
            if (skipBlanks rest).head? = some '}' then some (.obj [], (skipBlanks rest).drop 1)
            else (readFields fuel rest).map fun result => (.obj result.1, result.2)
          else (readNumber (c :: rest)).map fun result => (.num result.1, result.2)

/-- At least one item, up to the closing bracket. -/
def readItems : Nat → List Char → Option (List Json × List Char)
  | 0, _ => none
  | fuel + 1, input =>
      match read fuel input with
      | none => none
      | some (item, rest) =>
          match skipBlanks rest with
          | [] => none
          | c :: rest =>
              if c = ',' then
                (readItems fuel rest).map fun result => (item :: result.1, result.2)
              else if c = ']' then some ([item], rest)
              else none

/-- At least one field, up to the closing brace. -/
def readFields : Nat → List Char → Option (List (String × Json) × List Char)
  | 0, _ => none
  | fuel + 1, input =>
      match readKey input with
      | none => none
      | some (key, rest) =>
          match read fuel rest with
          | none => none
          | some (value, rest) =>
              match skipBlanks rest with
              | [] => none
              | c :: rest =>
                  if c = ',' then
                    (readFields fuel rest).map fun result => ((key, value) :: result.1, result.2)
                  else if c = '}' then some ([(key, value)], rest)
                  else none

end

/-- The value of a text that holds one value and blanks around it. -/
def ofText (text : String) : Option Json :=
  match read (2 * text.length + 2) text.toList with
  | some (value, rest) => if skipBlanks rest = [] then some value else none
  | none => none

def toText (value : Json) : String := String.ofList (write value)

/-! ## Reading what was written -/

mutual

/-- The fuel that reading a written value uses. -/
def depth : Json → Nat
  | .arr items => depthItems items + 1
  | .obj fields => depthFields fields + 1
  | _ => 1

def depthItems : List Json → Nat
  | [] => 0
  | item :: rest => depth item + depthItems rest + 1

def depthFields : List (String × Json) → Nat
  | [] => 0
  | (_, value) :: rest => depth value + depthFields rest + 1

end

/-- The first character of a written value: no blank, no closing bracket. -/
theorem head?_write (value : Json) (rest : List Char) :
    ∃ c tail, write value ++ rest = c :: tail ∧
      c ∉ [' ', '\n', '\r', '\t', ']', '}'] := by
  have digitHead : ∀ n : Nat, ∀ rest : List Char, ∃ c tail, writeNat n ++ rest = c :: tail ∧
      c ∉ [' ', '\n', '\r', '\t', ']', '}'] := by
    intro n rest
    obtain ⟨c, tail, starts, digit⟩ := head?_writeNat n rest
    refine ⟨c, tail, starts, fun mem => ?_⟩
    have blank : [' ', '\n', '\r', '\t', ']', '}'].all (!·.isDigit) := by decide
    simpa [digit] using List.all_eq_true.mp blank c mem
  cases value with
  | null => exact ⟨'n', _, rfl, by decide⟩
  | bool flag =>
      cases flag with
      | false => exact ⟨'f', _, rfl, by decide⟩
      | true => exact ⟨'t', _, rfl, by decide⟩
  | num number =>
      cases number with
      | posInt value => exact digitHead _ rest
      | negInt magnitude => exact ⟨'-', _, rfl, by decide⟩
      | float mantissa exponent =>
          cases mantissa with
          | ofNat n =>
              have head := digitHead n ('e' :: writeInt exponent ++ rest)
              simpa [write, writeNumber, writeInt] using head
          | negSucc n => exact ⟨'-', _, rfl, by decide⟩
  | str text => exact ⟨'"', _, rfl, by decide⟩
  | arr items => cases items <;> exact ⟨'[', _, rfl, by decide⟩
  | obj fields => cases fields <;> exact ⟨'{', _, rfl, by decide⟩

theorem skipBlanks_cons {c : Char} (visible : c ∉ [' ', '\n', '\r', '\t']) (rest : List Char) :
    skipBlanks (c :: rest) = c :: rest := by
  simp only [List.mem_cons, List.not_mem_nil, or_false, not_or] at visible
  simp [skipBlanks, visible]

theorem skipBlanks_write (value : Json) (rest : List Char) :
    skipBlanks (write value ++ rest) = write value ++ rest := by
  obtain ⟨c, tail, starts, visible⟩ := head?_write value rest
  rw [starts]
  exact skipBlanks_cons (fun mem => visible (by simp only [List.mem_cons] at mem ⊢; tauto)) tail

theorem readKey_write (key : String) (rest : List Char) :
    readKey (writeString key.toList ++ ':' :: rest) = some (key, rest) := by
  have text := readString_write key.toList (':' :: rest)
  simp [readKey, writeString, skipBlanks, text]

theorem stops_writeItems (items : List Json) (rest : List Char) :
    Stops (writeItems items ++ rest) := by
  cases items <;> simp [Stops, writeItems]

theorem stops_writeFields (fields : List (String × Json)) (rest : List Char) :
    Stops (writeFields fields ++ rest) := by
  cases fields with
  | nil => simp [Stops, writeFields]
  | cons field fields => simp [Stops, writeFields]

/-- The reader undoes the printer on one value, whatever follows it. -/
def Reads (value : Json) : Prop :=
  ∀ fuel rest, depth value ≤ fuel → Stops rest →
    read fuel (write value ++ rest) = some (value, rest)

theorem reads_num (number : Number) : Reads (.num number) := by
  intro fuel rest enough stops
  obtain ⟨fuel, rfl⟩ : ∃ n, fuel = n + 1 := ⟨fuel - 1, by simp [depth] at enough; omega⟩
  have digitHead : ∀ n : Nat, ∀ rest : List Char, ∃ c tail, writeNat n ++ rest = c :: tail ∧
      c ∉ ['n', 't', 'f', '"', '[', '{'] := by
    intro n rest
    obtain ⟨c, tail, starts, digit⟩ := head?_writeNat n rest
    refine ⟨c, tail, starts, fun mem => ?_⟩
    have letters : ['n', 't', 'f', '"', '[', '{'].all (!·.isDigit) := by decide
    simpa [digit] using List.all_eq_true.mp letters c mem
  have head : ∃ c tail, writeNumber number ++ rest = c :: tail ∧
      c ∉ ['n', 't', 'f', '"', '[', '{'] := by
    cases number with
    | posInt value => exact digitHead _ rest
    | negInt magnitude => exact ⟨'-', _, rfl, by decide⟩
    | float mantissa exponent =>
        cases mantissa with
        | ofNat n =>
            have head := digitHead n ('e' :: writeInt exponent ++ rest)
            simpa [writeNumber, writeInt] using head
        | negSucc n => exact ⟨'-', _, rfl, by decide⟩
  obtain ⟨c, tail, starts, other⟩ := head
  have number_read := readNumber_write number stops
  have visible := skipBlanks_write (.num number) rest
  simp only [List.mem_cons, List.not_mem_nil, or_false, not_or] at other
  rw [write, starts] at *
  simp [read, visible, other, number_read]

mutual

theorem read_write : (value : Json) → Reads value
  | .num number => reads_num number
  | .null => by
      intro fuel rest enough stops
      obtain ⟨fuel, rfl⟩ : ∃ n, fuel = n + 1 := ⟨fuel - 1, by simp [depth] at enough; omega⟩
      simp [read, write, skipBlanks, readWord]
  | .bool flag => by
      intro fuel rest enough stops
      obtain ⟨fuel, rfl⟩ : ∃ n, fuel = n + 1 := ⟨fuel - 1, by simp [depth] at enough; omega⟩
      cases flag <;> simp [read, write, skipBlanks, readWord]
  | .str text => by
      intro fuel rest enough stops
      obtain ⟨fuel, rfl⟩ : ∃ n, fuel = n + 1 := ⟨fuel - 1, by simp [depth] at enough; omega⟩
      have quoted := readString_write text.toList rest
      simp [read, write, writeString, skipBlanks, quoted]
  | .arr [] => by
      intro fuel rest enough stops
      obtain ⟨fuel, rfl⟩ : ∃ n, fuel = n + 1 := ⟨fuel - 1, by simp [depth] at enough; omega⟩
      simp [read, write, skipBlanks]
  | .arr (item :: items) => by
      intro fuel rest enough stops
      obtain ⟨fuel, rfl⟩ : ∃ n, fuel = n + 1 := ⟨fuel - 1, by simp [depth] at enough; omega⟩
      have more := readItems_write items item (read_write item) fuel rest
        (by simp only [depth] at enough; omega)
      obtain ⟨c, tail, starts, visible⟩ := head?_write item (writeItems items ++ rest)
      have noEnd : (skipBlanks (write item ++ (writeItems items ++ rest))).head? ≠ some ']' := by
        rw [skipBlanks_write, starts]
        rintro ⟨⟩
        exact visible (by decide)
      simp only [write, List.cons_append, List.append_assoc, read]
      rw [skipBlanks_cons (by decide)]
      simp [noEnd, more]
  | .obj [] => by
      intro fuel rest enough stops
      obtain ⟨fuel, rfl⟩ : ∃ n, fuel = n + 1 := ⟨fuel - 1, by simp [depth] at enough; omega⟩
      simp [read, write, skipBlanks]
  | .obj ((key, value) :: fields) => by
      intro fuel rest enough stops
      obtain ⟨fuel, rfl⟩ : ∃ n, fuel = n + 1 := ⟨fuel - 1, by simp [depth] at enough; omega⟩
      have more := readFields_write fields key value (read_write value) fuel rest
        (by simp only [depth] at enough; omega)
      have noEnd : (skipBlanks (writeString key.toList ++
          ':' :: (write value ++ (writeFields fields ++ rest)))).head? ≠ some '}' := by
        simp [writeString, skipBlanks]
      simp only [write, List.cons_append, List.append_assoc, read]
      rw [skipBlanks_cons (by decide)]
      simp [noEnd, more]

theorem readItems_write : (items : List Json) → ∀ item, Reads item → ∀ fuel rest,
    depthItems (item :: items) ≤ fuel →
      readItems fuel (write item ++ (writeItems items ++ rest)) = some (item :: items, rest)
  | [], item, reads, fuel, rest, enough => by
      obtain ⟨fuel, rfl⟩ : ∃ n, fuel = n + 1 := ⟨fuel - 1, by simp [depthItems] at enough; omega⟩
      have first := reads fuel (writeItems [] ++ rest)
        (by simp only [depthItems] at enough; omega) (stops_writeItems [] rest)
      rw [readItems, first]
      simp [writeItems, skipBlanks]
  | next :: items, item, reads, fuel, rest, enough => by
      obtain ⟨fuel, rfl⟩ : ∃ n, fuel = n + 1 := ⟨fuel - 1, by simp [depthItems] at enough; omega⟩
      have first := reads fuel (writeItems (next :: items) ++ rest)
        (by simp only [depthItems] at enough; omega) (stops_writeItems _ rest)
      have more := readItems_write items next (read_write next) fuel rest
        (by simp only [depthItems] at enough ⊢; omega)
      rw [readItems, first]
      simp [writeItems, skipBlanks_cons, more]

theorem readFields_write : (fields : List (String × Json)) → ∀ key value, Reads value →
    ∀ fuel rest, depthFields ((key, value) :: fields) ≤ fuel →
      readFields fuel
          (writeString key.toList ++ ':' :: (write value ++ (writeFields fields ++ rest))) =
        some ((key, value) :: fields, rest)
  | [], key, value, reads, fuel, rest, enough => by
      obtain ⟨fuel, rfl⟩ : ∃ n, fuel = n + 1 := ⟨fuel - 1, by simp [depthFields] at enough; omega⟩
      have first := reads fuel (writeFields [] ++ rest)
        (by simp only [depthFields] at enough; omega) (stops_writeFields [] rest)
      rw [readFields, readKey_write]
      simp only [first]
      simp [writeFields, skipBlanks]
  | (name, next) :: fields, key, value, reads, fuel, rest, enough => by
      obtain ⟨fuel, rfl⟩ : ∃ n, fuel = n + 1 := ⟨fuel - 1, by simp [depthFields] at enough; omega⟩
      have first := reads fuel (writeFields ((name, next) :: fields) ++ rest)
        (by simp only [depthFields] at enough; omega) (stops_writeFields _ rest)
      have more := readFields_write fields name next (read_write next) fuel rest
        (by simp only [depthFields] at enough ⊢; omega)
      rw [readFields, readKey_write]
      simp only [first]
      simp [writeFields, skipBlanks_cons, more]

end

theorem length_writeString (text : List Char) : 2 ≤ (writeString text).length := by
  simp [writeString]

mutual

/-- The length of the text bounds the fuel that reading it uses. -/
theorem depth_le_length : (value : Json) → depth value ≤ 2 * (write value).length
  | .null | .bool true | .bool false | .arr [] | .obj [] => by decide
  | .num number => by
      obtain ⟨c, tail, starts, _⟩ := head?_write (.num number) []
      rw [List.append_nil] at starts
      simp only [depth, starts, List.length_cons]
      omega
  | .str text => by
      have quoted := length_writeString text.toList
      simp only [depth, write]
      omega
  | .arr (item :: items) => by
      have first := depth_le_length item
      have more := depthItems_le_length items
      simp only [depth, depthItems, write, List.length_append, List.length_cons]
      omega
  | .obj ((key, value) :: fields) => by
      have first := depth_le_length value
      have more := depthFields_le_length fields
      have quoted := length_writeString key.toList
      simp only [depth, depthFields, write, List.length_append, List.length_cons]
      omega

theorem depthItems_le_length : (items : List Json) →
    depthItems items ≤ 2 * (writeItems items).length
  | [] => by decide
  | item :: rest => by
      have first := depth_le_length item
      have more := depthItems_le_length rest
      simp only [depthItems, writeItems, List.length_append, List.length_cons]
      omega

theorem depthFields_le_length : (fields : List (String × Json)) →
    depthFields fields ≤ 2 * (writeFields fields).length
  | [] => by decide
  | (key, value) :: rest => by
      have first := depth_le_length value
      have more := depthFields_le_length rest
      simp only [depthFields, writeFields, List.length_append, List.length_cons]
      omega

end

/-- Reading undoes printing. -/
theorem ofText_toText (value : Json) : ofText (toText value) = some value := by
  have enough : depth value ≤ 2 * (write value).length + 2 :=
    Nat.le_add_right_of_le (depth_le_length value)
  have whole := read_write value _ [] enough (by simp [Stops])
  rw [List.append_nil] at whole
  simp only [ofText, toText, String.length_ofList, String.toList_ofList, whole]
  rfl

/-! ## The printer writes no control character -/

def Printable (text : List Char) : Prop := ∀ c ∈ text, 32 ≤ c.toNat

theorem Printable.of_all {text : List Char} (visible : text.all (32 ≤ ·.toNat)) :
    Printable text := by
  simpa [Printable] using visible

theorem Printable.append {first second : List Char} (left : Printable first)
    (right : Printable second) : Printable (first ++ second) := by
  intro c mem
  rcases List.mem_append.mp mem with mem | mem
  · exact left c mem
  · exact right c mem

theorem Printable.cons {c : Char} {text : List Char} (first : 32 ≤ c.toNat)
    (rest : Printable text) : Printable (c :: text) := by
  intro d mem
  rcases List.mem_cons.mp mem with rfl | mem
  · exact first
  · exact rest d mem

theorem printable_escapeChar (c : Char) : Printable (escapeChar c) := by
  unfold escapeChar
  split
  · rename_i letter escaped found
    have table : ∀ entry ∈ simpleEscapes, 32 ≤ entry.1.toNat := by decide
    have visible := table _ (List.mem_of_find?_eq_some found)
    exact Printable.cons (by decide) (Printable.cons visible (by simp [Printable]))
  · split
    · rename_i control
      have table : ∀ n < 32, ['\\', 'u', '0', '0', Nat.digitChar (n / 16),
          Nat.digitChar (n % 16)].all (32 ≤ ·.toNat) := by decide
      exact Printable.of_all (table c.toNat control)
    · rename_i visible
      exact Printable.cons (by omega) (by simp [Printable])

theorem printable_writeString (text : List Char) : Printable (writeString text) := by
  refine Printable.append (Printable.cons (by decide) ?_) (Printable.cons (by decide) ?_)
  · intro c mem
    obtain ⟨source, _, mem⟩ := List.mem_flatMap.mp mem
    exact printable_escapeChar source c mem
  · simp [Printable]

theorem printable_writeNat (n : Nat) : Printable (writeNat n) := by
  intro c mem
  have digit := isDigit_writeNat mem
  simp only [Char.isDigit, Bool.and_eq_true, decide_eq_true_eq] at digit
  have low : (48 : UInt32).toNat ≤ c.val.toNat := UInt32.le_iff_toNat_le.mp digit.1
  exact Nat.le_trans (by decide) low

theorem printable_writeInt (value : Int) : Printable (writeInt value) := by
  cases value with
  | ofNat n => exact printable_writeNat n
  | negSucc n => exact Printable.cons (by decide) (printable_writeNat _)

theorem printable_writeNumber (number : Number) : Printable (writeNumber number) := by
  cases number with
  | posInt value => exact printable_writeNat _
  | negInt magnitude => exact Printable.cons (by decide) (printable_writeNat _)
  | float mantissa exponent =>
      exact (printable_writeInt _).append (Printable.cons (by decide) (printable_writeInt _))

mutual

theorem printable_write : (value : Json) → Printable (write value)
  | .null | .bool true | .bool false | .arr [] | .obj [] => Printable.of_all (by decide)
  | .num number => printable_writeNumber number
  | .str text => printable_writeString _
  | .arr (item :: items) =>
      (Printable.cons (by decide) (printable_write item)).append (printable_writeItems items)
  | .obj ((key, value) :: fields) =>
      (Printable.cons (by decide) ((printable_writeString _).append
        (Printable.cons (by decide) (printable_write value)))).append
          (printable_writeFields fields)

theorem printable_writeItems : (items : List Json) → Printable (writeItems items)
  | [] => Printable.cons (by decide) (by simp [Printable])
  | item :: rest =>
      (Printable.cons (by decide) (printable_write item)).append (printable_writeItems rest)

theorem printable_writeFields : (fields : List (String × Json)) → Printable (writeFields fields)
  | [] => Printable.cons (by decide) (by simp [Printable])
  | (key, value) :: rest =>
      (Printable.cons (by decide) ((printable_writeString _).append
        (Printable.cons (by decide) (printable_write value)))).append
          (printable_writeFields rest)

end

/-! ## The printer writes no blank around a value -/

theorem getLast?_writeItems (items : List Json) : (writeItems items).getLast? = some ']' := by
  induction items with
  | nil => rfl
  | cons item rest ih => rw [writeItems, List.getLast?_append, ih, Option.some_or]

theorem getLast?_writeFields (fields : List (String × Json)) :
    (writeFields fields).getLast? = some '}' := by
  induction fields with
  | nil => rfl
  | cons field rest ih => rw [writeFields, List.getLast?_append, ih, Option.some_or]

theorem isWhitespace_writeNat {n : Nat} {c : Char} (mem : c ∈ writeNat n) :
    Text.isWhitespace c = false := by
  have digit := isDigit_writeNat mem
  simp only [Char.isDigit, Bool.and_eq_true, decide_eq_true_eq] at digit
  have low : (48 : UInt32).toNat ≤ c.val.toNat := UInt32.le_iff_toNat_le.mp digit.1
  have high : c.val.toNat ≤ (57 : UInt32).toNat := UInt32.le_iff_toNat_le.mp digit.2
  have small : c.toNat ≤ 57 := high
  have large : 48 ≤ c.toNat := low
  simp only [Text.isWhitespace, List.mem_cons, List.not_mem_nil, or_false, decide_eq_false_iff_not,
    Bool.or_eq_false_iff, Bool.and_eq_false_iff, decide_eq_false_iff_not]
  omega

theorem isWhitespace_writeNumber {number : Number} {c : Char} (mem : c ∈ writeNumber number) :
    Text.isWhitespace c = false := by
  have integer {value : Int} (mem : c ∈ writeInt value) : Text.isWhitespace c = false := by
    cases value with
    | ofNat n => exact isWhitespace_writeNat mem
    | negSucc n =>
        rcases List.mem_cons.mp mem with rfl | mem
        · decide
        · exact isWhitespace_writeNat mem
  cases number with
  | posInt value => exact isWhitespace_writeNat mem
  | negInt magnitude =>
      rcases List.mem_cons.mp mem with rfl | mem
      · decide
      · exact isWhitespace_writeNat mem
  | float mantissa exponent =>
      rcases List.mem_append.mp mem with mem | mem
      · exact integer mem
      · rcases List.mem_cons.mp mem with rfl | mem
        · decide
        · exact integer mem

theorem trimmed_toText (value : Json) : Text.Trimmed (toText value) := by
  have framed {text : List Char} {opening closing : Char} (starts : text.head? = some opening)
      (stops : text.getLast? = some closing) (opens : Text.isWhitespace opening = false)
      (closes : Text.isWhitespace closing = false) : Text.Trimmed (String.ofList text) := by
    constructor
    · simpa [starts] using opens
    · simpa [stops] using closes
  cases value with
  | null => exact framed rfl rfl (by decide) (by decide)
  | bool flag => cases flag <;> exact framed rfl rfl (by decide) (by decide)
  | num number =>
      constructor <;> intro c mem <;> rw [toText, String.toList_ofList] at mem
      · exact isWhitespace_writeNumber (List.mem_of_head? mem)
      · exact isWhitespace_writeNumber (List.mem_of_getLast? mem)
  | str text =>
      have last : (write (.str text)).getLast? = some '"' := by
        rw [write, writeString, List.getLast?_append]
        rfl
      exact framed rfl last (by decide) (by decide)
  | arr items =>
      cases items with
      | nil => exact framed rfl rfl (by decide) (by decide)
      | cons item rest =>
          have last : (write (.arr (item :: rest))).getLast? = some ']' := by
            rw [write, List.getLast?_append, getLast?_writeItems, Option.some_or]
          exact framed rfl last (by decide) (by decide)
  | obj fields =>
      cases fields with
      | nil => exact framed rfl rfl (by decide) (by decide)
      | cons field rest =>
          have last : (write (.obj (field :: rest))).getLast? = some '}' := by
            rw [write, List.getLast?_append, getLast?_writeFields, Option.some_or]
          exact framed rfl last (by decide) (by decide)

end AiPowerGateway.Json.Compact

import Mathlib.Data.List.Perm.Basic

/-!
# Comma-separated records

A reader for comma-separated records: a record ends with a line break, the last one may
end with the text, and a field may be enclosed in quotes, within which a doubled quote
stands for one.  A line break is a line feed, with or without a carriage return before it.
A field outside quotes holds neither quotes nor carriage returns.
-/

namespace AiPowerGateway.Csv

/-- A character that a field outside quotes may hold. -/
def plainChar (c : Char) : Bool := c ≠ ',' && c ≠ '"' && c ≠ '\r' && c ≠ '\n'

def plain (field : List Char) : Bool := field.all plainChar

/-! ## Reading -/

/-- Where the reader stands in a field. -/
inductive Mode where
  | fieldStart
  | bare
  | quoted
  /-- Behind a quote that ends the field, or is the first of a doubled one. -/
  | quoteSeen
  /-- Behind a carriage return that ends the record. -/
  | returnSeen
  deriving DecidableEq, Repr

/-- The field and the record that are being read. -/
structure Reader where
  mode : Mode := .fieldStart
  field : List Char := []
  record : List (List Char) := []
  deriving DecidableEq, Repr

namespace Reader

/-- What reading one character does. -/
inductive Turn where
  | next (reader : Reader)
  | complete (record : List (List Char))
  | malformed

def endField (reader : Reader) : Turn :=
  .next { record := reader.record ++ [reader.field] }

def endRecord (reader : Reader) : Turn := .complete (reader.record ++ [reader.field])

/-- A character outside quotes. -/
def readBare (reader : Reader) (c : Char) : Turn :=
  if c = ',' then reader.endField
  else if c = '\n' then reader.endRecord
  else if c = '\r' then .next { reader with mode := .returnSeen }
  else if c = '"' then .malformed
  else .next { reader with mode := .bare, field := reader.field ++ [c] }

def readChar (reader : Reader) (c : Char) : Turn :=
  match reader.mode with
  | .fieldStart =>
      if c = '"' then .next { reader with mode := .quoted } else reader.readBare c
  | .bare => reader.readBare c
  | .quoted =>
      if c = '"' then .next { reader with mode := .quoteSeen }
      else .next { reader with field := reader.field ++ [c] }
  | .quoteSeen =>
      if c = '"' then .next { reader with mode := .quoted, field := reader.field ++ [c] }
      else if c = ',' then reader.endField
      else if c = '\n' then reader.endRecord
      else if c = '\r' then .next { reader with mode := .returnSeen }
      else .malformed
  | .returnSeen => if c = '\n' then reader.endRecord else .malformed

/-- The end of the text: it may end a record that has begun. -/
def finish (reader : Reader) : Option (List (List (List Char))) :=
  match reader.mode with
  | .fieldStart =>
      if reader.record = [] then some [] else some [reader.record ++ [reader.field]]
  | .bare | .quoteSeen => some [reader.record ++ [reader.field]]
  | .quoted | .returnSeen => none

def readAll (reader : Reader) : List Char → Option (List (List (List Char)))
  | [] => reader.finish
  | c :: rest =>
      match reader.readChar c with
      | .next reader => reader.readAll rest
      | .complete record => (readAll {} rest).map (record :: ·)
      | .malformed => none

end Reader

/-- The records of a text, if it is well formed. -/
def parse (text : List Char) : Option (List (List (List Char))) := Reader.readAll {} text

example : parse "a,\"b,\"\"\"\r\nc".toList = some [[['a'], ['b', ',', '"']], [['c']]] := by decide

/-! ## Fields without quotes -/

/-- A record whose fields are written as they are. -/
def bareRecord : List (List Char) → List Char
  | [] => ['\n']
  | [field] => field ++ ['\n']
  | field :: fields => field ++ ',' :: bareRecord fields

@[simp] theorem bareRecord_cons_cons (field next : List Char) (fields : List (List Char)) :
    bareRecord (field :: next :: fields) = field ++ ',' :: bareRecord (next :: fields) := rfl

def bareRecords (records : List (List (List Char))) : List Char := records.flatMap bareRecord

section Reading

variable {reader : Reader} {record : List (List Char)} {field rest : List Char}

theorem plain_cons {c : Char} :
    plain (c :: field) = true ↔
      (c ≠ ',' ∧ c ≠ '"' ∧ c ≠ '\r' ∧ c ≠ '\n') ∧ plain field = true := by
  simp [plain, plainChar, and_assoc]

/-- A plain character outside quotes goes to the field. -/
theorem readBare_plain {c : Char} (isPlain : c ≠ ',' ∧ c ≠ '"' ∧ c ≠ '\r' ∧ c ≠ '\n') :
    reader.readBare c = .next { reader with mode := .bare, field := reader.field ++ [c] } := by
  obtain ⟨noComma, noQuote, noReturn, noFeed⟩ := isPlain
  rw [Reader.readBare, if_neg noComma, if_neg noFeed, if_neg noReturn, if_neg noQuote]

/-- A plain field is read as it is, up to the character behind it. -/
theorem readAll_plain {c : Char} (isPlain : plain field = true) (stops : c = ',' ∨ c = '\n')
    (outside : reader.mode = .fieldStart ∨ reader.mode = .bare) :
    reader.readAll (field ++ c :: rest) =
      Reader.readAll { reader with mode := .bare, field := reader.field ++ field } (c :: rest) := by
  induction field generalizing reader with
  | nil =>
      obtain ⟨mode, own, record⟩ := reader
      rcases stops with rfl | rfl
      · rcases outside with rfl | rfl
        · simp [Reader.readAll, Reader.readChar, Reader.readBare, Reader.endField]
        · simp
      · rcases outside with rfl | rfl
        · simp [Reader.readAll, Reader.readChar, Reader.readBare, Reader.endRecord]
        · simp
  | cons first field ih =>
      obtain ⟨firstPlain, restPlain⟩ := plain_cons.mp isPlain
      have reads : reader.readChar first =
          .next { reader with mode := .bare, field := reader.field ++ [first] } := by
        unfold Reader.readChar
        rcases outside with mode | mode
        · rw [mode]
          simp only [if_neg firstPlain.2.1, readBare_plain firstPlain]
        · rw [mode]
          exact readBare_plain firstPlain
      rw [List.cons_append, Reader.readAll, reads]
      simp only
      rw [ih restPlain (.inr rfl)]
      simp

theorem readAll_field (isPlain : plain field = true) :
    Reader.readAll { record := record } (field ++ ',' :: rest) =
      Reader.readAll { record := record ++ [field] } rest := by
  rw [readAll_plain isPlain (.inl rfl) (.inl rfl)]
  rfl

theorem readAll_lastField (isPlain : plain field = true) :
    Reader.readAll { record := record } (field ++ '\n' :: rest) =
      (parse rest).map ((record ++ [field]) :: ·) := by
  rw [readAll_plain isPlain (.inr rfl) (.inl rfl)]
  rfl

theorem readAll_bareRecord {fields : List (List Char)} (nonempty : fields ≠ [])
    (allPlain : ∀ field ∈ fields, plain field = true) :
    Reader.readAll { record := record } (bareRecord fields ++ rest) =
      (parse rest).map ((record ++ fields) :: ·) := by
  induction fields generalizing record with
  | nil => exact absurd rfl nonempty
  | cons field fields ih =>
      have own := allPlain field (List.mem_cons_self ..)
      cases fields with
      | nil =>
          rw [bareRecord, List.append_assoc, List.singleton_append]
          exact readAll_lastField own
      | cons next fields =>
          rw [bareRecord_cons_cons, List.append_assoc, List.cons_append, readAll_field own,
            ih (List.cons_ne_nil next fields) fun other mem =>
              allPlain other (List.mem_cons_of_mem _ mem),
            List.append_assoc, List.singleton_append]

/-- Plain fields are read back as they were written. -/
theorem parse_bareRecords {records : List (List (List Char))}
    (nonempty : ∀ record ∈ records, record ≠ [])
    (allPlain : ∀ record ∈ records, ∀ field ∈ record, plain field = true) :
    parse (bareRecords records) = some records := by
  induction records with
  | nil => rfl
  | cons record records ih =>
      have later := ih (fun other mem => nonempty other (List.mem_cons_of_mem _ mem))
        fun other mem => allPlain other (List.mem_cons_of_mem _ mem)
      show Reader.readAll { record := [] } (bareRecord record ++ bareRecords records) = _
      rw [readAll_bareRecord (nonempty record (List.mem_cons_self ..))
        (allPlain record (List.mem_cons_self ..)), later]
      rfl

end Reading

/-! ## What reading costs -/

/-- The characters that fields take: their own, a separator each, and quotes around those
that need them. -/
def weight (fields : List (List Char)) : Nat :=
  fields.flatten.length + fields.length + 2 * fields.countP fun field => !plain field

theorem weight_append (first second : List (List Char)) :
    weight (first ++ second) = weight first + weight second := by
  simp only [weight, List.flatten_append, List.length_append, List.countP_append]
  omega

theorem weight_singleton (field : List Char) :
    weight [field] = field.length + 1 + if plain field then 0 else 2 := by
  cases isPlain : plain field <;> simp [weight, isPlain]

theorem weight_perm {first second : List (List Char)} (same : first.Perm second) :
    weight first = weight second := by
  rw [weight, weight, same.flatten.length_eq, same.length_eq, same.countP_eq]

theorem weight_singleton_le (field : List Char) : weight [field] ≤ field.length + 3 := by
  rw [weight_singleton]
  split <;> omega

theorem le_weight_singleton (field : List Char) : field.length + 1 ≤ weight [field] := by
  rw [weight_singleton]
  omega

/-- A plain character makes a field heavier by one. -/
theorem weight_singleton_concat {c : Char} (field : List Char)
    (isPlain : c ≠ ',' ∧ c ≠ '"' ∧ c ≠ '\r' ∧ c ≠ '\n') :
    weight [field ++ [c]] = weight [field] + 1 := by
  have charPlain : plainChar c = true := by simp [plainChar, isPlain]
  have same : plain (field ++ [c]) = plain field := by simp [plain, charPlain]
  rw [weight_singleton, weight_singleton, same, List.length_append, List.length_singleton]
  omega

namespace Reader

/-- What has been read of a record, with the separator that is to come. -/
def spent (reader : Reader) : Nat :=
  weight reader.record +
    match reader.mode with
    | .fieldStart | .bare => weight [reader.field]
    | .quoted => reader.field.length + 2
    | .quoteSeen => reader.field.length + 3
    | .returnSeen => weight [reader.field] + 1

/-- A turn pays for what it reads. -/
def Turn.Paid (before : Nat) : Turn → Prop
  | .next reader => reader.spent ≤ before + 1
  | .complete record => weight record ≤ before
  | .malformed => True

theorem paid_endField {reader : Reader} {before : Nat}
    (covers : weight reader.record + weight [reader.field] ≤ before) :
    reader.endField.Paid before := by
  show weight (reader.record ++ [reader.field]) + weight [[]] ≤ before + 1
  rw [weight_append]
  exact Nat.add_le_add_right covers 1

theorem paid_endRecord {reader : Reader} {before : Nat}
    (covers : weight reader.record + weight [reader.field] ≤ before) :
    reader.endRecord.Paid before := by
  show weight (reader.record ++ [reader.field]) ≤ before
  rw [weight_append]
  exact covers

theorem paid_readBare (reader : Reader) (c : Char) :
    (reader.readBare c).Paid (weight reader.record + weight [reader.field]) := by
  unfold readBare
  split
  · exact paid_endField (Nat.le_refl _)
  · next noComma =>
      split
      · exact paid_endRecord (Nat.le_refl _)
      · next noFeed =>
          split
          · exact Nat.le_refl _
          · next noReturn =>
              split
              · trivial
              · next noQuote =>
                  show weight reader.record + weight [reader.field ++ [c]] ≤ _
                  rw [weight_singleton_concat _ ⟨noComma, noQuote, noReturn, noFeed⟩]
                  exact Nat.le_refl _

theorem paid_readChar (reader : Reader) (c : Char) : (reader.readChar c).Paid reader.spent := by
  have least := le_weight_singleton reader.field
  have most := weight_singleton_le reader.field
  obtain ⟨mode, field, record⟩ := reader
  cases mode with
  | fieldStart =>
      simp only [readChar]
      split
      · show weight record + (field.length + 2) ≤ weight record + weight [field] + 1
        simp only at least
        omega
      · exact paid_readBare _ c
  | bare => exact paid_readBare _ c
  | quoted =>
      simp only [readChar]
      split
      · exact Nat.le_refl _
      · show weight record + ((field ++ [c]).length + 2) ≤ weight record + (field.length + 2) + 1
        rw [List.length_append, List.length_singleton]
        omega
  | quoteSeen =>
      have covers : weight record + weight [field] ≤ weight record + (field.length + 3) :=
        Nat.add_le_add_left most _
      simp only [readChar]
      split
      · show weight record + ((field ++ [c]).length + 2) ≤ weight record + (field.length + 3) + 1
        rw [List.length_append, List.length_singleton]
        omega
      · split
        · exact paid_endField covers
        · split
          · exact paid_endRecord covers
          · split
            · exact Nat.add_le_add_right covers 1
            · trivial
  | returnSeen =>
      simp only [readChar]
      split
      · exact paid_endRecord (Nat.le_succ _)
      · trivial

theorem weight_finish {reader : Reader} {records : List (List (List Char))}
    (finished : reader.finish = some records) : weight records.flatten ≤ reader.spent := by
  have most := weight_singleton_le reader.field
  obtain ⟨mode, field, record⟩ := reader
  have whole : weight [record ++ [field]].flatten = weight record + weight [field] := by
    rw [List.flatten_singleton, weight_append]
  cases mode with
  | fieldStart =>
      simp only [finish] at finished
      split at finished
      · cases finished
        exact Nat.zero_le _
      · cases finished
        exact Nat.le_of_eq whole
  | bare =>
      cases finished
      exact Nat.le_of_eq whole
  | quoted => cases finished
  | quoteSeen =>
      cases finished
      rw [whole]
      exact Nat.add_le_add_left most _
  | returnSeen => cases finished

/-- A text is at least as long as its records are heavy. -/
theorem weight_readAll {reader : Reader} {text : List Char} {records : List (List (List Char))}
    (reads : reader.readAll text = some records) :
    weight records.flatten ≤ reader.spent + text.length := by
  induction text generalizing reader records with
  | nil => exact weight_finish reads
  | cons c rest ih =>
      have paid := paid_readChar reader c
      rw [readAll] at reads
      rw [List.length_cons]
      cases turn : reader.readChar c with
      | next later =>
          rw [turn] at reads paid
          have remaining := ih reads
          have one : later.spent ≤ reader.spent + 1 := paid
          omega
      | complete record =>
          rw [turn] at reads paid
          obtain ⟨others, laterReads, rfl⟩ := Option.map_eq_some_iff.mp reads
          have remaining := ih laterReads
          have one : weight record ≤ reader.spent := paid
          have fresh : spent {} = 1 := rfl
          rw [List.flatten_cons, weight_append]
          omega
      | malformed =>
          rw [turn] at reads
          cases reads

end Reader

theorem weight_bareRecord {record : List (List Char)} (nonempty : record ≠ []) :
    weight record =
      (bareRecord record).length + 2 * record.countP fun field => !plain field := by
  induction record with
  | nil => exact absurd rfl nonempty
  | cons field fields ih =>
      cases fields with
      | nil => simp [weight, bareRecord]
      | cons next fields =>
          have later := ih (List.cons_ne_nil next fields)
          rw [show field :: next :: fields = [field] ++ next :: fields from rfl, weight_append,
            later, List.countP_append, weight, List.singleton_append, bareRecord_cons_cons]
          simp only [List.flatten_singleton, List.length_append, List.length_cons,
            List.length_nil]
          omega

theorem weight_bareRecords {records : List (List (List Char))}
    (nonempty : ∀ record ∈ records, record ≠ []) :
    weight records.flatten =
      (bareRecords records).length + 2 * records.flatten.countP fun field => !plain field := by
  induction records with
  | nil => rfl
  | cons record records ih =>
      have first := weight_bareRecord (nonempty record (List.mem_cons_self ..))
      have later := ih fun other mem => nonempty other (List.mem_cons_of_mem _ mem)
      have text : bareRecords (record :: records) = bareRecord record ++ bareRecords records := rfl
      rw [List.flatten_cons, weight_append, first, later, text, List.length_append,
        List.countP_append]
      omega

/-- Fields that are written as they are and come back, in whatever order, are plain. -/
theorem plain_of_parse_bareRecords {records parsed : List (List (List Char))}
    (nonempty : ∀ record ∈ records, record ≠ []) (same : parsed.Perm records)
    (parses : parse (bareRecords records) = some parsed) :
    ∀ record ∈ records, ∀ field ∈ record, plain field = true := by
  have cost := Reader.weight_readAll parses
  have fresh : Reader.spent {} = 1 := rfl
  rw [weight_perm same.flatten, weight_bareRecords nonempty, fresh] at cost
  have none : (records.flatten.countP fun field => !plain field) = 0 := by omega
  intro record recordMem field fieldMem
  have isPlain := List.countP_eq_zero.mp none field
    (List.mem_flatten_of_mem recordMem fieldMem)
  simpa using isPlain

end AiPowerGateway.Csv

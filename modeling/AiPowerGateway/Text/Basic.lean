import Mathlib.Data.List.Infix

/-!
# Operations on text

The operations of a standard string library that read a text through its
characters: substring tests, trimming, and splitting into lines.
-/

namespace AiPowerGateway.Text

def startsWith (text part : String) : Bool := part.toList.isPrefixOf text.toList

/-- The text after a leading part, when it starts with that part. -/
def stripLeading? (text part : String) : Option String :=
  if startsWith text part then some (String.ofList (text.toList.drop part.toList.length)) else none

theorem stripLeading?_append (part rest : String) :
    stripLeading? (part ++ rest) part = some rest := by
  simp [stripLeading?, startsWith]

def contains (text part : String) : Bool := decide (part.toList <:+: text.toList)

/-- Leading parts of one text are the same part when they have the same size in bytes. -/
theorem startsWith_inj {text first second : String} (starts : startsWith text first = true)
    (startsSecond : startsWith text second = true)
    (size : first.utf8ByteSize = second.utf8ByteSize) : first = second := by
  have equal {short long : String} (leads : short.toList <+: long.toList)
      (same : short.utf8ByteSize = long.utf8ByteSize) : short = long := by
    obtain ⟨rest, joined⟩ := leads
    have whole : long = short ++ String.ofList rest := by
      apply String.toList_injective
      simp [joined]
    rw [whole, String.utf8ByteSize_append] at same
    have nothing : String.ofList rest = "" := String.utf8ByteSize_eq_zero_iff.mp (by omega)
    rw [whole, nothing, String.append_empty]
  have firstPrefix := List.isPrefixOf_iff_prefix.mp starts
  have secondPrefix := List.isPrefixOf_iff_prefix.mp startsSecond
  rcases List.prefix_or_prefix_of_prefix firstPrefix secondPrefix with leads | leads
  · exact equal leads size
  · exact (equal leads size.symm).symm

/-- The characters of the Unicode property `White_Space`. -/
def isWhitespace (c : Char) : Bool :=
  c.toNat ∈ [0x20, 0x85, 0xA0, 0x1680, 0x2028, 0x2029, 0x202F, 0x205F, 0x3000] ||
    (0x09 ≤ c.toNat && c.toNat ≤ 0x0D) || (0x2000 ≤ c.toNat && c.toNat ≤ 0x200A)

def trim (text : String) : String :=
  String.ofList
    (((text.toList.dropWhile isWhitespace).reverse.dropWhile isWhitespace).reverse)

/-- No whitespace at either end. -/
structure Trimmed (text : String) : Prop where
  head : ∀ c ∈ text.toList.head?, isWhitespace c = false
  last : ∀ c ∈ text.toList.getLast?, isWhitespace c = false

theorem dropWhile_of_head? {α : Type} {p : α → Bool} {items : List α}
    (stops : ∀ item ∈ items.head?, p item = false) : items.dropWhile p = items := by
  cases items with
  | nil => rfl
  | cons item rest => simp [stops item (by simp)]

theorem trim_of_trimmed {text : String} (trimmed : Trimmed text) : trim text = text := by
  rw [trim, dropWhile_of_head? trimmed.head,
    dropWhile_of_head? (by simpa using trimmed.last), List.reverse_reverse, String.ofList_toList]

theorem trimmed_trim (text : String) : Trimmed (trim text) := by
  have stops (items : List Char) : ∀ c ∈ (items.dropWhile isWhitespace).head?,
      isWhitespace c = false := by
    intro c mem
    simpa [Option.mem_def.mp mem] using List.head?_dropWhile_not isWhitespace items
  have front : ((text.toList.dropWhile isWhitespace).reverse.dropWhile isWhitespace).reverse <+:
      text.toList.dropWhile isWhitespace := by
    rw [← List.reverse_suffix, List.reverse_reverse]
    exact List.dropWhile_suffix isWhitespace
  constructor
  · intro c mem
    rw [trim, String.toList_ofList] at mem
    obtain ⟨rest, whole⟩ := front
    refine stops text.toList c ?_
    rw [← whole, List.head?_append, Option.mem_def.mp mem]
    rfl
  · intro c mem
    rw [trim, String.toList_ofList, List.getLast?_reverse] at mem
    exact stops _ c mem

theorem trim_trim (text : String) : trim (trim text) = trim text :=
  trim_of_trimmed (trimmed_trim text)

theorem trim_blank_append {blank : Char} (isBlank : isWhitespace blank = true) (text : String) :
    trim (String.singleton blank ++ text) = trim text := by
  simp [trim, isBlank]

def trimEnd (text : String) (c : Char) : String :=
  String.ofList ((text.toList.reverse.dropWhile (· = c)).reverse)

def joinLines (parts : List String) : String := String.intercalate "\n" parts

/-! ## Lines -/

/-- The lines of a text; a final line break opens no further line.  A line ends in `\n` or in
`\r\n`; any other `\r` is part of its line. -/
def splitLines : List Char → List (List Char)
  | [] => []
  | c :: rest =>
      if c = '\n' then [] :: splitLines rest
      else if c = '\r' ∧ rest.head? = some '\n' then splitLines rest
      else match splitLines rest with
        | [] => [[c]]
        | line :: more => (c :: line) :: more

def lines (text : String) : List String := (splitLines text.toList).map String.ofList

theorem splitLines_append {line : List Char} (noBreak : '\n' ∉ line) (noReturn : '\r' ∉ line)
    (rest : List Char) : splitLines (line ++ '\n' :: rest) = line :: splitLines rest := by
  induction line with
  | nil => simp [splitLines]
  | cons c line ih =>
      have first : c ≠ '\n' ∧ c ≠ '\r' :=
        ⟨fun same => noBreak (by simp [same]), fun same => noReturn (by simp [same])⟩
      have others := ih (fun mem => noBreak (List.mem_cons_of_mem _ mem))
        fun mem => noReturn (List.mem_cons_of_mem _ mem)
      simp [splitLines, first, others]

/-- A text without line breaks that stands before a line break is the first line. -/
theorem lines_append {line : String} (noBreak : '\n' ∉ line.toList)
    (noReturn : '\r' ∉ line.toList) (rest : String) :
    lines (line ++ "\n" ++ rest) = line :: lines rest := by
  have split := splitLines_append noBreak noReturn rest.toList
  have chars : (line ++ "\n" ++ rest).toList = line.toList ++ '\n' :: rest.toList := by simp
  simp [lines, chars, split]

@[simp] theorem lines_empty : lines "" = [] := rfl

/-- Only a `\r` at the very end of a text stays. -/
example : lines "a\r\nb\rc\nd\r" = ["a", "b\rc", "d\r"] := by decide

/-! ## What stands in joined lines -/

/-- A part without the separator stands on one side of it. -/
theorem infix_append_cons_iff {α : Type} {part before after : List α} {separator : α}
    (whole : separator ∉ part) :
    part <:+: before ++ separator :: after ↔ part <:+: before ∨ part <:+: after := by
  constructor
  · rintro ⟨left, right, same⟩
    rcases List.append_eq_append_iff.mp same with ⟨more, ends, rest⟩ | ⟨more, ends, rest⟩
    · exact Or.inl ⟨left, more, ends.symm⟩
    · cases more with
      | nil => exact Or.inl ⟨left, [], by simpa using ends⟩
      | cons first more =>
          obtain ⟨rfl, tail⟩ := List.cons.inj rest
          rcases List.append_eq_append_iff.mp ends with ⟨gap, -, inner⟩ | ⟨gap, -, inner⟩
          · exact absurd (inner ▸ by simp) whole
          · cases gap with
            | nil =>
                have starts : part = separator :: more := inner.symm
                exact absurd (by simp [starts]) whole
            | cons _ gap =>
                obtain ⟨-, more_eq⟩ := List.cons.inj inner
                exact Or.inr ⟨gap, right, by rw [tail, more_eq]; rfl⟩
  · rintro (inside | inside)
    · exact inside.trans (List.prefix_append before _).isInfix
    · exact inside.trans ⟨before ++ [separator], [], by simp⟩

/-- A text without line breaks stands in joined lines when it stands in one of them. -/
theorem contains_joinLines {part : String} (whole : '\n' ∉ part.toList) (nonempty : part ≠ "")
    (lines : List String) :
    contains (joinLines lines) part = true ↔ ∃ line ∈ lines, contains line part = true := by
  induction lines with
  | nil => simpa [contains, joinLines] using nonempty
  | cons line rest ih =>
      cases rest with
      | nil => simp [joinLines]
      | cons next rest =>
          have joined : joinLines (line :: next :: rest) =
              line ++ "\n" ++ joinLines (next :: rest) := String.intercalate_cons_cons
          rw [joined, List.exists_mem_cons_iff, ← ih]
          have chars : (line ++ "\n" ++ joinLines (next :: rest)).toList =
              line.toList ++ '\n' :: (joinLines (next :: rest)).toList := by simp
          simp only [contains, decide_eq_true_eq, chars]
          exact infix_append_cons_iff whole

end AiPowerGateway.Text

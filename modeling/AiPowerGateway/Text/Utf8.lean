import Mathlib.Data.List.Basic

/-!
# The bytes of a text
-/

namespace AiPowerGateway.Text

/-- The UTF-8 encoding of a text. -/
def utf8 (text : String) : List UInt8 := text.toList.flatMap String.utf8EncodeChar

/-- An ASCII character is encoded by its own code. -/
theorem utf8EncodeChar_ascii {byte : UInt8} (ascii : byte < 128) :
    String.utf8EncodeChar (Char.ofNat byte.toNat) = [byte] := by
  have small : byte.toNat < 128 := ascii
  have valid : byte.toNat.isValidChar := Or.inl (by omega)
  have code : (Char.ofNat byte.toNat).val.toNat = byte.toNat := by
    rw [Char.ofNat, dif_pos valid]
    rfl
  have short : byte.toNat ≤ 0x7f := by omega
  rw [String.utf8EncodeChar]
  simp only [code, if_pos short, UInt8.ofNat_toNat]

theorem utf8_ascii {bytes : List UInt8} (ascii : ∀ byte ∈ bytes, byte < 128) :
    utf8 (String.ofList (bytes.map fun byte => Char.ofNat byte.toNat)) = bytes := by
  unfold utf8
  rw [String.toList_ofList, List.flatMap_map]
  induction bytes with
  | nil => rfl
  | cons byte bytes ih =>
      rw [List.flatMap_cons, utf8EncodeChar_ascii (ascii byte (by simp)),
        ih fun other mem => ascii other (List.mem_cons_of_mem _ mem)]
      rfl

theorem toByteArray_utf8 (text : String) :
    (⟨(utf8 text).toArray⟩ : ByteArray) = text.toByteArray := by
  have encoded : text.toByteArray = text.toList.utf8Encode := by simp
  rw [encoded, List.utf8Encode]
  apply ByteArray.ext
  simp [utf8]

/-- The bytes of a text are read back as that text. -/
theorem fromUTF8?_utf8 (text : String) :
    String.fromUTF8? ⟨(utf8 text).toArray⟩ = some text := by
  rw [toByteArray_utf8]
  simp [String.fromUTF8?, String.fromUTF8, text.isValidUTF8]

theorem utf8_injective : Function.Injective utf8 := by
  intro first second same
  have read := fromUTF8?_utf8 first
  rw [same, fromUTF8?_utf8] at read
  exact (Option.some.inj read).symm

/-- No character is encoded with a byte of ones. -/
theorem ones_notMem_utf8 (text : String) : (0xff : UInt8) ∉ utf8 text := by
  intro mem
  obtain ⟨char, -, mem⟩ := List.mem_flatMap.mp mem
  rw [String.utf8EncodeChar] at mem
  have small {code : Nat} (bound : code < 255) : (0xff : UInt8) ≠ UInt8.ofNat code := by
    intro same
    have codes : 255 = code % 256 := congrArg UInt8.toNat same
    omega
  split_ifs at mem <;> simp only [List.mem_cons, List.not_mem_nil, or_false] at mem
  · exact small (by omega) mem
  · rcases mem with lead | next
    · exact small (by omega) lead
    · exact small (by omega) next
  · rcases mem with lead | next | next
    · exact small (by omega) lead
    · exact small (by omega) next
    · exact small (by omega) next
  · rcases mem with lead | next | next | next
    · exact small (by omega) lead
    · exact small (by omega) next
    · exact small (by omega) next
    · exact small (by omega) next

/-! ## Reading with losses -/

def isContinuation (byte : UInt8) : Bool := 0x80 ≤ byte && byte ≤ 0xBF

/-- How many bytes follow a first byte. -/
def continuations (first : UInt8) : Nat :=
  if 0xC2 ≤ first && first ≤ 0xDF then 1
  else if 0xE0 ≤ first && first ≤ 0xEF then 2
  else if 0xF0 ≤ first && first ≤ 0xF4 then 3
  else 0

/-- No overlong forms, no surrogates, and nothing above the last character. -/
def mayFollow (first second : UInt8) : Bool :=
  isContinuation second && match first with
    | 0xE0 => 0xA0 ≤ second
    | 0xED => second ≤ 0x9F
    | 0xF0 => 0x90 ≤ second
    | 0xF4 => second ≤ 0x8F
    | _ => true

/-- The length of the first character, or of what could have become one. -/
def sequenceLen : List UInt8 → Nat
  | [] => 0
  | [_] => 1
  | first :: second :: rest =>
      if continuations first = 0 || !mayFollow first second then 1
      else 2 + ((rest.take (continuations first - 1)).takeWhile isContinuation).length

/-- Character by character, with a replacement for what is none. -/
def lossyChars (skipped : Nat) : List UInt8 → List Char
  | [] => []
  | first :: rest =>
      match skipped with
      | skipped + 1 => lossyChars skipped rest
      | 0 =>
          let length := sequenceLen (first :: rest)
          let chars := match String.fromUTF8? ⟨((first :: rest).take length).toArray⟩ with
            | some text => text.toList
            | none => ['\uFFFD']
          chars ++ lossyChars (length - 1) rest

/-- Valid UTF-8 is read as it is; of anything else the invalid parts are replaced. -/
def fromUtf8Lossy (bytes : List UInt8) : String :=
  match String.fromUTF8? ⟨bytes.toArray⟩ with
  | some text => text
  | none => String.ofList (lossyChars 0 bytes)

@[simp] theorem fromUtf8Lossy_utf8 (text : String) : fromUtf8Lossy (utf8 text) = text := by
  rw [fromUtf8Lossy, fromUTF8?_utf8]

end AiPowerGateway.Text

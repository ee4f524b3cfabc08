import AiPowerGateway.Json.Compact
import AiPowerGateway.Sse.Frames
import AiPowerGateway.Text.Utf8

/-!
# What the gateway takes from other crates

The behaviour of libraries outside the repository, as parameters: the JSON text
of `serde_json`, Unicode lower-casing, and the header values that the `http`
crate admits.  `Host.compact` is one concrete choice of them.  The end of a file
write is the environment's choice.
-/

namespace AiPowerGateway.Share

/-- JSON text: printing and reading by the gateway, reading by its clients. -/
structure SerdeJson where
  toString : Json → String
  /-- `from_str`; the error is its message. -/
  fromStr : String → Except String Json
  /-- `from_slice` on the bytes of a request. -/
  fromSlice : List UInt8 → Option Json
  clientParse : String → Option Json
  /-- The mark that ends an event stream is no JSON. -/
  clientParse_done : clientParse "[DONE]" = none
  clientParse_toString (value : Json) : clientParse (toString value) = some value
  fromStr_toString (value : Json) (exact : value.fractionFree) :
    fromStr (toString value) = .ok value
  toString_printable (value : Json) : ∀ c ∈ (toString value).toList, 32 ≤ c.toNat

namespace SerdeJson

/-- Printed JSON fits on one line of an event stream. -/
theorem oneLine_toString (serde : SerdeJson) (value : Json) :
    Sse.OneLine (serde.toString value) := by
  constructor
  · intro mem
    exact absurd (serde.toString_printable value _ mem) (by decide)
  · intro mem
    exact absurd (serde.toString_printable value _ mem) (by decide)

/-- The printer and the reader of compact JSON text. -/
def compact : SerdeJson where
  toString := Json.Compact.toText
  fromStr text := match Json.Compact.ofText text with
    | some value => .ok value
    | none => .error "invalid JSON"
  fromSlice bytes := (String.fromUTF8? ⟨bytes.toArray⟩).bind Json.Compact.ofText
  clientParse := Json.Compact.ofText
  clientParse_done := by decide
  clientParse_toString := Json.Compact.ofText_toText
  fromStr_toString value _ := by rw [Json.Compact.ofText_toText]
  toString_printable value c mem :=
    Json.Compact.printable_write value c (by simpa [Json.Compact.toText] using mem)

/-- A printed value is read back from its bytes. -/
theorem fromSlice_compact (value : Json) :
    compact.fromSlice (Text.utf8 (Json.Compact.toText value)) = some value := by
  show (String.fromUTF8? _).bind Json.Compact.ofText = some value
  rw [Text.fromUTF8?_utf8, Option.bind_some, Json.Compact.ofText_toText]

end SerdeJson

structure Host where
  serde : SerdeJson
  toLowercase : String → String
  /-- Whether `HeaderValue::try_from` accepts the text. -/
  headerValueOk : String → Bool

/-- Compact JSON text, ASCII lower-casing, and header values without control characters. -/
def Host.compact : Host where
  serde := SerdeJson.compact
  toLowercase := String.toLower
  headerValueOk text := text.toList.all fun c => (32 ≤ c.toNat && c.toNat ≠ 127) || c = '\t'

/-! ## Files -/

/-- How a write of a whole file ends; the callers ignore which. -/
inductive WriteOutcome where
  | done
  | untouched
  /-- Interrupted: what is left does not parse. -/
  | broken
  deriving DecidableEq, Repr

/-- The readable content of a file after a write. -/
def WriteOutcome.content {α : Type} (outcome : WriteOutcome) (old : Option α) (new : α) :
    Option α :=
  match outcome with
  | .done => some new
  | .untouched => old
  | .broken => none

end AiPowerGateway.Share

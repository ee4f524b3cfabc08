import AiPowerGateway.Collections.Accumulators
import AiPowerGateway.Share.Backend
import AiPowerGateway.Share.Replies

/-!
# What is assembled from an event stream

The assembly of a stream, described without its loop: the `data:` lines before the mark
that ends the stream are read as JSON, the texts of their first choices are joined, and of
every other part the first or the last occurrence stands.
-/

namespace AiPowerGateway.Share

open Accumulators

/-! ## The lines that are read -/

/-- The payload of a `data:` line. -/
def ssePayload? (line : String) : Option String :=
  (Text.stripLeading? (Text.trim line) "data:").map Text.trim

/-- The line ends the stream. -/
def EndsStream (line : String) : Prop := ssePayload? line = some "[DONE]"

instance (line : String) : Decidable (EndsStream line) := inferInstanceAs (Decidable (_ = _))

/-- The lines before the first one that ends the stream. -/
def linesRead (lines : List String) : List String := lines.takeWhile fun line => ¬ EndsStream line

def payloadsRead (lines : List String) : List String := (linesRead lines).filterMap ssePayload?

def json? (serde : SerdeJson) (payload : String) : Option Json := (serde.fromStr payload).toOption

/-- The chunks of a stream. -/
def chunksRead (serde : SerdeJson) (lines : List String) : List Json :=
  (payloadsRead lines).filterMap (json? serde)

/-! ## What a chunk carries -/

def chunkChoice (chunk : Json) : Option Json := (chunk.get? "choices").bind (·.item? 0)

/-- A text of the delta of the first choice. -/
def deltaText? (key : String) (chunk : Json) : Option String :=
  ((chunkChoice chunk).bind (·.get? "delta")).bind (·.text? key)

/-- A finish reason that is not empty. -/
def chunkFinish? (chunk : Json) : Option String :=
  ((chunkChoice chunk).bind (·.text? "finish_reason")).filter (· ≠ "")

def chunkCreated? (chunk : Json) : Option UInt64 := (chunk.get? "created").bind Json.asU64?

/-- A usage that is not `null`. -/
def chunkUsage? (chunk : Json) : Option Json := (chunk.get? "usage").filter (· ≠ .null)

/-- A text of the message of the first choice. -/
def messageText? (key : String) (resp : Json) : Option String :=
  ((chunkChoice resp).bind (·.get? "message")).bind (·.text? key)

/-- The completion says what the chunks carry. -/
structure Assembled (chunks : List Json) (resp : Json) : Prop where
  content : messageText? "content" resp = some (joined (deltaText? "content") chunks)
  /-- An empty reasoning is left out. -/
  reasoning : messageText? "reasoning_content" resp =
    (some (joined (deltaText? "reasoning_content") chunks)).filter (· ≠ "")
  finishReason : (chunkChoice resp).bind (·.text? "finish_reason") =
    some ((last chunkFinish? chunks).getD "stop")
  id : resp.text? "id" = some ((first (·.text? "id") chunks).getD "chatcmpl-aipg-codebuddy")
  model : resp.text? "model" = some ((first (·.text? "model") chunks).getD "")
  created : chunkCreated? resp = some ((first chunkCreated? chunks).getD 0)
  usage : resp.get? "usage" = last chunkUsage? chunks

/-- Consecutive chunks that together carry what one chunk carries. -/
structure Splits (chunk : Json) (pieces : List Json) : Prop where
  content : joined (deltaText? "content") pieces = (deltaText? "content" chunk).getD ""
  reasoning : joined (deltaText? "reasoning_content") pieces =
    (deltaText? "reasoning_content" chunk).getD ""
  finishReason : last chunkFinish? pieces = chunkFinish? chunk
  id : first (·.text? "id") pieces = chunk.text? "id"
  model : first (·.text? "model") pieces = chunk.text? "model"
  created : first chunkCreated? pieces = chunkCreated? chunk
  usage : last chunkUsage? pieces = chunkUsage? chunk

/-! ## The accumulators -/

section Absorb

variable (state : SseAssembly) (chunk : Json)

theorem absorb_finishReason :
    (state.absorb chunk).finishReason = (chunkFinish? chunk).getD state.finishReason := by
  simp only [SseAssembly.absorb, chunkFinish?, chunkChoice]
  cases ((chunk.get? "choices").bind (·.item? 0)).bind (·.text? "finish_reason") with
  | none => rfl
  | some reason =>
      by_cases silent : reason = "" <;> simp [silent, Option.filter_some]

theorem absorb_usage : (state.absorb chunk).usage = (chunkUsage? chunk).or state.usage := by
  simp only [SseAssembly.absorb, chunkUsage?]
  cases chunk.get? "usage" with
  | none => simp
  | some usage =>
      by_cases isNull : usage = .null <;> simp [isNull, Option.filter_some]

end Absorb

/-- The state after some chunks, accumulator by accumulator. -/
theorem foldl_absorb (chunks : List Json) (state : SseAssembly) :
    chunks.foldl SseAssembly.absorb state =
      { id := state.id.or (first (·.text? "id") chunks)
        model := state.model.or (first (·.text? "model") chunks)
        created := state.created.or (first chunkCreated? chunks)
        content := state.content ++ joined (deltaText? "content") chunks
        reasoning := state.reasoning ++ joined (deltaText? "reasoning_content") chunks
        finishReason := (last chunkFinish? chunks).getD state.finishReason
        usage := (last chunkUsage? chunks).or state.usage } := by
  have whole (assembly : SseAssembly) : assembly = ⟨assembly.id, assembly.model, assembly.created,
    assembly.content, assembly.reasoning, assembly.finishReason, assembly.usage⟩ := rfl
  rw [whole (chunks.foldl SseAssembly.absorb state),
    foldl_first SseAssembly.id (fun _ _ => rfl),
    foldl_first SseAssembly.model (fun _ _ => rfl),
    foldl_first SseAssembly.created (fun _ _ => rfl),
    foldl_joined SseAssembly.content (fun _ _ => rfl),
    foldl_joined SseAssembly.reasoning (fun _ _ => rfl),
    foldl_last_getD SseAssembly.finishReason absorb_finishReason,
    foldl_last SseAssembly.usage absorb_usage]
  rfl

theorem reasoning_finish (state : SseAssembly) :
    messageText? "reasoning_content" state.finish = (some state.reasoning).filter (· ≠ "") := by
  by_cases silent : state.reasoning = ""
  · rw [SseAssembly.finish, silent]
    rfl
  · rw [Option.filter_some, if_pos (by simpa using silent), SseAssembly.finish, if_neg silent]
    rfl

theorem assembled_finish (chunks : List Json) :
    Assembled chunks (chunks.foldl SseAssembly.absorb {}).finish := by
  rw [foldl_absorb]
  constructor
  · simp [SseAssembly.finish, messageText?, chunkChoice, Json.text?, Json.item?]
  · simp only [reasoning_finish, String.empty_append]
  · simp [SseAssembly.finish, chunkChoice, Json.text?, Json.item?]
  · simp [SseAssembly.finish, Json.text?]
  · simp [SseAssembly.finish, Json.text?]
  · simp [SseAssembly.finish, chunkCreated?]
  · cases usage : last chunkUsage? chunks <;> simp [SseAssembly.finish]

/-! ## The loop over the lines -/

variable (serde : SerdeJson)

/-- The value of a payload, or the error of the whole assembly. -/
def readChunk (payload : String) : Except RuntimeError Json :=
  (serde.fromStr payload).mapError fun e => .other ("upstream sse json: " ++ e)

theorem toOption_readChunk (payload : String) :
    (readChunk serde payload).toOption = json? serde payload := by
  unfold readChunk json?
  cases serde.fromStr payload <;> rfl

theorem payloadsRead_cons (line : String) (lines : List String) :
    payloadsRead (line :: lines) =
      match ssePayload? line with
      | none => payloadsRead lines
      | some payload => if payload = "[DONE]" then [] else payload :: payloadsRead lines := by
  cases payload : ssePayload? line with
  | none => simp [payloadsRead, linesRead, EndsStream, payload]
  | some text =>
      by_cases ends : text = "[DONE]" <;>
        simp [payloadsRead, linesRead, EndsStream, payload, ends]

theorem assembleLines_cons (state : SseAssembly) (line : String) (lines : List String) :
    assembleLines serde state (line :: lines) =
      match ssePayload? line with
      | none => assembleLines serde state lines
      | some payload =>
          if payload = "[DONE]" then .ok state
          else (readChunk serde payload).bind fun chunk =>
            assembleLines serde (state.absorb chunk) lines := by
  rw [assembleLines, ssePayload?]
  cases Text.stripLeading? (Text.trim line) "data:" with
  | none => rfl
  | some rest =>
      show (if Text.trim rest = "[DONE]" then _ else _) =
        if Text.trim rest = "[DONE]" then _ else _
      rw [readChunk]
      cases serde.fromStr (Text.trim rest) <;> rfl

/-- The loop reads every payload, and folds the chunks if all could be read. -/
theorem assembleLines_eq (state : SseAssembly) (lines : List String) :
    assembleLines serde state lines =
      ((payloadsRead lines).mapM (readChunk serde)).map fun chunks =>
        chunks.foldl SseAssembly.absorb state := by
  induction lines generalizing state with
  | nil => rfl
  | cons line lines ih =>
      rw [assembleLines_cons, payloadsRead_cons]
      cases ssePayload? line with
      | none => exact ih state
      | some payload =>
          by_cases ends : payload = "[DONE]"
          · simp only [ends, if_true]
            rfl
          · simp only [ends, if_false, List.mapM_cons, ih]
            cases readChunk serde payload with
            | error e => rfl
            | ok chunk => cases (payloadsRead lines).mapM (readChunk serde) <;> rfl

/-- The assembly depends on the payloads that are read, and on nothing else. -/
theorem assembleSseResponse_eq (body : String) :
    assembleSseResponse serde body =
      ((payloadsRead (Text.lines body)).mapM (readChunk serde)).map fun chunks =>
        (chunks.foldl SseAssembly.absorb {}).finish := by
  rw [assembleSseResponse, assembleLines_eq]
  cases (payloadsRead (Text.lines body)).mapM (readChunk serde) <;> rfl

/-! ## Lines that do not matter, and chunks that are split -/

/-- A line, trimmed, starts with `data:`. -/
def IsDataLine (line : String) : Prop := Text.startsWith (Text.trim line) "data:" = true

instance (line : String) : Decidable (IsDataLine line) := inferInstanceAs (Decidable (_ = _))

/-- A line that is read as a chunk. -/
def Carries (line : String) (chunk : Json) : Prop :=
  ∃ payload, ssePayload? line = some payload ∧ payload ≠ "[DONE]" ∧
    serde.fromStr payload = .ok chunk

theorem ssePayload?_of_not_isDataLine {line : String} (other : ¬ IsDataLine line) :
    ssePayload? line = none := by
  unfold IsDataLine at other
  simp [ssePayload?, Text.stripLeading?, other]

theorem payloadsRead_filter (lines : List String) :
    payloadsRead (lines.filter fun line => IsDataLine line) = payloadsRead lines := by
  induction lines with
  | nil => rfl
  | cons line lines ih =>
      by_cases data : IsDataLine line
      · rw [List.filter_cons_of_pos (by simpa using data), payloadsRead_cons, payloadsRead_cons, ih]
      · rw [List.filter_cons_of_neg (by simpa using data), ih, payloadsRead_cons,
          ssePayload?_of_not_isDataLine data]

/-- Lines that are read alike are read alike after the same lines. -/
theorem assembleLines_append (before : List String) {rest other : List String}
    (alike : ∀ state, assembleLines serde state rest = assembleLines serde state other)
    (state : SseAssembly) :
    assembleLines serde state (before ++ rest) = assembleLines serde state (before ++ other) := by
  induction before generalizing state with
  | nil => exact alike state
  | cons line before ih =>
      rw [List.cons_append, List.cons_append, assembleLines_cons, assembleLines_cons]
      simp only [ih]

theorem assembleLines_ends {line : String} (ends : EndsStream line) (state : SseAssembly)
    (after : List String) : assembleLines serde state (line :: after) = .ok state := by
  rw [assembleLines_cons, show ssePayload? line = some "[DONE]" from ends]
  rfl

theorem assembleLines_carries {lines : List String} {chunks : List Json}
    (carries : List.Forall₂ (Carries serde) lines chunks) (state : SseAssembly)
    (after : List String) :
    assembleLines serde state (lines ++ after) =
      assembleLines serde (chunks.foldl SseAssembly.absorb state) after := by
  induction carries generalizing state with
  | nil => rfl
  | @cons line chunk lines chunks carried _ ih =>
      obtain ⟨payload, found, goesOn, read⟩ := carried
      have value : readChunk serde payload = .ok chunk := by
        rw [readChunk, read]
        rfl
      rw [List.cons_append, assembleLines_cons, found]
      simp only [goesOn, if_false, value]
      exact ih (state.absorb chunk)

/-- Split chunks leave the state that the whole chunk leaves. -/
theorem foldl_absorb_splits {chunk : Json} {pieces : List Json} (splits : Splits chunk pieces)
    (state : SseAssembly) : pieces.foldl SseAssembly.absorb state = state.absorb chunk := by
  have whole := foldl_absorb [chunk] state
  rw [List.foldl_cons, List.foldl_nil] at whole
  rw [whole, foldl_absorb, splits.content, splits.reasoning, splits.finishReason, splits.id,
    splits.model, splits.created, splits.usage]
  simp

/-! ## The assembly of a text -/

/-- What the assembly of a body does, and what it does not depend on. -/
structure AssemblesText (body : String) : Prop where
  fails : (∃ e, assembleSseResponse serde body = .error e) ↔
    ∃ line ∈ linesRead (Text.lines body), ∃ payload, ssePayload? line = some payload ∧
      json? serde payload = none
  assembled : ∀ resp, assembleSseResponse serde body = .ok resp →
    Assembled (chunksRead serde (Text.lines body)) resp
  afterEnd : ∀ other before line after more, EndsStream line →
    Text.lines body = before ++ line :: after → Text.lines other = before ++ line :: more →
    assembleSseResponse serde other = assembleSseResponse serde body
  otherLines : ∀ other,
    (Text.lines other).filter (fun line => IsDataLine line) =
      (Text.lines body).filter (fun line => IsDataLine line) →
    assembleSseResponse serde other = assembleSseResponse serde body
  splits : ∀ other before line after chunk pieceLines pieces, Carries serde line chunk →
    List.Forall₂ (Carries serde) pieceLines pieces → Splits chunk pieces →
    Text.lines body = before ++ line :: after →
    Text.lines other = before ++ (pieceLines ++ after) →
    assembleSseResponse serde other = assembleSseResponse serde body

theorem assembly_fails_iff (body : String) :
    (∃ e, assembleSseResponse serde body = .error e) ↔
      ∃ line ∈ linesRead (Text.lines body), ∃ payload, ssePayload? line = some payload ∧
        json? serde payload = none := by
  have failed : (∃ e, assembleSseResponse serde body = .error e) ↔
      ∃ e, (payloadsRead (Text.lines body)).mapM (readChunk serde) = .error e := by
    rw [assembleSseResponse_eq]
    cases (payloadsRead (Text.lines body)).mapM (readChunk serde) <;> simp [Except.map]
  simp only [failed, mapM_error_iff, toOption_readChunk, payloadsRead, List.mem_filterMap]
  constructor
  · rintro ⟨payload, ⟨line, mem, found⟩, noJson⟩
    exact ⟨line, mem, payload, found, noJson⟩
  · rintro ⟨line, mem, payload, found, noJson⟩
    exact ⟨payload, ⟨line, mem, found⟩, noJson⟩

theorem assembled_of_ok {body : String} {resp : Json}
    (ok : assembleSseResponse serde body = .ok resp) :
    Assembled (chunksRead serde (Text.lines body)) resp := by
  rw [assembleSseResponse_eq] at ok
  cases read : (payloadsRead (Text.lines body)).mapM (readChunk serde) with
  | error e =>
      rw [read] at ok
      cases ok
  | ok chunks =>
      rw [read] at ok
      cases ok
      have values : chunks = chunksRead serde (Text.lines body) := by
        rw [mapM_ok read, chunksRead]
        simp only [toOption_readChunk]
      rw [← values]
      exact assembled_finish chunks

/--
The assembly of any text fails exactly on a payload before the end mark that is no JSON,
else it says what the chunks carry; lines after the mark and other lines do not matter,
nor does the split of a delta over consecutive chunks.
-/
theorem sse_assembly_correct (body : String) : AssemblesText serde body where
  fails := assembly_fails_iff serde body
  assembled _ ok := assembled_of_ok serde ok
  afterEnd other before line after more ends lines otherLines := by
    have alike (state : SseAssembly) : assembleLines serde state (line :: more) =
        assembleLines serde state (line :: after) := by
      rw [assembleLines_ends serde ends, assembleLines_ends serde ends]
    rw [assembleSseResponse, assembleSseResponse, lines, otherLines,
      assembleLines_append serde before alike]
  otherLines other same := by
    rw [assembleSseResponse_eq, assembleSseResponse_eq, ← payloadsRead_filter, same,
      payloadsRead_filter]
  splits other before line after chunk pieceLines pieces carries pieceCarries split lines
      otherLines := by
    have whole (state : SseAssembly) : assembleLines serde state (line :: after) =
        assembleLines serde (state.absorb chunk) after :=
      assembleLines_carries serde (List.Forall₂.cons carries .nil) state after
    have alike (state : SseAssembly) : assembleLines serde state (pieceLines ++ after) =
        assembleLines serde state (line :: after) := by
      rw [assembleLines_carries serde pieceCarries, foldl_absorb_splits split, whole]
    rw [assembleSseResponse, assembleSseResponse, lines, otherLines,
      assembleLines_append serde before alike]

end AiPowerGateway.Share

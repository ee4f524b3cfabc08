import AiPowerGateway.Share.Host

/-!
# Replies on their way to the client

A completion becomes an Anthropic message, or an event stream that replays it in
the Anthropic or in the OpenAI form.
-/

namespace AiPowerGateway.Share

/-- The prompt and completion tokens of a completion. -/
def extractOpenaiUsage (resp : Json) : UInt64 × UInt64 :=
  let usage := (resp.get? "usage").getD (.obj [])
  (((usage.get? "prompt_tokens").bind Json.asU64?).getD 0,
    ((usage.get? "completion_tokens").bind Json.asU64?).getD 0)

/-! ## The first choice -/

structure OpenAiChoice where
  text : String
  toolCalls : List Json
  finishReason : Option String

def firstChoice (resp : Json) : Option OpenAiChoice :=
  ((resp.get? "choices").bind fun choices => choices.asArray?.bind List.head?).bind fun choice =>
    (choice.get? "message").map fun message =>
      { text := message.textOr "content" ""
        toolCalls := ((message.get? "tool_calls").bind Json.asArray?).getD []
        finishReason := choice.text? "finish_reason" }

/-- A member of the function of a tool call. -/
def functionField (call : Json) (key : String) : Option Json :=
  (call.get? "function").bind fun function => function.get? key

/-! ## The Anthropic form -/

/-- The arguments of a tool call, parsed where they are the text of a JSON value. -/
def toolInput (serde : SerdeJson) (call : Json) : Json :=
  let arguments := functionField call "arguments"
  match arguments.bind Json.asStr? with
  | none => arguments.getD (.obj [])
  | some text =>
      match serde.fromStr text with
      | .ok input => input
      | .error _ => arguments.getD (.obj [])

def textBlock (text : String) : Json := .obj [("type", .str "text"), ("text", .str text)]

def toolUseBlock (serde : SerdeJson) (call : Json) : Json :=
  .obj [
    ("type", .str "tool_use"),
    ("id", .str (call.textOr "id" "call_0")),
    ("name", .str (((functionField call "name").bind Json.asStr?).getD "")),
    ("input", toolInput serde call)]

/-- The content blocks of a choice: its text unless empty, then its tool calls. -/
def choiceBlocks (serde : SerdeJson) (choice : OpenAiChoice) : List Json :=
  (if choice.text = "" then [] else [textBlock choice.text]) ++
    choice.toolCalls.map (toolUseBlock serde)

/-- The content blocks of a completion; there is always one. -/
def contentBlocks (serde : SerdeJson) (resp : Json) : List Json :=
  let blocks := match firstChoice resp with
    | some choice => choiceBlocks serde choice
    | none => []
  if blocks = [] then [textBlock ""] else blocks

def stopReason (resp : Json) : String :=
  match (firstChoice resp).bind OpenAiChoice.finishReason with
  | some "tool_calls" => "tool_use"
  | some "length" => "max_tokens"
  | _ => "end_turn"

def replyModel (resp : Json) : String := resp.textOr "model" "default"

def openaiToAnthropic (serde : SerdeJson) (resp : Json) : Json :=
  let (promptTokens, completionTokens) := extractOpenaiUsage resp
  .obj [
    ("id", .str "msg_mock_0001"),
    ("type", .str "message"),
    ("role", .str "assistant"),
    ("model", .str (replyModel resp)),
    ("content", .arr (contentBlocks serde resp)),
    ("stop_reason", .str (stopReason resp)),
    ("stop_sequence", .null),
    ("usage", .obj [
      ("input_tokens", .num (.posInt promptTokens)),
      ("output_tokens", .num (.posInt completionTokens))])]

/-! ## The Anthropic event stream -/

/-- An event by its name and the JSON value of its data. -/
abbrev NamedEvent := String × Json

def messageStart (resp : Json) : NamedEvent :=
  ("message_start", .obj [
    ("type", .str "message_start"),
    ("message", .obj [
      ("id", .str "msg_mock_0001"),
      ("type", .str "message"),
      ("role", .str "assistant"),
      ("model", .str (replyModel resp)),
      ("content", .arr []),
      ("usage", .obj [
        ("input_tokens", .num (.posInt (extractOpenaiUsage resp).1)),
        ("output_tokens", .ofNat 0)])])])

def blockStart (index : Nat) (block : Json) : NamedEvent :=
  ("content_block_start", .obj [
    ("type", .str "content_block_start"),
    ("index", .ofNat index),
    ("content_block", block)])

def blockDelta (index : Nat) (delta : Json) : NamedEvent :=
  ("content_block_delta", .obj [
    ("type", .str "content_block_delta"),
    ("index", .ofNat index),
    ("delta", delta)])

def blockStop (index : Nat) : NamedEvent :=
  ("content_block_stop", .obj [
    ("type", .str "content_block_stop"),
    ("index", .ofNat index)])

/-- The content of a block, repeated as a delta. -/
def delta? (serde : SerdeJson) (block : Json) : Option Json :=
  match block.textOr "type" "text" with
  | "text" => some (.obj [
      ("type", .str "text_delta"),
      ("text", .str (block.textOr "text" ""))])
  | "tool_use" => some (.obj [
      ("type", .str "input_json_delta"),
      ("partial_json", .str (serde.toString ((block.get? "input").getD (.obj []))))])
  | _ => none

def blockEvents (serde : SerdeJson) (index : Nat) (block : Json) : List NamedEvent :=
  [blockStart index block] ++ ((delta? serde block).map (blockDelta index)).toList ++
    [blockStop index]

def messageDelta (resp : Json) : NamedEvent :=
  ("message_delta", .obj [
    ("type", .str "message_delta"),
    ("delta", .obj [("stop_reason", .str (stopReason resp)), ("stop_sequence", .null)]),
    ("usage", .obj [("output_tokens", .num (.posInt (extractOpenaiUsage resp).2))])])

def messageStop : NamedEvent := ("message_stop", .obj [("type", .str "message_stop")])

def anthropicEvents (serde : SerdeJson) (resp : Json) : List NamedEvent :=
  [messageStart resp] ++
    (contentBlocks serde resp).zipIdx.flatMap (fun (block, index) =>
      blockEvents serde index block) ++
    [messageDelta resp, messageStop]

/-- The frames of a list of events. -/
def eventFrames (serde : SerdeJson) : List NamedEvent → String
  | [] => ""
  | (name, data) :: rest => Sse.namedFrame name (serde.toString data) ++ eventFrames serde rest

def anthropicSseStream (serde : SerdeJson) (resp : Json) : String :=
  eventFrames serde (anthropicEvents serde resp)

/-! ## The OpenAI event stream -/

/-- What all chunks of one replay share. -/
def chunk (resp : Json) (delta finishReason : Json) (more : Json.Fields) : Json :=
  .obj ([
    ("id", .str (resp.textOr "id" "chatcmpl-mock")),
    ("object", .str "chat.completion.chunk"),
    ("created", .num (.posInt (((resp.get? "created").bind Json.asU64?).getD 0))),
    ("model", .str (replyModel resp)),
    ("choices", .arr [.obj [
      ("index", .ofNat 0),
      ("delta", delta),
      ("finish_reason", finishReason)]])] ++ more)

def roleChunk (resp : Json) : Json :=
  chunk resp (.obj [("role", .str "assistant"), ("content", .str "")]) .null []

def contentChunk (resp : Json) (text : String) : Json :=
  chunk resp (.obj [("content", .str text)]) .null []

/-- A tool call under the index it carries; a call without one gets index 0. -/
def toolCallDelta (call : Json) : Json :=
  .obj [
    ("index", .num (.posInt (((call.get? "index").bind Json.asU64?).getD 0))),
    ("id", .str (call.textOr "id" "call_0")),
    ("type", .str "function"),
    ("function", .obj [
      ("name", .str (((functionField call "name").bind Json.asStr?).getD "")),
      ("arguments", .str (((functionField call "arguments").bind Json.asStr?).getD ""))])]

def toolCallChunk (resp call : Json) : Json :=
  chunk resp (.obj [("tool_calls", .arr [toolCallDelta call])]) .null []

/-- Two finish reasons are passed on; every other one is replayed as `stop`. -/
def streamFinishReason (choice : OpenAiChoice) : String :=
  match choice.finishReason with
  | some "tool_calls" => "tool_calls"
  | some "length" => "length"
  | _ => "stop"

def finishChunk (resp : Json) (finishReason : String) : Json :=
  let (promptTokens, completionTokens) := extractOpenaiUsage resp
  chunk resp (.obj []) (.str finishReason) [
    ("usage", .obj [
      ("prompt_tokens", .num (.posInt promptTokens)),
      ("completion_tokens", .num (.posInt completionTokens)),
      ("total_tokens", .num (.posInt (promptTokens + completionTokens)))])]

def choiceChunks (resp : Json) (choice : OpenAiChoice) : List Json :=
  (if choice.text = "" then [] else [contentChunk resp choice.text]) ++
    choice.toolCalls.map (toolCallChunk resp)

def openaiChunks (resp : Json) : List Json :=
  match firstChoice resp with
  | none => [roleChunk resp, finishChunk resp "stop"]
  | some choice =>
      [roleChunk resp] ++ choiceChunks resp choice ++
        [finishChunk resp (streamFinishReason choice)]

/-- The frames of a list of chunks, and the mark that ends the stream. -/
def chunkFrames (serde : SerdeJson) : List Json → String
  | [] => Sse.dataFrame "[DONE]"
  | data :: rest => Sse.dataFrame (serde.toString data) ++ chunkFrames serde rest

def openaiSseStream (serde : SerdeJson) (resp : Json) : String :=
  chunkFrames serde (openaiChunks resp)

end AiPowerGateway.Share

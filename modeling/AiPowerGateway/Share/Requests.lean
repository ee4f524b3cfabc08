import AiPowerGateway.Share.Policy

/-!
# Requests on their way upstream

An Anthropic request becomes an OpenAI request; an OpenAI request is forwarded
with streaming turned off.
-/

namespace AiPowerGateway.Share

/-! ## Tools -/

/-- An Anthropic tool as an OpenAI function; a tool without a name is dropped. -/
def openaiTool (tool : Json) : Option Json :=
  let name := tool.textOr "name" ""
  if name = "" then none
  else some (.obj [
    ("type", .str "function"),
    ("function", .obj [
      ("name", .str name),
      ("description", .str (tool.textOr "description" "")),
      ("parameters", (tool.get? "input_schema").getD (.obj []))])])

/-! ## Messages -/

def messageRole (message : Json) : String := message.textOr "role" "user"

def blockType (block : Json) : String := block.textOr "type" "text"

/-- A `tool_use` block as an entry of `tool_calls`. -/
def toolCall (serde : SerdeJson) (block : Json) : Json :=
  .obj [
    ("id", .str (block.textOr "id" "call_0")),
    ("type", .str "function"),
    ("function", .obj [
      ("name", .str (block.textOr "name" "")),
      ("arguments", .str (serde.toString ((block.get? "input").getD (.obj []))))])]

/-- A `tool_result` block as a message of the role `tool`. -/
def toolMessage (block : Json) : Json :=
  .obj [
    ("role", .str "tool"),
    ("content", .str (Text.joinLines (contentTexts (block.get? "content")))),
    ("tool_call_id", .str (block.textOr "tool_use_id" "call_0"))]

def toolCalls (serde : SerdeJson) (blocks : List Json) : List Json :=
  (blocks.filter fun block => blockType block = "tool_use").map (toolCall serde)

def toolMessages (blocks : List Json) : List Json :=
  (blocks.filter fun block => blockType block = "tool_result").map toolMessage

/-- The texts of the blocks of every other type. -/
def textParts (blocks : List Json) : List String :=
  blockTexts (blocks.filter fun block =>
    blockType block ≠ "tool_use" ∧ blockType block ≠ "tool_result")

def plainMessage (role text : String) : Json :=
  .obj [("role", .str role), ("content", .str text)]

/-- The message for the texts and tool calls of a block list.  DeepSeek wants
`reasoning_content` on every assistant turn, whatever it holds. -/
def blockMessage (model role text : String) (calls : List Json) : Json :=
  .obj ([("role", .str role), ("content", .str text)] ++
    (if calls = [] then [] else [("tool_calls", .arr calls)]) ++
    (if role = "assistant" ∧ Text.contains model "deepseek" then
      [("reasoning_content", .str "")] else []))

/-- The OpenAI messages for one Anthropic message; a message of tool results alone
gets no shell of its own. -/
def openaiMessages (serde : SerdeJson) (model : String) (message : Json) : List Json :=
  let role := messageRole message
  match (message.get? "content").getD (.str "") with
  | .str text => [plainMessage role text]
  | .arr blocks =>
      let text := Text.joinLines (textParts blocks)
      let calls := toolCalls serde blocks
      (if text ≠ "" ∨ calls ≠ [] then [blockMessage model role text calls] else []) ++
        toolMessages blocks
  | _ => [plainMessage role ""]

/-- The system message, unless the system text is empty. -/
def systemMessages (body : Json) : List Json :=
  let system := Text.joinLines (contentTexts (body.get? "system"))
  if system = "" then [] else [plainMessage "system" system]

def anthropicModel (body : Json) : String := body.textOr "model" "default"

def anthropicToOpenai (serde : SerdeJson) (body : Json) : Json :=
  let model := anthropicModel body
  let maxTokens := ((body.get? "max_tokens").bind Json.asU64?).getD 4096
  let tools := (arrayField body "tools").filterMap openaiTool
  .obj ([
    ("model", .str model),
    ("max_tokens", .num (.posInt maxTokens)),
    ("messages", .arr (systemMessages body ++
      (arrayField body "messages").flatMap (openaiMessages serde model)))] ++
    (if tools = [] then [] else [("tools", .arr tools)]))

/-! ## Forwarding an OpenAI request -/

/-- Whether the client wants a stream. -/
def wantsStream (body : Json) : Bool := ((body.get? "stream").bind Json.asBool?).getD false

/-- The upstream is never asked for a stream, nor given options for one. -/
def prepareOpenaiUpstream (body : Json) : Bool × Json :=
  if wantsStream body then
    match body.set? "stream" (.bool false) with
    | some fwd => (true, fwd.removeField "stream_options")
    | none => (true, body) -- a value with a `stream` field is an object
  else (false, body)

end AiPowerGateway.Share

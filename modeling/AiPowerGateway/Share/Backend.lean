import AiPowerGateway.Share.Host

/-!
# Execution backends

The backend trait and its two implementations: the local mock and the forwarder
to an OpenAI-compatible endpoint.  A backend is asked for one completion; what
the network did meanwhile is an argument of the call.
-/

namespace AiPowerGateway.Share

/-- The errors that the request path raises. -/
inductive RuntimeError where
  | auth (text : String)
  | other (text : String)
  deriving DecidableEq, Repr

def RuntimeError.display : RuntimeError → String
  | .auth text => "auth: " ++ text
  | .other text => text

inductive Provider where
  | mock
  | deepSeek
  | kimi
  | zhipu
  | codeBuddy
  | custom
  deriving DecidableEq, Repr

namespace Provider

def name : Provider → String
  | .mock => "mock"
  | .deepSeek => "deepseek"
  | .kimi => "kimi"
  | .zhipu => "zhipu"
  | .codeBuddy => "codebuddy"
  | .custom => "custom"

def baseUrl : Provider → Option String
  | .mock => none
  | .deepSeek => some "https://api.deepseek.com"
  | .kimi => some "https://api.moonshot.cn/v1"
  | .zhipu => some "https://open.bigmodel.cn/api/paas/v4"
  | .codeBuddy => some "https://copilot.tencent.com/v2"
  | .custom => none

def defaultModel : Provider → String
  | .mock => "mock-7b"
  | .deepSeek => "deepseek-chat"
  | .kimi => "moonshot-v1-8k"
  | .zhipu => "glm-4-flash"
  | .codeBuddy => "deepseek-v4-flash"
  | .custom => "custom"

def defaultModels : Provider → List String
  | .codeBuddy => ["hy4-preview", "deepseek-v4-flash"]
  | provider => [provider.defaultModel]

end Provider

/-! ## The trait -/

/-- What the HTTP client reports about one upstream request. -/
inductive HttpOutcome where
  /-- No response head arrived: the connection failed or timed out. -/
  | sendFailed (error : String)
  /-- The head arrived, the body did not: the connection broke or timed out. -/
  | bodyFailed (error : String)
  /-- A response; `line` is the status with its reason phrase. -/
  | answered (status : Nat) (line text : String)
  deriving DecidableEq, Repr

/-- The end of a call of `Backend::chat`. -/
inductive ChatResult where
  | ok (resp : Json)
  | err (error : RuntimeError)
  | panicked
  deriving DecidableEq, Repr

/-- A `dyn Backend`: its identity, its catalogue and its completion call. -/
structure Backend where
  name : String
  provider : Provider
  providerLabel : String
  models : List String
  chat : Json → HttpOutcome → ChatResult

/-- The backend lists the model. -/
def Backend.Offers (backend : Backend) (model : String) : Prop := model ∈ backend.models

instance (backend : Backend) (model : String) : Decidable (backend.Offers model) :=
  inferInstanceAs (Decidable (_ ∈ _))

def truncate (text : String) (max : Nat) : String :=
  if text.length ≤ max then text else String.ofList (text.toList.take max)

/-! ## The mock -/

/-- Half the characters of a text, and at least one. -/
def mockTokens (text : String) : UInt64 := UInt64.ofNat (max (text.length / 2) 1)

def mockChat (model : String) (request : Json) : Json :=
  let userMsg := ((request.get? "messages").bind Json.asArray?).bind List.getLast?
    |>.bind (·.text? "content") |>.getD ""
  let reply := "mock reply to: " ++ truncate userMsg 80
  let completionTokens := mockTokens reply
  let promptTokens := mockTokens userMsg
  .obj [
    ("id", .str "chatcmpl-mock-0001"),
    ("object", .str "chat.completion"),
    ("created", .ofNat 0),
    ("model", .str model),
    ("choices", .arr [.obj [
      ("index", .ofNat 0),
      ("message", .obj [("role", .str "assistant"), ("content", .str reply)]),
      ("finish_reason", .str "stop")]]),
    ("usage", .obj [
      ("prompt_tokens", .num (.posInt promptTokens)),
      ("completion_tokens", .num (.posInt completionTokens)),
      ("total_tokens", .num (.posInt (promptTokens + completionTokens)))])]

def mockBackend : Backend where
  name := "mock"
  provider := .mock
  providerLabel := "mock"
  models := ["mock-7b"]
  chat request _ := .ok (mockChat "mock-7b" request)

/-! ## Assembling a streamed completion -/

/-- What the chunks read so far contribute to the completion. -/
structure SseAssembly where
  id : Option String := none
  model : Option String := none
  created : Option UInt64 := none
  content : String := ""
  reasoning : String := ""
  finishReason : String := "stop"
  usage : Option Json := none

def SseAssembly.absorb (state : SseAssembly) (chunk : Json) : SseAssembly :=
  let choice := (chunk.get? "choices").bind (·.item? 0)
  let delta := choice.bind (·.get? "delta")
  let usage := chunk.get? "usage"
  { id := state.id.or (chunk.text? "id")
    model := state.model.or (chunk.text? "model")
    created := state.created.or ((chunk.get? "created").bind Json.asU64?)
    content := state.content ++ (delta.bind (·.text? "content")).getD ""
    reasoning := state.reasoning ++ (delta.bind (·.text? "reasoning_content")).getD ""
    finishReason := match choice.bind (·.text? "finish_reason") with
      | some reason => if reason = "" then state.finishReason else reason
      | none => state.finishReason
    usage := if usage = some .null then state.usage else usage.or state.usage }

def SseAssembly.finish (state : SseAssembly) : Json :=
  let reasoning := if state.reasoning = "" then [] else
    [("reasoning_content", Json.str state.reasoning)]
  let usage := match state.usage with
    | some usage => [("usage", usage)]
    | none => []
  .obj ([
    ("id", .str (state.id.getD "chatcmpl-aipg-codebuddy")),
    ("object", .str "chat.completion"),
    ("created", .num (.posInt (state.created.getD 0))),
    ("model", .str (state.model.getD "")),
    ("choices", .arr [.obj [
      ("index", .ofNat 0),
      ("message",
        .obj ([("role", .str "assistant"), ("content", .str state.content)] ++ reasoning)),
      ("finish_reason", .str state.finishReason)]])] ++ usage)

/-- Read the `data:` lines up to `[DONE]`; a payload that is no JSON is an error. -/
def assembleLines (serde : SerdeJson) (state : SseAssembly) :
    List String → Except RuntimeError SseAssembly
  | [] => .ok state
  | line :: rest =>
      match Text.stripLeading? (Text.trim line) "data:" with
      | none => assembleLines serde state rest
      | some payload =>
          if Text.trim payload = "[DONE]" then .ok state
          else match serde.fromStr (Text.trim payload) with
            | .ok chunk => assembleLines serde (state.absorb chunk) rest
            | .error e => .error (.other ("upstream sse json: " ++ e))

def assembleSseResponse (serde : SerdeJson) (body : String) : Except RuntimeError Json :=
  (assembleLines serde {} (Text.lines body)).map SseAssembly.finish

/-! ## The OpenAI-compatible forwarder -/

structure OpenAICompatConfig where
  provider : Provider
  apiKey : String
  model : Option String := none
  models : List String := []
  baseUrl : Option String := none
  providerLabel : Option String := none
  name : Option String := none

namespace OpenAICompatConfig

def completionsUrl (cfg : OpenAICompatConfig) : String :=
  let base := (cfg.baseUrl.or cfg.provider.baseUrl).getD ""
  Text.trimEnd base '/' ++ "/chat/completions"

def effectiveModel (cfg : OpenAICompatConfig) : String :=
  cfg.model.getD cfg.provider.defaultModel

/-- The configured list, else the single configured model, else the provider's list. -/
def catalogue (cfg : OpenAICompatConfig) : List String :=
  let fromList := cfg.models.filter (· ≠ "")
  if fromList ≠ [] then fromList
  else match cfg.model with
    | some model => if model ≠ "" then [model] else cfg.provider.defaultModels
    | none => cfg.provider.defaultModels

/-- The body with the configured model when the request names none; an index
assignment on a value that is no object panics. -/
def withDefaultModel (cfg : OpenAICompatConfig) (request : Json) : Option Json :=
  if request.textOr "model" "" ≠ "" then some request
  else request.set? "model" (.str cfg.effectiveModel)

/-- The streaming form of a body, the only one that CodeBuddy accepts. -/
def streamed (body : Json) : Option Json := do
  let upstream ← body.set? "stream" (.bool true)
  upstream.set? "stream_options" (.obj [("include_usage", .bool true)])

/-- A request as it goes to the upstream. -/
structure UpstreamPost where
  url : String
  authorization : String
  body : Json

/-- The request that `chat` posts; none when preparing it panics. -/
def post? (cfg : OpenAICompatConfig) (request : Json) : Option UpstreamPost := do
  let body ← cfg.withDefaultModel request
  let body ← if cfg.provider = .codeBuddy then streamed body else some body
  some ⟨cfg.completionsUrl, "Bearer " ++ cfg.apiKey, body⟩

/-- The reason CodeBuddy gives for a failure: its `msg`, else the text. -/
def codeBuddyDetail (serde : SerdeJson) (text : String) : String :=
  match serde.fromStr text with
  | .ok value => (value.text? "msg").getD (truncate text 300)
  | .error _ => truncate text 300

def statusOk (status : Nat) : Bool := 200 ≤ status && status < 300

/-- What `chat` makes of the answer to its post. -/
def receive (serde : SerdeJson) (cfg : OpenAICompatConfig) : HttpOutcome → ChatResult
  | .sendFailed e => .err (.other ("upstream request: " ++ e))
  | .bodyFailed e => .err (.other ("upstream body: " ++ e))
  | .answered status line text =>
      if ¬ statusOk status then
        let detail := if cfg.provider = .codeBuddy then codeBuddyDetail serde text
          else truncate text 300
        .err (.other ("upstream " ++ line ++ ": " ++ detail))
      else if cfg.provider = .codeBuddy then
        match assembleSseResponse serde text with
        | .ok resp => .ok resp
        | .error e => .err e
      else
        match serde.fromStr text with
        | .ok resp => .ok resp
        | .error e => .err (.other ("upstream json: " ++ e))

def chat (serde : SerdeJson) (cfg : OpenAICompatConfig) (request : Json)
    (outcome : HttpOutcome) : ChatResult :=
  match cfg.post? request with
  | none => .panicked
  | some _ => cfg.receive serde outcome

end OpenAICompatConfig

def openAICompatBackend (serde : SerdeJson) (cfg : OpenAICompatConfig) : Backend where
  name := cfg.name.getD cfg.provider.name
  provider := cfg.provider
  providerLabel := cfg.providerLabel.getD cfg.provider.name
  models := cfg.catalogue
  chat := cfg.chat serde

end AiPowerGateway.Share

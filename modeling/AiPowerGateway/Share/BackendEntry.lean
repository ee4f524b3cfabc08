import AiPowerGateway.Json.Schema
import AiPowerGateway.Share.Backend

/-!
# Configured backends

An entry of the backend configuration: how a request body is read as one, what it
is called, which models and which key it stands for, and the backend that is built
from it.
-/

namespace AiPowerGateway.Share

def Provider.fromStr (name : String) : Provider :=
  if name = "mock" then .mock
  else if name = "deepseek" then .deepSeek
  else if name = "kimi" then .kimi
  else if name = "zhipu" then .zhipu
  else if name = "codebuddy" then .codeBuddy
  else .custom

def Provider.isBuiltin (provider : Provider) : Bool := provider ≠ .custom

def executorPresets : List String := ["pair", "agent"]

def isExecutorProvider (name : String) : Bool := name ∈ executorPresets

/-- The environment variables of the process, and Unicode upper-casing. -/
structure ProcessEnv where
  var : String → Option String
  toUppercase : String → String

/-- A process without environment variables. -/
def ProcessEnv.none : ProcessEnv := ⟨fun _ => Option.none, fun text => text⟩

structure BackendEntry where
  provider : String
  id : Option String := none
  apiKey : Option String := none
  apiKeyEnv : Option String := none
  model : Option String := none
  models : List String := []
  baseUrl : Option String := none
  splitRatio : Option Numbers.F64 := none
  listingId : Option String := none
  deriving DecidableEq, Repr

namespace BackendEntry

/-- The routing key. -/
def backendId (entry : BackendEntry) : String := entry.id.getD entry.provider

def isExecutor (entry : BackendEntry) : Bool := isExecutorProvider entry.provider

/-- The configured list, else the single model, else nothing. -/
def effectiveModels (entry : BackendEntry) : List String :=
  let fromList := entry.models.filter (· ≠ "")
  if fromList ≠ [] then fromList
  else match entry.model with
    | some model => if model ≠ "" then [model] else []
    | none => []

def nonEmpty (text : Option String) : Option String := text.filter (· ≠ "")

/-- The environment variable that the provider reserves for its key. -/
def officialVar (env : ProcessEnv) (entry : BackendEntry) : String :=
  "AIPOWERLINK_" ++ env.toUppercase entry.provider ++ "_API_KEY"

/-- The key itself, else the variable it names, else the variables of the provider. -/
def resolveApiKey (env : ProcessEnv) (entry : BackendEntry) : Option String :=
  let named := (nonEmpty entry.apiKeyEnv).bind fun name => nonEmpty (env.var name)
  let official := nonEmpty (env.var (entry.officialVar env))
  let codeBuddy :=
    if entry.provider = "codebuddy" then nonEmpty (env.var "CODEBUDDY_API_KEY") else none
  (nonEmpty entry.apiKey).or (named.or (official.or
    (codeBuddy.or (nonEmpty (env.var "AIPOWERLINK_API_KEY")))))

end BackendEntry

/-- Build the backend of an entry; only custom providers can lack something. -/
def backendFromEntry (serde : SerdeJson) (env : ProcessEnv) (entry : BackendEntry) :
    Except String Backend :=
  let provider := Provider.fromStr entry.provider
  match provider with
  | .mock => .ok mockBackend
  | _ =>
      if !provider.isBuiltin && Text.trim (entry.baseUrl.getD "") = "" then
        .error ("custom provider '" ++ entry.backendId ++ "' requires base_url")
      else if !provider.isBuiltin && entry.effectiveModels = [] && !entry.isExecutor then
        .error ("custom provider '" ++ entry.backendId ++ "' requires at least one model")
      else
        .ok (openAICompatBackend serde
          { provider := provider
            apiKey := (entry.resolveApiKey env).getD ""
            model := BackendEntry.nonEmpty entry.model
            models := entry.effectiveModels
            baseUrl := entry.baseUrl
            providerLabel := some entry.provider
            name := some entry.backendId })

/-- Build all of them, or fail with the first that cannot be built. -/
def buildBackends (serde : SerdeJson) (env : ProcessEnv) (entries : List BackendEntry) :
    Except String (List Backend) :=
  entries.mapM (backendFromEntry serde env)

/-! ## Reading a request body -/

/-- A trimmed text field that is not blank. -/
def bodyField (body : Json) (key : String) : Option String :=
  BackendEntry.nonEmpty ((body.text? key).map Text.trim)

/-- The names of a list, trimmed, without blank ones. -/
def bodyModels (body : Json) : List String :=
  (((body.get? "models").bind Json.asArray?).getD []).filterMap fun item =>
    BackendEntry.nonEmpty (item.asStr?.map Text.trim)

def bodyProvider (body : Json) : Except String String :=
  match bodyField body "preset" with
  | some preset =>
      if isExecutorProvider preset then .ok preset else .error ("unknown preset: " ++ preset)
  | none =>
      match bodyField body "provider" with
      | some provider => .ok provider
      | none => .error "provider required"

def entryFromBody (body : Json) : Except String BackendEntry :=
  match bodyProvider body with
  | .error message => .error message
  | .ok provider =>
      let preset := bodyField body "preset"
      let baseUrl := bodyField body "baseUrl"
      if preset.isSome && baseUrl.isNone then
        .error ("preset '" ++ preset.getD "" ++
          "' requires base_url (OpenAI compatible endpoint)")
      else
        let listed := bodyModels body
        let models := if listed = [] then (bodyField body "model").toList else listed
        .ok
          { provider := provider
            id := (bodyField body "id").or
              (if preset.isSome then some (provider ++ "-home-1") else none)
            apiKey := bodyField body "apiKey"
            apiKeyEnv := bodyField body "apiKeyEnv"
            model := none
            models := models.eraseDups
            baseUrl := baseUrl
            splitRatio := (body.get? "splitRatio").bind Json.asF64?
            listingId := bodyField body "listingId" }

/-! ## What a probe asks for -/

structure TestTarget where
  url : String
  key : String
  /-- A model to chat with, where the provider has no list of models to ask for. -/
  model : Option String
  deriving DecidableEq, Repr

/-- Where to probe; the mock needs no probe. -/
def testTarget (env : ProcessEnv) (entry : BackendEntry) : Except String (Option TestTarget) :=
  let provider := Provider.fromStr entry.provider
  if provider = .mock then .ok none
  else match (entry.baseUrl.or provider.baseUrl).filter fun url => Text.trim url ≠ "" with
    | none => .error "base_url required for custom providers"
    | some base =>
        let key := (entry.resolveApiKey env).getD ""
        if key = "" && !entry.isExecutor then
          .error "no API key — fill it in or set an env var reference"
        else if provider = .codeBuddy then
          .ok (some ⟨Text.trimEnd base '/' ++ "/chat/completions", key,
            some provider.defaultModel⟩)
        else .ok (some ⟨Text.trimEnd base '/' ++ "/models", key, none⟩)

/-! ## Facts about entries -/

theorem fromStr_eq_mock {name : String} : Provider.fromStr name = .mock ↔ name = "mock" := by
  constructor
  · intro mock
    by_contra other
    simp only [Provider.fromStr, other, ↓reduceIte] at mock
    split_ifs at mock
  · rintro rfl
    rfl

/-- A backend bears the name of its entry, except that every mock is called `mock`. -/
theorem name_backendFromEntry {serde : SerdeJson} {env : ProcessEnv} {entry : BackendEntry}
    {backend : Backend} (built : backendFromEntry serde env entry = .ok backend) :
    backend.name = if entry.provider = "mock" then "mock" else entry.backendId := by
  by_cases mock : entry.provider = "mock"
  · have provider := fromStr_eq_mock.mpr mock
    simp only [backendFromEntry, provider, Except.ok.injEq] at built
    rw [← built, if_pos mock]
    rfl
  · have provider : Provider.fromStr entry.provider ≠ .mock := mt fromStr_eq_mock.mp mock
    simp only [backendFromEntry] at built
    split at built
    · contradiction
    · split_ifs at built
      cases built
      rw [if_neg mock]
      rfl

end AiPowerGateway.Share

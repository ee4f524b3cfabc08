import AiPowerGateway.Share.Gates
import AiPowerGateway.Share.Link

/-!
# The routes of the leader

The model routes as HTTP: the body extractors, the handlers, and their replies on
the wire.
-/

namespace AiPowerGateway.Share

variable {τ : Type} [Counter τ]

/-! ## The model catalogue -/

def RuleResolver.ruleNames (resolver : RuleResolver) : List String :=
  resolver.sets.keys.mergeSort

def openaiModel (id ownedBy : String) : Json :=
  .obj [("id", .str id), ("object", .str "model"), ("created", .num (.posInt 0)),
    ("owned_by", .str ownedBy)]

/-- `models_openai`: the models of the backends, then the rule sets. -/
def modelsOpenai (host : Host) (state : ApiState τ) : Reply :=
  let models := (state.backends.modelsCatalog state.health).map fun (model, _) =>
    openaiModel model "aipowerlink"
  let rules := state.rules.ruleNames.map fun name => openaiModel name "aipowerlink-rule"
  jsonReply host 200 (.obj [("object", .str "list"), ("data", .arr (models ++ rules))])

/-- `api_models`: the same names, each once and in order. -/
def apiModels (host : Host) (state : ApiState τ) : Reply :=
  let unique := ((state.backends.modelsCatalog state.health).map Prod.fst ++
    state.rules.ruleNames).dedup
  jsonReply host 200 (.arr ((unique.insertionSort (· ≤ ·)).map .str))

/-! ## Requests and replies -/

/-- A header name as it is compared. -/
def headerName (name : String) : String := String.ofList (name.toList.map Char.toLower)

def httpHeaders (headers : List (String × String)) : HeaderMap :=
  headers.map fun header => (headerName header.1, Text.utf8 header.2)

def Reply.toHttp (reply : Reply) : HttpResponse where
  status := reply.status
  headers := httpHeaders reply.headers
  body := Text.utf8 reply.body

/-- How the web framework refuses a body: a short text. -/
structure Refused (response : HttpResponse) : Prop where
  status : response.status ∈ [400, 413, 415, 422]
  headers : response.headers = [("content-type", Text.utf8 "text/plain; charset=utf-8")]

/-- The body extractors of the web framework. -/
structure Extractors where
  json : HttpRequest → Except HttpResponse Json
  bytes : HttpRequest → Except HttpResponse (List UInt8)
  json_refused : ∀ req response, json req = .error response → Refused response
  bytes_refused : ∀ req response, bytes req = .error response → Refused response

/-- A leader, and what its backends and its other routes do. -/
structure Leader (τ : Type) where
  host : Host
  extract : Extractors
  net : Nat → HttpOutcome
  now : UInt64
  state : ApiState τ
  /-- The other routes and methods. -/
  rest : HttpRequest → Option HttpResponse

inductive ModelRoute where
  | models
  | chat
  | messages
  deriving DecidableEq, Repr

def ModelRoute.method : ModelRoute → Method
  | .models => .get
  | .chat => .post
  | .messages => .post

def ModelRoute.path : ModelRoute → String
  | .models => "/v1/models"
  | .chat => "/v1/chat/completions"
  | .messages => "/v1/messages"

/-- The request goes to the route. -/
def ModelRoute.Takes (route : ModelRoute) (req : HttpRequest) : Prop :=
  req.method = route.method ∧ req.path = route.path

/-- The handlers behind the link layer; one that panics gives no response. -/
def Leader.next (leader : Leader τ) (req : HttpRequest) : Option HttpResponse :=
  match req.method, req.path with
  | .post, "/v1/chat/completions" =>
      match leader.extract.json req with
      | .error refusal => some refusal
      | .ok body =>
          (chatCompletions leader.host leader.net leader.now leader.state req.headers
            body).reply.map Reply.toHttp
  | .post, "/v1/messages" =>
      match leader.extract.bytes req with
      | .error refusal => some refusal
      | .ok raw =>
          (messages leader.host (leader.net 0) leader.now leader.state req.headers
            raw).reply.map Reply.toHttp
  | .get, "/v1/models" => some (modelsOpenai leader.host leader.state).toHttp
  | _, _ => leader.rest req

/-! ## What the handlers answer -/

def octetStream : String := "application/octet-stream"

def contentTypes : List String :=
  ["application/json", "text/event-stream", "text/plain; charset=utf-8"]

/-- No upgrade is asked for, the body has a type of its own, and it is not sealed. -/
structure Ordinary (response : HttpResponse) : Prop where
  status : response.status ≠ 426
  typed : ∃ contentType ∈ contentTypes,
    response.headers.text? "content-type" = some contentType
  unsealed : response.headers.text? Link.encHeader = none

theorem Refused.ordinary {response : HttpResponse} (refused : Refused response) :
    Ordinary response where
  status isUpgrade := by simpa [isUpgrade] using refused.status
  typed := ⟨"text/plain; charset=utf-8", by decide, by rw [refused.headers]; decide⟩
  unsealed := by rw [refused.headers]; decide

theorem ordinary_jsonReply (host : Host) {status : Nat} (noUpgrade : status ≠ 426)
    (value : Json) : Ordinary (jsonReply host status value).toHttp where
  status := noUpgrade
  typed := ⟨"application/json", by decide, by
    simp only [jsonReply, Reply.toHttp]
    decide⟩
  unsealed := by
    simp only [jsonReply, Reply.toHttp]
    decide

theorem ordinary_refusal (host : Host) (refusal : Refusal) :
    Ordinary (refusal.reply host).toHttp := by
  cases refusal <;> exact ordinary_jsonReply host (by decide) _

/-- The headers of a success, behind those that name its rule set and its model. -/
theorem text?_okHeaders (ruleSet candidate : String) (more : List (String × String))
    {name : String} (notRule : "x-apl-rule" ≠ name) (notUpstream : "x-apl-upstream" ≠ name) :
    (httpHeaders ([("X-APL-Rule", ruleSet), ("X-APL-Upstream", candidate)] ++ more)).text? name =
      (httpHeaders more).text? name := by
  have rule : headerName "X-APL-Rule" = "x-apl-rule" := by decide
  have upstream : headerName "X-APL-Upstream" = "x-apl-upstream" := by decide
  simp [httpHeaders, HeaderMap.text?, rule, upstream, notRule, notUpstream]

theorem ordinary_okReply {host : Host} {ruleSet candidate body : String}
    {more : List (String × String)} {reply : Reply}
    (answered : okReply host ruleSet candidate more body = some reply)
    (typed : more = streamHeaders ∨ more = jsonHeaders) : Ordinary reply.toHttp := by
  unfold okReply at answered
  split at answered
  · cases answered
    constructor
    · exact (by decide : 200 ≠ 426)
    · rw [Reply.toHttp, text?_okHeaders _ _ _ (by decide) (by decide)]
      rcases typed with rfl | rfl
      · exact ⟨"text/event-stream", by decide, by decide⟩
      · exact ⟨"application/json", by decide, by decide⟩
    · rw [Reply.toHttp, text?_okHeaders _ _ _ (by decide) (by decide)]
      rcases typed with rfl | rfl <;> decide
  · cases answered

theorem ordinary_chatFinish {host : Host} {state : ApiState τ} {session : Session} {body : Json}
    {result : Except String LoopEnd} {reply : Reply}
    (answered : (chatFinish host state session body result).2 = some reply) :
    Ordinary reply.toHttp := by
  cases result with
  | error lastErr =>
      cases answered
      exact ordinary_jsonReply host (by split <;> decide) _
  | ok loopEnd =>
      cases loopEnd with
      | unavailable =>
          cases answered
          exact ordinary_jsonReply host (by decide) _
      | panicked => cases answered
      | served candidate providerLabel resp =>
          simp only [chatFinish] at answered
          split at answered
          · exact ordinary_okReply answered (Or.inl rfl)
          · exact ordinary_okReply answered (Or.inr rfl)

theorem ordinary_chatCompletions {host : Host} {net : Nat → HttpOutcome} {now : UInt64}
    {state : ApiState τ} {headers : HeaderMap} {body : Json} {reply : Reply}
    (answered : (chatCompletions host net now state headers body).reply = some reply) :
    Ordinary reply.toHttp := by
  rcases chatCompletions_cases host net now state headers body with
    ⟨refusal, members, policy, refused⟩ | ⟨session, members, policy, -, served⟩
  · rw [refused] at answered
    cases answered
    exact ordinary_refusal host refusal
  · rw [served] at answered
    exact ordinary_chatFinish answered

theorem ordinary_messagesServe {host : Host} {outcome : HttpOutcome} {state : ApiState τ}
    {session : Session} {body : Json} {reply : Reply}
    (answered : (messagesServe host outcome state session body).reply = some reply) :
    Ordinary reply.toHttp := by
  unfold messagesServe at answered
  dsimp only at answered
  split at answered
  · cases answered
    exact ordinary_jsonReply host (by decide) _
  · split at answered
    · dsimp only at answered
      split at answered
      · exact ordinary_okReply answered (Or.inl rfl)
      · exact ordinary_okReply answered (Or.inr rfl)
    · cases answered
      exact ordinary_jsonReply host (by decide) _
    · cases answered

theorem ordinary_messages {host : Host} {outcome : HttpOutcome} {now : UInt64}
    {state : ApiState τ} {headers : HeaderMap} {raw : List UInt8} {reply : Reply}
    (answered : (messages host outcome now state headers raw).reply = some reply) :
    Ordinary reply.toHttp := by
  rcases messages_cases host outcome now state headers raw with
    ⟨refusal, members, policy, refused⟩ | ⟨body, session, members, policy, -, -, served⟩
  · rw [refused] at answered
    cases answered
    exact ordinary_refusal host refusal
  · rw [served] at answered
    exact ordinary_messagesServe answered

/-- Every answer of a model route is ordinary. -/
theorem Leader.ordinary_next {leader : Leader τ} {route : ModelRoute} {req : HttpRequest}
    {answer : HttpResponse} (takes : route.Takes req) (answered : leader.next req = some answer) :
    Ordinary answer := by
  obtain ⟨isMethod, isPath⟩ := takes
  unfold Leader.next at answered
  rw [isMethod, isPath] at answered
  cases route with
  | models =>
      cases answered
      exact ordinary_jsonReply leader.host (by decide) _
  | chat =>
      simp only [ModelRoute.method, ModelRoute.path] at answered
      cases extracted : leader.extract.json req with
      | error refusal =>
          rw [extracted] at answered
          cases answered
          exact (leader.extract.json_refused req _ extracted).ordinary
      | ok body =>
          rw [extracted] at answered
          obtain ⟨reply, replied, rfl⟩ := Option.map_eq_some_iff.mp answered
          exact ordinary_chatCompletions replied
  | messages =>
      simp only [ModelRoute.method, ModelRoute.path] at answered
      cases extracted : leader.extract.bytes req with
      | error refusal =>
          rw [extracted] at answered
          cases answered
          exact (leader.extract.bytes_refused req _ extracted).ordinary
      | ok raw =>
          rw [extracted] at answered
          obtain ⟨reply, replied, rfl⟩ := Option.map_eq_some_iff.mp answered
          exact ordinary_messages replied

end AiPowerGateway.Share

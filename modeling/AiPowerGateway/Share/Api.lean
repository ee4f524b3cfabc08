import AiPowerGateway.Share.Auth
import AiPowerGateway.Share.Member
import AiPowerGateway.Share.Policy
import AiPowerGateway.Share.Registry
import AiPowerGateway.Share.Replies
import AiPowerGateway.Share.Requests
import AiPowerGateway.Share.Rules
import AiPowerGateway.Share.Usage
import AiPowerGateway.Systems.FirstStop

/-!
# The two entry points

`chat_completions` and `messages`: the gates that a request passes, the choice of
the upstream models, the calls of the backends, and what is metered and answered.
A handler maps the state of the service to the state it leaves, the backend calls
it made and its reply; a reply that is missing is a panic.
-/

namespace AiPowerGateway.Share

variable {τ : Type} [Counter τ]

/-! ## Headers -/

/-- Header fields in order, under lower-case names. -/
abbrev HeaderMap := List (String × List UInt8)

namespace HeaderMap

def get? (headers : HeaderMap) (name : String) : Option (List UInt8) :=
  (headers.find? fun header => header.1 = name).map Prod.snd

/-- A value as text, when all of it is visible ASCII. -/
def toStr? (value : List UInt8) : Option String :=
  if value.all fun byte => (32 ≤ byte && byte < 127) || byte = 9 then
    some (String.ofList (value.map fun byte => Char.ofNat byte.toNat))
  else none

end HeaderMap

/-- The token of the `Authorization` header, else of `x-api-key`. -/
def bearerToken (headers : HeaderMap) : Option String :=
  let bearer := ((headers.get? "authorization").bind HeaderMap.toStr?).bind
    (Text.stripLeading? · "Bearer ")
  match bearer with
  | some token => some (Text.trim token)
  | none => ((headers.get? "x-api-key").bind HeaderMap.toStr?).map Text.trim

/-! ## Replies -/

structure Reply where
  status : Nat
  headers : List (String × String)
  body : String
  deriving DecidableEq, Repr

def jsonReply (host : Host) (status : Nat) (value : Json) : Reply :=
  ⟨status, [("content-type", "application/json")], host.serde.toString value⟩

def errorReply (host : Host) (status : Nat) (message : String) : Reply :=
  jsonReply host status (.obj [("error", .obj [("message", .str message)])])

/-- Why a request is turned away before any backend is asked. -/
inductive Refusal where
  | sharingPaused
  | unauthorized
  | quotaExceeded (limit : UInt64)
  | invalidBody
  | blocked (category : PolicyCategory)
  deriving DecidableEq, Repr

def Refusal.reply (host : Host) : Refusal → Reply
  | .sharingPaused => errorReply host 503 "sharing paused"
  | .unauthorized => errorReply host 401 "unauthorized"
  | .quotaExceeded limit => jsonReply host 429 (.obj [("error", .obj [
      ("message", .str ("quota exceeded: limit " ++ toString limit ++ " tokens")),
      ("type", .str "insufficient_quota"),
      ("code", .str "quota_exceeded"),
      ("quota_limit", .num (.posInt limit))])])
  | .invalidBody => errorReply host 400 "invalid JSON body"
  | .blocked category => jsonReply host 403 (.obj [("error", .obj [
      ("message", .str ("blocked by load whitelist: " ++ category.asStr)),
      ("type", .str "load_policy"),
      ("code", .str "blocked_by_load_whitelist"),
      ("category", .str category.asStr)])])

/-! ## The service -/

structure ApiState (τ : Type) where
  sharing : Bool
  auth : AuthService
  members : MemberRegistry
  usage : UsageService τ
  quota : QuotaService
  policy : LoadPolicy
  rules : RuleResolver
  backends : RegistryInner
  health : HealthTable

/-- A valid token counts as a sign of life of its machine. -/
def ApiState.seen (now : UInt64) (session : Session) (state : ApiState τ) : ApiState τ :=
  { state with
    members := state.members.upsert session.machineName session.displayName "" now }

/-- The gates of `chat_completions`, for a body that was parsed before. -/
def chatGate (host : Host) (now : UInt64) (state : ApiState τ) (headers : HeaderMap)
    (body : Json) : Except Refusal Session × ApiState τ :=
  if ¬ state.sharing then (.error .sharingPaused, state)
  else match bearerToken headers with
    | none => (.error .unauthorized, state)
    | some token =>
        match state.auth.verify now token with
        | none => (.error .unauthorized, state)
        | some session =>
            let state := state.seen now session
            match state.quota.check session.memberId (state.usage.used session.memberId) with
            | .error exceeded => (.error (.quotaExceeded exceeded.limit), state)
            | .ok () =>
                let checked := state.policy.check host (extractRequestText body)
                let state := { state with policy := checked.2 }
                match checked.1 with
                | some category => (.error (.blocked category), state)
                | none => (.ok session, state)

/-- The gates of `messages`, which parses its body behind the quota gate. -/
def messagesGate (host : Host) (now : UInt64) (state : ApiState τ) (headers : HeaderMap)
    (raw : List UInt8) : Except Refusal (Session × Json) × ApiState τ :=
  if ¬ state.sharing then (.error .sharingPaused, state)
  else match bearerToken headers with
    | none => (.error .unauthorized, state)
    | some token =>
        match state.auth.verify now token with
        | none => (.error .unauthorized, state)
        | some session =>
            let state := state.seen now session
            match state.quota.check session.memberId (state.usage.used session.memberId) with
            | .error exceeded => (.error (.quotaExceeded exceeded.limit), state)
            | .ok () =>
                match host.serde.fromSlice raw with
                | none => (.error .invalidBody, state)
                | some body =>
                    let checked := state.policy.check host (extractRequestText body)
                    let state := { state with policy := checked.2 }
                    match checked.1 with
                    | some category => (.error (.blocked category), state)
                    | none => (.ok (session, body), state)

/-! ## Calling backends -/

/-- One call of `Backend::chat`. -/
structure Attempt where
  index : Nat
  candidate : String
  backend : String
  request : Json
  result : ChatResult

/-- What a handler leaves behind. -/
structure Served (τ : Type) where
  state : ApiState τ
  attempts : List Attempt
  reply : Option Reply

def refuse (host : Host) (state : ApiState τ) (refusal : Refusal) : Served τ :=
  ⟨state, [], some (refusal.reply host)⟩

/-- The usage after a success: one call, and its tokens under the rule set if one matched. -/
def meter (session : Session) (providerLabel candidate ruleSet : String) (resp : Json)
    (usage : UsageService τ) : UsageService τ :=
  let (promptTokens, completionTokens) := extractOpenaiUsage resp
  let recorded :=
    usage.record session.memberId providerLabel candidate promptTokens completionTokens
  if ruleSet = "" then recorded
  else recorded.recordRule session.memberId ruleSet
    (Counter.ofTokens promptTokens + Counter.ofTokens completionTokens)

/-- A success; a name that is no header value panics the response builder. -/
def okReply (host : Host) (ruleSet candidate : String) (more : List (String × String))
    (body : String) : Option Reply :=
  if host.headerValueOk ruleSet && host.headerValueOk candidate then
    some ⟨200, [("X-APL-Rule", ruleSet), ("X-APL-Upstream", candidate)] ++ more, body⟩
  else none

def streamHeaders : List (String × String) :=
  [("Content-Type", "text/event-stream"), ("Cache-Control", "no-cache")]

def jsonHeaders : List (String × String) := [("Content-Type", "application/json")]

def unavailableMessage (model : String) : String :=
  "model not available: " ++ model ++ " (see /v1/models)"

/-! ## `chat_completions` -/

/-- The model that a request names; none counts as the empty name. -/
def requestedModel (body : Json) : String := body.textOr "model" ""

def chatResolution (state : ApiState τ) (body : Json) : Option Resolution :=
  state.rules.resolve (requestedModel body) (estimateTokens (extractRequestText body))

def ruleSetName (resolution : Option Resolution) : String :=
  (resolution.map Resolution.ruleSet).getD ""

/-- The models to try.  A stream cannot change its model, so it has one candidate. -/
def chatCandidates (state : ApiState τ) (body : Json) : List String :=
  let resolved := match chatResolution state body with
    | some resolution => resolution.candidates
    | none => [requestedModel body]
  let candidates := if resolved = [] then [requestedModel body] else resolved
  if (prepareOpenaiUpstream body).1 then candidates.take 1 else candidates

/-- How the candidate loop ends early. -/
inductive LoopEnd where
  /-- Without a rule set, a model that no backend serves is the client's error. -/
  | unavailable
  | served (candidate providerLabel : String) (resp : Json)
  | panicked

/-- The body of the candidate loop. -/
def tryCandidate (net : Nat → HttpOutcome) (state : ApiState τ) (fwd : Json) (ruleSet : String)
    (index : Nat) (candidate : String) : Systems.FirstStop.Outcome String LoopEnd :=
  match state.backends.route state.health candidate with
  | none =>
      if ruleSet = "" then .stop .unavailable
      else .advance ("model not available: " ++ candidate)
  | some (_, backend) =>
      match backend.chat fwd (net index) with
      | .ok resp => .stop (.served candidate backend.providerLabel resp)
      | .err error => .advance ("backend error: " ++ error.display)
      | .panicked => .stop .panicked

/-- The call that the loop makes for a candidate, if the candidate is routed. -/
def attempt? (net : Nat → HttpOutcome) (state : ApiState τ) (fwd : Json)
    (visited : String × Nat) : Option Attempt :=
  (state.backends.route state.health visited.1).map fun (name, backend) =>
    ⟨visited.2, visited.1, name, fwd, backend.chat fwd (net visited.2)⟩

/-- The run of the candidate loop for a request. -/
def chatTrace (net : Nat → HttpOutcome) (state : ApiState τ) (body : Json) :
    Systems.FirstStop.Trace String String LoopEnd :=
  Systems.FirstStop.run
    (tryCandidate net state (prepareOpenaiUpstream body).2
      (ruleSetName (chatResolution state body)))
    0 "no candidates" (chatCandidates state body)

/-- The answer when every candidate failed. -/
def exhaustedReply (host : Host) (ruleSet lastErr : String) : Reply :=
  jsonReply host (if ruleSet = "" then 500 else 502) (.obj [("error", .obj [
    ("message", .str lastErr), ("type", .str "rule_engine"), ("rule_set", .str ruleSet)])])

/-- The state and the reply after the candidate loop. -/
def chatFinish (host : Host) (state : ApiState τ) (session : Session) (body : Json) :
    Except String LoopEnd → ApiState τ × Option Reply
  | .error lastErr =>
      (state, some (exhaustedReply host (ruleSetName (chatResolution state body)) lastErr))
  | .ok .panicked => (state, none)
  | .ok .unavailable =>
      (state, some (errorReply host 400 (unavailableMessage (requestedModel body))))
  | .ok (.served candidate providerLabel resp) =>
      let ruleSet := ruleSetName (chatResolution state body)
      let reply :=
        if (prepareOpenaiUpstream body).1 then
          okReply host ruleSet candidate streamHeaders (openaiSseStream host.serde resp)
        else okReply host ruleSet candidate jsonHeaders (host.serde.toString resp)
      ({ state with usage := meter session providerLabel candidate ruleSet resp state.usage },
        reply)

/-- From an admitted request to its answer. -/
def chatServe (host : Host) (net : Nat → HttpOutcome) (state : ApiState τ) (session : Session)
    (body : Json) : Served τ :=
  let trace := chatTrace net state body
  let finish := chatFinish host state session body trace.result
  { state := finish.1
    attempts := trace.visited.filterMap (attempt? net state (prepareOpenaiUpstream body).2)
    reply := finish.2 }

def chatCompletions (host : Host) (net : Nat → HttpOutcome) (now : UInt64) (state : ApiState τ)
    (headers : HeaderMap) (body : Json) : Served τ :=
  match chatGate host now state headers body with
  | (.error refusal, state) => refuse host state refusal
  | (.ok session, state) => chatServe host net state session body

/-! ## `messages` -/

def messagesResolution (state : ApiState τ) (openaiReq body : Json) : Option Resolution :=
  state.rules.resolve (requestedModel openaiReq) (estimateTokens (extractRequestText body))

/-- The model to try: the first candidate, or the requested model itself. -/
def messagesCandidate (resolution : Option Resolution) (model : String) : String :=
  match resolution with
  | some resolution => resolution.first.getD model
  | none => model

def messagesServe (host : Host) (outcome : HttpOutcome) (state : ApiState τ) (session : Session)
    (body : Json) : Served τ :=
  let openaiReq := anthropicToOpenai host.serde body
  let resolution := messagesResolution state openaiReq body
  let ruleSet := ruleSetName resolution
  let candidate := messagesCandidate resolution (requestedModel openaiReq)
  match state.backends.route state.health candidate with
  | none => ⟨state, [], some (errorReply host 400 (unavailableMessage candidate))⟩
  | some (name, backend) =>
      let result := backend.chat openaiReq outcome
      let attempts := [⟨0, candidate, name, openaiReq, result⟩]
      match result with
      | .ok resp =>
          let reply :=
            if wantsStream body then
              okReply host ruleSet candidate streamHeaders (anthropicSseStream host.serde resp)
            else
              okReply host ruleSet candidate jsonHeaders
                (host.serde.toString (openaiToAnthropic host.serde resp))
          ⟨{ state with
              usage := meter session backend.providerLabel candidate ruleSet resp state.usage },
            attempts, reply⟩
      | .err error =>
          ⟨state, attempts, some (errorReply host 500 ("backend error: " ++ error.display))⟩
      | .panicked => ⟨state, attempts, none⟩

def messages (host : Host) (outcome : HttpOutcome) (now : UInt64) (state : ApiState τ)
    (headers : HeaderMap) (raw : List UInt8) : Served τ :=
  match messagesGate host now state headers raw with
  | (.error refusal, state) => refuse host state refusal
  | (.ok (session, body), state) => messagesServe host outcome state session body

end AiPowerGateway.Share

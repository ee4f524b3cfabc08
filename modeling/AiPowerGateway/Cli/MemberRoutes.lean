import AiPowerGateway.LanClient.LinkTransparency
import AiPowerGateway.Share.Router

/-!
# The routes of the member gateway

What the command line program serves to local clients in the role of a member: the
requests are checked against the mirrored strategy and forwarded to the leader.  Of a
leader's response the client gets the status and the bytes.
-/

namespace AiPowerGateway.Cli

open Link Share Share.Link LanClient

/-! ## The mirrored strategy -/

structure QuotaSnapshot where
  limit : UInt64
  used : UInt64
  deriving DecidableEq, Repr

structure StrategySummary where
  version : UInt64
  rules : List String
  quota : QuotaSnapshot
  banned : Bool
  /-- When the gateway fetched it; the leader sends no time. -/
  fetchedAt : UInt64 := 0
  deriving DecidableEq, Repr

inductive PreflightBlock where
  | banned
  | quotaExceeded (limit : UInt64)
  deriving DecidableEq, Repr

def preflightBlock (summary : StrategySummary) : Option PreflightBlock :=
  if summary.banned then some .banned
  else if 0 < summary.quota.limit ∧ summary.quota.limit ≤ summary.quota.used then
    some (.quotaExceeded summary.quota.limit)
  else none

/-- The gateway, and the strategy as it was last fetched. -/
structure ClientState where
  gateway : MemberGateway
  strategy : Option StrategySummary

def ClientState.ruleNames (state : ClientState) : List String :=
  (state.strategy.map StrategySummary.rules).getD []

def ClientState.preflight (state : ClientState) : Option PreflightBlock :=
  state.strategy.bind preflightBlock

/-- The answers of the preflight, in the leader's shape. -/
def PreflightBlock.reply (host : Host) : PreflightBlock → Reply
  | .banned => jsonReply host 403 (.obj [("error", .obj [
      ("message", .str "blocked: member banned"), ("type", .str "member_banned"),
      ("code", .str "banned")])])
  | .quotaExceeded limit => jsonReply host 429 (.obj [("error", .obj [
      ("message", .str ("quota exceeded: limit " ++ toString limit ++ " tokens")),
      ("type", .str "insufficient_quota"), ("code", .str "quota_exceeded"),
      ("quota_limit", .num (.posInt limit))])])

/-! ## The routes -/

/-- A valid status code, else 502. -/
def statusFromU16 (status : Nat) : Nat := if 100 ≤ status ∧ status < 1000 then status else 502

section Routes

variable (host : Host) (prims : Primitives) (nonce : Nonce) (network : Network)

/-- `proxy_resp`; the framework types a response of bytes as an octet stream. -/
def proxyResp (path : String) (auth : Option String) (body : Option Bytes)
    (gateway : MemberGateway) : HttpResponse :=
  match gateway.proxy prims nonce network path auth body with
  | .ok (status, bytes) =>
      ⟨statusFromU16 status, [("content-type", Text.utf8 octetStream)], bytes⟩
  | .error message => (errorReply host 503 message).toHttp

/-- `h_models`: the mirrored rule names, else the leader's models. -/
def hModels (state : ClientState) : HttpResponse :=
  if state.ruleNames ≠ [] then
    (jsonReply host 200 (.obj [("object", .str "list"),
      ("data", .arr (state.ruleNames.map fun name => openaiModel name "aipowerlink-rule"))])).toHttp
  else proxyResp host prims nonce network "/v1/models" none none state.gateway

/-- What `h_chat` and `h_messages` do on their paths. -/
def hForward (path : String) (headers : HeaderMap) (body : Bytes) (state : ClientState) :
    HttpResponse :=
  match state.preflight with
  | some block => (block.reply host).toHttp
  | none =>
      proxyResp host prims nonce network path (headers.text? "authorization") (some body)
        state.gateway

def hChat (headers : HeaderMap) (body : Bytes) (state : ClientState) : HttpResponse :=
  hForward host prims nonce network "/v1/chat/completions" headers body state

def hMessages (headers : HeaderMap) (body : Bytes) (state : ClientState) : HttpResponse :=
  hForward host prims nonce network "/v1/messages" headers body state

/-- The response of a route to its client. -/
def clientAnswer (headers : HeaderMap) (body : Bytes) (state : ClientState) :
    ModelRoute → HttpResponse
  | .models => hModels host prims nonce network state
  | .chat => hChat host prims nonce network headers body state
  | .messages => hMessages host prims nonce network headers body state

end Routes

/-- The authorization that a route forwards. -/
def forwardedAuth (headers : HeaderMap) : ModelRoute → Option String
  | .models => none
  | .chat | .messages => headers.text? "authorization"

/-- The body that a route forwards. -/
def forwardedBody (body : Bytes) : ModelRoute → Option Bytes
  | .models => none
  | .chat | .messages => some body

/-- The route asks the leader. -/
def Forwards (state : ClientState) : ModelRoute → Prop
  | .models => state.ruleNames = []
  | .chat | .messages => state.preflight = none

theorem clientAnswer_of_forwards {host : Host} {prims : Primitives} {nonce : Nonce}
    {network : Network} {headers : HeaderMap} {body : Bytes} {state : ClientState}
    {route : ModelRoute} (forwards : Forwards state route) :
    clientAnswer host prims nonce network headers body state route =
      proxyResp host prims nonce network route.path (forwardedAuth headers route)
        (forwardedBody body route) state.gateway := by
  cases route with
  | models => exact if_neg (not_not.mpr forwards)
  | chat => simp only [clientAnswer, hChat, hForward, show state.preflight = none from forwards,
      ModelRoute.path, forwardedAuth, forwardedBody]
  | messages => simp only [clientAnswer, hMessages, hForward,
      show state.preflight = none from forwards, ModelRoute.path, forwardedAuth, forwardedBody]

/-! ## What the leader sends back -/

section Leader

variable {prims : Primitives} {policy : LinkEncryptMode} {nonce : Nonce}
  {next : HttpRequest → Option HttpResponse} {req : HttpRequest} {response : HttpResponse}

/-- The request is one that enforcement turns away. -/
def UpgradeDemanded (policy : LinkEncryptMode) (req : HttpRequest) : Prop :=
  wantsEnc req = false ∧ policy = .enforce ∧ Text.startsWith req.path "/v1/" ∧
    req.path ∉ exemptPaths

/-- Where a response comes from. -/
inductive Origin (prims : Primitives) (policy : LinkEncryptMode) (nonce : Nonce)
    (next : HttpRequest → Option HttpResponse) (req : HttpRequest) : HttpResponse → Prop
  | upgrade (demanded : UpgradeDemanded policy req) : Origin prims policy nonce next req
      upgradeRequired
  | refused (declared : wantsEnc req = true) (message : String) :
      Origin prims policy nonce next req (badRequest message)
  | passed (free : ¬ UpgradeDemanded policy req) {response : HttpResponse}
      (answered : next req = some response) : Origin prims policy nonce next req response
  | opened (declared : wantsEnc req = true) (token : String) (inner : HttpRequest)
      (answer : HttpResponse) (held : Share.Link.bearerToken req.headers = some token)
      (opened : openRequest prims (LinkCrypto.deriveKey prims token) req = .ok inner)
      (answered : next inner = some answer) :
      Origin prims policy nonce next req
        (sealResponse prims nonce (LinkCrypto.deriveKey prims token) answer)

theorem refusal_of_openRequest {key : Bytes} {refusal : HttpResponse}
    (refused : openRequest prims key req = .error refusal) :
    ∃ message, refusal = badRequest message := by
  rcases openRequest_cases prims key req with
    ⟨-, unopened⟩ | ⟨message, failed⟩ | ⟨plain, -, decrypted⟩
  · rw [unopened] at refused
    cases refused
  · rw [failed] at refused
    cases refused
    exact ⟨message, rfl⟩
  · rw [decrypted] at refused
    cases refused

theorem takes_of_openRequest {key : Bytes} {inner : HttpRequest} {route : ModelRoute}
    (opened : openRequest prims key req = .ok inner) (takes : route.Takes req) :
    route.Takes inner := by
  rcases openRequest_cases prims key req with
    ⟨-, unopened⟩ | ⟨message, failed⟩ | ⟨plain, -, decrypted⟩
  · rw [unopened] at opened
    cases opened
    exact takes
  · rw [failed] at opened
    cases opened
  · rw [decrypted] at opened
    cases opened
    exact takes

theorem origin_of_response
    (answered : (linkEncMiddleware prims policy nonce next req).response = some response) :
    Origin prims policy nonce next req response := by
  cases declared : wantsEnc req with
  | false =>
      by_cases demanded : UpgradeDemanded policy req
      · obtain ⟨plain, rfl, modelPath, guarded⟩ := demanded
        rw [linkEncMiddleware_enforced plain modelPath guarded] at answered
        cases answered
        exact .upgrade ⟨plain, rfl, modelPath, guarded⟩
      · have runs : linkEncMiddleware prims policy nonce next req = run next req := by
          unfold linkEncMiddleware
          rw [if_pos (by simp [declared]), if_neg fun enforced => demanded ⟨declared, enforced⟩]
        rw [runs] at answered
        exact .passed demanded answered
  | true =>
      have free : ¬ UpgradeDemanded policy req := fun demanded => by
        rw [demanded.1] at declared
        cases declared
      unfold linkEncMiddleware at answered
      rw [if_neg (by simp [declared])] at answered
      split at answered
      · exact .passed free answered
      · split at answered
        · exact .passed free answered
        · cases held : Share.Link.bearerToken req.headers with
          | none =>
              rw [held] at answered
              cases answered
              exact .refused declared _
          | some token =>
              rw [held] at answered
              dsimp only at answered
              split at answered
              · cases answered
                exact .refused declared _
              · cases opened : openRequest prims (LinkCrypto.deriveKey prims token) req with
                | error refusal =>
                    rw [opened] at answered
                    cases answered
                    obtain ⟨message, rfl⟩ := refusal_of_openRequest opened
                    exact .refused declared message
                | ok inner =>
                    rw [opened] at answered
                    obtain ⟨answer, handled, rfl⟩ := Option.map_eq_some_iff.mp answered
                    exact .opened declared token inner answer held opened handled

end Leader

section Routed

variable {τ : Type} [Counter τ] {leader : Leader τ} {prims : Primitives}
  {policy : LinkEncryptMode} {nonce : Nonce} {route : ModelRoute} {req : HttpRequest}
  {response : HttpResponse}

theorem text?_jsonContentType (rest : HeaderMap) :
    HeaderMap.text? (jsonContentType :: rest) "content-type" = some "application/json" := by
  have read : HeaderMap.toStr? (Text.utf8 "application/json") = some "application/json" := by
    decide
  simp [HeaderMap.text?, jsonContentType, read]

/-- Whatever a leader sends on a model route has a type of its own. -/
theorem Origin.typed (takes : route.Takes req)
    (origin : Origin prims policy nonce leader.next req response) :
    ∃ contentType ∈ contentTypes, response.headers.text? "content-type" = some contentType := by
  cases origin with
  | upgrade => exact ⟨"application/json", by decide, by decide⟩
  | refused => exact ⟨"application/json", by decide, text?_jsonContentType []⟩
  | passed _ answered => exact (Leader.ordinary_next takes answered).typed
  | opened _ _ _ answer =>
      refine ⟨"application/json", by decide, ?_⟩
      unfold sealResponse
      split
      · exact text?_jsonContentType []
      · have other : encHeader ≠ "content-type" := by decide
        have behind := text?_jsonContentType (answer.headers.remove "content-length").firstValues
        simpa [HeaderMap.text?, other] using behind

/-- An upgrade is asked for where enforcement demands it, and nowhere else. -/
theorem Origin.status_eq (takes : route.Takes req)
    (origin : Origin prims policy nonce leader.next req response) :
    response.status = 426 ↔ UpgradeDemanded policy req := by
  cases origin with
  | upgrade demanded => exact iff_of_true rfl demanded
  | refused declared =>
      exact iff_of_false (by simp [badRequest]) fun demanded => by simp [demanded.1] at declared
  | passed free answered =>
      exact iff_of_false (Leader.ordinary_next takes answered).status free
  | opened declared _ _ _ _ opened answered =>
      refine iff_of_false ?_ fun demanded => by simp [demanded.1] at declared
      have ordinary := Leader.ordinary_next (takes_of_openRequest opened takes) answered
      unfold sealResponse
      split
      · simp [badRequest]
      · exact ordinary.status

end Routed

/-! ## What the client gets -/

section Forwarded

variable {τ : Type} [Counter τ] {leader : Leader τ} {prims : Primitives}
  {policy : LinkEncryptMode} {nonce memberNonce : Nonce} {gateway : MemberGateway}
  {route : ModelRoute} {headers : HeaderMap} {body : Option Bytes}

/-- A forwarded authorization was read off a header. -/
theorem read_of_forwardedAuth {auth : String} (sent : forwardedAuth headers route = some auth) :
    ∃ value, HeaderMap.toStr? value = some auth := by
  cases route with
  | models => cases sent
  | chat =>
      obtain ⟨value, -, read⟩ := Option.bind_eq_some_iff.mp sent
      exact ⟨value, read⟩
  | messages =>
      obtain ⟨value, -, read⟩ := Option.bind_eq_some_iff.mp sent
      exact ⟨value, read⟩

theorem encrypting_none (path : String) : gateway.encrypting path none = false := by
  have unnamed : MemberGateway.token none = "" := by decide
  simp [MemberGateway.encrypting, unnamed]

/-- The gateway declares encryption exactly when it encrypts. -/
theorem wantsEnc_forwarded (path : String) (auth : Option String) :
    wantsEnc (gateway.request prims memberNonce path auth body) =
      gateway.encrypting path auth := by
  cases encrypts : gateway.encrypting path auth with
  | true =>
      cases auth with
      | none =>
          rw [encrypting_none] at encrypts
          cases encrypts
      | some auth => exact MemberGateway.wantsEnc_request encrypts
  | false =>
      have plain : (gateway.request prims memberNonce path auth body).headers.get? encHeader =
          none := by
        cases auth <;> simp [MemberGateway.request, encrypts, encHeader, HeaderMap.get?]
      simp [wantsEnc, HeaderMap.text?, plain]

theorem takes_forwarded (auth : Option String) (bytes : Bytes) :
    route.Takes
      (gateway.request prims memberNonce route.path auth (forwardedBody bytes route)) := by
  cases route <;> exact ⟨rfl, rfl⟩

/-- Enforcement turns a forwarded request away exactly when the gateway does not encrypt it. -/
theorem upgradeDemanded_forwarded (auth : Option String) :
    UpgradeDemanded policy (gateway.request prims memberNonce route.path auth body) ↔
      policy = .enforce ∧ gateway.encrypting route.path auth = false := by
  have modelPath : Text.startsWith route.path "/v1/" ∧ route.path ∉ exemptPaths := by
    cases route <;> decide
  unfold UpgradeDemanded
  rw [wantsEnc_forwarded]
  exact ⟨fun demanded => ⟨demanded.2.1, demanded.1⟩,
    fun ⟨enforced, plain⟩ => ⟨plain, enforced, modelPath⟩⟩

/-- Whatever the leader sends back is received, with its status. -/
theorem received_forwarded {response : HttpResponse} {auth : Option String} {bytes : Bytes}
    (read : ∀ text, auth = some text → ∃ value, HeaderMap.toStr? value = some text)
    (origin : Origin prims policy nonce leader.next
      (gateway.request prims memberNonce route.path auth (forwardedBody bytes route)) response) :
    ∃ received, MemberGateway.receive prims (gateway.encKey prims route.path auth) response =
      .ok (response.status, received) := by
  have unsealed : response.headers.text? encHeader = none →
      MemberGateway.receive prims (gateway.encKey prims route.path auth) response =
        .ok (response.status, response.body) := by
    intro plain
    simp [MemberGateway.receive, plain]
  have refusal : ∀ message, (badRequest message).headers.text? encHeader = none :=
    fun _ => (by decide : HeaderMap.text? [jsonContentType] encHeader = none)
  cases origin with
  | upgrade => exact ⟨_, unsealed (by decide)⟩
  | refused _ message => exact ⟨_, unsealed (refusal message)⟩
  | passed _ answered =>
      exact ⟨_, unsealed (Leader.ordinary_next (takes_forwarded auth bytes) answered).unsealed⟩
  | opened declared token inner answer held _ answered =>
      rw [wantsEnc_forwarded] at declared
      cases auth with
      | none =>
          rw [encrypting_none] at declared
          cases declared
      | some auth =>
          obtain ⟨value, readHeader⟩ := read auth rfl
          rw [MemberGateway.bearerToken_request declared readHeader] at held
          rw [← Option.some.inj held, MemberGateway.encKey_eq declared]
          by_cases small : answer.body.length ≤ bodyLimit
          · refine ⟨answer.body, ?_⟩
            rw [MemberGateway.receive_sealResponse nonce _ small, sealResponse,
              if_neg (Nat.not_lt.mpr small)]
          · rw [MemberGateway.encKey_eq declared] at unsealed
            rw [sealResponse, if_pos (Nat.lt_of_not_le small)] at unsealed ⊢
            exact ⟨_, unsealed (refusal _)⟩

end Forwarded

/-! ## Transparency -/

/-- What a client gets from the leader itself, by a plain or by an encrypted request. -/
inductive DirectAnswer (prims : Primitives) (policy : LinkEncryptMode) (nonce : Nonce)
    (next : HttpRequest → Option HttpResponse) (req : HttpRequest) : HttpResponse → Prop
  | plain {answer : HttpResponse}
      (answered : (linkEncMiddleware prims policy nonce next req).response = some answer) :
      DirectAnswer prims policy nonce next req answer
  | encrypted {token : String} {clientNonce : Nonce} {answer : HttpResponse} {body : Bytes}
      (held : Share.bearerToken req.headers = some token)
      (answered : (linkEncMiddleware prims policy nonce next
        { req with
          headers := (encHeader, Text.utf8 encVersion) :: req.headers
          body := LinkCrypto.new.encrypt prims clientNonce (LinkCrypto.deriveKey prims token)
            req.body }).response = some answer)
      (opened : LinkCrypto.decrypt prims (LinkCrypto.deriveKey prims token) answer.body =
        .ok body) :
      DirectAnswer prims policy nonce next req { answer with body := body }

structure SameAnswer (client direct : HttpResponse) : Prop where
  status : client.status = direct.status
  body : client.body = direct.body
  contentType : client.headers.text? "content-type" = direct.headers.text? "content-type"

/-- A direct answer has a type of its own. -/
theorem DirectAnswer.typed {τ : Type} [Counter τ] {leader : Leader τ} {prims : Primitives}
    {policy : LinkEncryptMode} {nonce : Nonce} {route : ModelRoute} {req : HttpRequest}
    {direct : HttpResponse} (takes : route.Takes req)
    (directly : DirectAnswer prims policy nonce leader.next req direct) :
    ∃ contentType ∈ contentTypes, direct.headers.text? "content-type" = some contentType := by
  cases directly with
  | plain answered => exact (origin_of_response answered).typed takes
  | encrypted _ answered _ =>
      have typed := Origin.typed (by exact ⟨takes.1, takes.2⟩) (origin_of_response answered)
      exact typed

theorem statusFromU16_eq {status : Nat} : statusFromU16 status = 426 ↔ status = 426 := by
  unfold statusFromU16
  split <;> omega

/-- A body without a type of its own is no direct answer. -/
theorem not_sameAnswer {status : Nat} {received : Bytes} {direct : HttpResponse}
    (typed : ∃ contentType ∈ contentTypes,
      direct.headers.text? "content-type" = some contentType) :
    ¬ SameAnswer ⟨status, [("content-type", Text.utf8 octetStream)], received⟩ direct := by
  intro same
  obtain ⟨contentType, known, isTyped⟩ := typed
  have octets : HeaderMap.text? [("content-type", Text.utf8 octetStream)] "content-type" =
      some octetStream := by decide
  have lost := same.contentType
  rw [octets, isTyped] at lost
  cases lost
  exact absurd known (by decide)

section Answered

variable {τ : Type} [Counter τ] {prims : Primitives} {policy : LinkEncryptMode} {nonce : Nonce}
  {leader : Leader τ} {network : Network} {state : ClientState} {route : ModelRoute}
  {info : LeaderInfo} {response : HttpResponse}

/-- The client gets the status and some bytes of what the leader answers. -/
theorem clientAnswer_of_answered (host : Host) (memberNonce : Nonce) (headers : HeaderMap)
    (body : Bytes) (forwards : Forwards state route)
    (picked : state.gateway.pickLeader = some info)
    (serves : Serves network info (linkEncMiddleware prims policy nonce leader.next))
    (answered : (linkEncMiddleware prims policy nonce leader.next
      (state.gateway.request prims memberNonce route.path (forwardedAuth headers route)
        (forwardedBody body route))).response = some response) :
    ∃ received, clientAnswer host prims memberNonce network headers body state route =
      ⟨statusFromU16 response.status, [("content-type", Text.utf8 octetStream)], received⟩ := by
  obtain ⟨received, opened⟩ :=
    received_forwarded (fun _ => read_of_forwardedAuth) (origin_of_response answered)
  refine ⟨received, ?_⟩
  rw [clientAnswer_of_forwards forwards]
  simp only [proxyResp, MemberGateway.proxy, picked, serves _ _ answered, opened]

end Answered

/--
For every request that a route forwards and the leader answers: the client gets the
answer that the leader itself would give it, and no 426 through a gateway that encrypts
its link, exactly on the model list, and there unless such a gateway meets enforcement.
On the other routes the type of the body is lost.  A 426 comes exactly for what the
gateway does not encrypt under enforcement.
-/
theorem member_gateway_transparent_iff {τ : Type} [Counter τ] (host : Host)
    (prims : Primitives) (policy : LinkEncryptMode) (nonce memberNonce : Nonce)
    (leader : Leader τ) (network : Network) (state : ClientState) (route : ModelRoute)
    (headers : HeaderMap) (body : Bytes) (forwards : Forwards state route) {info : LeaderInfo}
    (picked : state.gateway.pickLeader = some info)
    (serves : Serves network info (linkEncMiddleware prims policy nonce leader.next))
    {response direct : HttpResponse}
    (answered : (linkEncMiddleware prims policy nonce leader.next
      (state.gateway.request prims memberNonce route.path (forwardedAuth headers route)
        (forwardedBody body route))).response = some response)
    (directly : DirectAnswer prims policy nonce leader.next
      ⟨route.method, route.path, headers, body⟩ direct) :
    ((route ≠ .models →
          SameAnswer (clientAnswer host prims memberNonce network headers body state route)
            direct) ∧
        (state.gateway.linkEncrypts = true →
          (clientAnswer host prims memberNonce network headers body state route).status ≠ 426) ↔
      route = .models ∧ (policy ≠ .enforce ∨ state.gateway.linkEncrypts = false)) ∧
    ((clientAnswer host prims memberNonce network headers body state route).status ≠ 426 ↔
      policy ≠ .enforce ∨
        state.gateway.encrypting route.path (forwardedAuth headers route) = true) := by
  obtain ⟨received, client⟩ :=
    clientAnswer_of_answered host memberNonce headers body forwards picked serves answered
  have upgrade : (clientAnswer host prims memberNonce network headers body state route).status ≠
        426 ↔
      policy ≠ .enforce ∨
        state.gateway.encrypting route.path (forwardedAuth headers route) = true := by
    rw [client, Ne, statusFromU16_eq,
      (origin_of_response answered).status_eq (takes_forwarded _ body),
      upgradeDemanded_forwarded, not_and_or, Bool.not_eq_false]
  refine ⟨?_, upgrade⟩
  rw [upgrade]
  constructor
  · rintro ⟨same, free⟩
    have isModels : route = .models := by
      by_contra other
      have alike := same other
      rw [client] at alike
      exact not_sameAnswer (directly.typed ⟨rfl, rfl⟩) alike
    subst isModels
    refine ⟨rfl, ?_⟩
    cases enabled : state.gateway.linkEncrypts with
    | false => exact Or.inr rfl
    | true =>
        -- The model list is asked for without a token, so in plain text.
        have free := free enabled
        rw [forwardedAuth, encrypting_none] at free
        exact Or.inl (free.resolve_right Bool.false_ne_true)
  · rintro ⟨rfl, free⟩
    exact ⟨fun other => absurd rfl other,
      fun enabled => Or.inl (free.resolve_right (by simp [enabled]))⟩

/-! ## One member and its leader -/

def plainText (status : Nat) (body : String) : HttpResponse :=
  ⟨status, [("content-type", Text.utf8 "text/plain; charset=utf-8")], Text.utf8 body⟩

/-- The extractors on JSON bodies and on others. -/
def sampleExtractors : Extractors where
  json req :=
    if req.headers.text? "content-type" ≠ some "application/json" then
      .error (plainText 415 "Expected request with `Content-Type: application/json`")
    else match SerdeJson.compact.fromSlice req.body with
      | none => .error (plainText 400 "Failed to parse the request body as JSON")
      | some value => .ok value
  bytes req := .ok req.body
  json_refused req response refused := by
    split at refused
    · cases refused
      exact ⟨(by decide : 415 ∈ [400, 413, 415, 422]), rfl⟩
    · split at refused
      · cases refused
        exact ⟨(by decide : 400 ∈ [400, 413, 415, 422]), rfl⟩
      · cases refused
  bytes_refused req response refused := by cases refused

def mockLeader : Leader UInt64 where
  host := Host.compact
  extract := sampleExtractors
  net _ := .answered 200 "200 OK" "\x7b\x7d"
  now := 1000
  state := smallService [mockBackend] []
  rest _ := none

def mockPassage : HttpRequest → Passage :=
  linkEncMiddleware samplePrimitives .aesGcm responseNonce mockLeader.next

def mockNetwork : Network := fun _ req =>
  match (mockPassage req).response with
  | some response => .answered response
  | none => .unreachable "connection closed before message completed"

theorem mockNetwork_serves (info : LeaderInfo) : Serves mockNetwork info mockPassage := by
  intro req response answered
  simp only [mockNetwork, answered]

/-- A member on a deep link, without a mirrored strategy. -/
def freshMember : ClientState := ⟨sampleGateway, none⟩

theorem models_transparent :
    (clientAnswer Host.compact samplePrimitives requestNonce mockNetwork [] [] freshMember
      .models).status ≠ 426 :=
  ((member_gateway_transparent_iff Host.compact samplePrimitives .aesGcm responseNonce
    requestNonce mockLeader mockNetwork freshMember .models [] [] rfl rfl
    (mockNetwork_serves sampleLeader) rfl (.plain rfl)).1.mpr ⟨rfl, Or.inl (by decide)⟩).2 rfl

def wrongToken : HeaderMap := [("authorization", Text.utf8 "Bearer wrong-token")]

/-- The leader refuses the token, in JSON; the client is told of an octet stream. -/
theorem messages_type_lost :
    ¬ ∀ direct, DirectAnswer samplePrimitives .aesGcm responseNonce mockLeader.next
        ⟨.post, "/v1/messages", wrongToken, []⟩ direct →
      SameAnswer
        (clientAnswer Host.compact samplePrimitives requestNonce mockNetwork wrongToken []
          freshMember .messages) direct := by
  intro sameAnswer
  have directly : DirectAnswer samplePrimitives .aesGcm responseNonce mockLeader.next
      ⟨.post, "/v1/messages", wrongToken, []⟩
      (errorReply Host.compact 401 "unauthorized").toHttp := .plain (by rfl)
  have forwards : Forwards freshMember .messages := rfl
  have takes : ModelRoute.messages.Takes ⟨.post, "/v1/messages", wrongToken, []⟩ := ⟨rfl, rfl⟩
  obtain ⟨received, client⟩ := clientAnswer_of_answered Host.compact requestNonce wrongToken []
    forwards rfl (mockNetwork_serves sampleLeader) (by rfl)
  have same := sameAnswer _ directly
  rw [client] at same
  exact not_sameAnswer (directly.typed takes) same

end AiPowerGateway.Cli

import AiPowerGateway.Cli.Preflight
import AiPowerGateway.Share.BannedOffline
import AiPowerGateway.Share.Router

/-!
# The two routers

The leader listens twice: on the machine itself with every route, and for the gateways of
the members with five of them.  Whatever members send over their channel, in any order and
number, changes none of the settings that the panel manages.
-/

namespace AiPowerGateway.Share

/-! ## Routes -/

inductive Handler where
  | chatCompletions
  | modelsOpenai
  | messages
  | authToken
  | authRename
  | apiControl
  | apiMembers
  | apiStrategyMe
  | apiUsageExport
  | apiQuotaList
  | apiQuotaSet
  | apiBackendsList
  | apiBackendsSet
  | apiRulesList
  | apiRulesSet
  | apiBackendsTest
  | apiBackendsDelete
  | apiBackendsPolling
  | apiInfo
  | apiModels
  deriving DecidableEq, Repr

/-- A part of a route: a text, or `{id}`, which stands for any text that is not empty. -/
inductive Segment where
  | text (name : String)
  | id
  deriving DecidableEq, Repr

def Segment.Takes : Segment → String → Prop
  | .text name, part => part = name
  | .id, part => part ≠ ""

instance : (segment : Segment) → (part : String) → Decidable (segment.Takes part)
  | .text name, part => inferInstanceAs (Decidable (part = name))
  | .id, part => inferInstanceAs (Decidable (part ≠ ""))

structure Route where
  path : List Segment
  methods : List (Method × Handler)

def put : Method := .other "PUT"

def delete : Method := .other "DELETE"

/-- A `HEAD` request is answered as a `GET` without its body. -/
def head : Method := .other "HEAD"

def Route.plain (path : List String) (methods : List (Method × Handler)) : Route :=
  ⟨path.map .text, methods⟩

/-- The routes of the source's `router`. -/
def routes : List Route :=
  [.plain ["v1", "chat", "completions"] [(.post, .chatCompletions)],
    .plain ["v1", "models"] [(.get, .modelsOpenai)],
    .plain ["v1", "messages"] [(.post, .messages)],
    .plain ["auth", "token"] [(.post, .authToken)],
    .plain ["auth", "rename"] [(.post, .authRename)],
    .plain ["api", "control"] [(.post, .apiControl)],
    .plain ["api", "members"] [(.get, .apiMembers)],
    .plain ["api", "strategy", "me"] [(.get, .apiStrategyMe)],
    .plain ["api", "usage", "export"] [(.get, .apiUsageExport)],
    .plain ["api", "quota"] [(.get, .apiQuotaList), (.post, .apiQuotaSet)],
    .plain ["api", "backends"] [(.get, .apiBackendsList), (.post, .apiBackendsSet)],
    .plain ["api", "rules"] [(.get, .apiRulesList), (.post, .apiRulesSet)],
    .plain ["api", "backends", "test"] [(.post, .apiBackendsTest)],
    ⟨[.text "api", .text "backends", .id], [(delete, .apiBackendsDelete)]⟩,
    ⟨[.text "api", .text "backends", .id, .text "polling"], [(put, .apiBackendsPolling)]⟩,
    .plain ["api", "info"] [(.get, .apiInfo)],
    .plain ["api", "models"] [(.get, .apiModels)]]

/-- The routes of the source's `share_router`. -/
def shareRoutes : List Route :=
  [.plain ["v1", "chat", "completions"] [(.post, .chatCompletions)],
    .plain ["v1", "models"] [(.get, .modelsOpenai)],
    .plain ["v1", "messages"] [(.post, .messages)],
    .plain ["auth", "token"] [(.post, .authToken)],
    .plain ["api", "strategy", "me"] [(.get, .apiStrategyMe)]]

def Route.Takes (route : Route) (path : List String) : Prop :=
  List.Forall₂ Segment.Takes route.path path

instance (route : Route) (path : List String) : Decidable (route.Takes path) :=
  inferInstanceAs (Decidable (List.Forall₂ Segment.Takes route.path path))

/-- The route of a path; one without an `{id}` comes first. -/
def routeOf (table : List Route) (path : List String) : Option Route :=
  (table.find? fun route => route.path = path.map .text).or
    (table.find? fun route => route.Takes path)

def Route.handler? (route : Route) (method : Method) : Option Handler :=
  (route.methods.find? fun entry => entry.1 = if method = head then .get else method).map Prod.snd

inductive Dispatch where
  | handler (handler : Handler)
  | methodNotAllowed
  | notFound
  deriving DecidableEq, Repr

/-- What becomes of a request for a path, given as the texts between its slashes. -/
def dispatch (table : List Route) (method : Method) (path : List String) : Dispatch :=
  match routeOf table path with
  | none => .notFound
  | some route =>
      match route.handler? method with
      | none => .methodNotAllowed
      | some handler => .handler handler

theorem plain_takes {names path : List String} {methods : List (Method × Handler)} :
    (Route.plain names methods).Takes path ↔ path = names := by
  rw [Route.Takes, Route.plain]
  simp only [List.forall₂_map_left_iff, Segment.Takes]
  constructor
  · intro same
    exact (List.forall₂_eq_eq_eq ▸ same.imp fun _ _ eq => eq.symm : names = path).symm
  · rintro rfl
    exact List.forall₂_same.mpr fun _ _ => rfl

theorem Route.takes_of_path {route : Route} {path : List String}
    (same : route.path = path.map .text) : route.Takes path := by
  rw [Route.Takes, same, List.forall₂_map_left_iff]
  exact List.forall₂_same.mpr fun _ _ => rfl

theorem takes_of_routeOf {table : List Route} {path : List String} {route : Route}
    (found : routeOf table path = some route) : route ∈ table ∧ route.Takes path := by
  rcases Option.or_eq_some_iff.mp found with exactly | ⟨-, takes⟩
  · have same := List.find?_some exactly
    exact ⟨List.mem_of_find?_eq_some exactly, route.takes_of_path (of_decide_eq_true same)⟩
  · have same := List.find?_some takes
    exact ⟨List.mem_of_find?_eq_some takes, of_decide_eq_true same⟩

/-- The route of the channel that a path has is its route on the other router, too. -/
theorem routeOf_of_share {path : List String} {route : Route}
    (found : routeOf shareRoutes path = some route) : routeOf routes path = some route := by
  obtain ⟨mem, takes⟩ := takes_of_routeOf found
  simp only [shareRoutes, List.mem_cons, List.not_mem_nil, or_false] at mem
  rcases mem with rfl | rfl | rfl | rfl | rfl <;>
    (obtain rfl := plain_takes.mp takes; rfl)

def shareHandlers : List Handler :=
  [.chatCompletions, .modelsOpenai, .messages, .authToken, .apiStrategyMe]

theorem Route.mem_of_handler? {route : Route} {method : Method} {handler : Handler}
    (found : route.handler? method = some handler) : handler ∈ route.methods.map Prod.snd := by
  obtain ⟨entry, isEntry, rfl⟩ := Option.map_eq_some_iff.mp found
  exact List.mem_map_of_mem (List.mem_of_find?_eq_some isEntry)

/-- The channel reaches five handlers, each by a request that reaches it on the machine
itself, too. -/
theorem dispatch_share {method : Method} {path : List String} {handler : Handler}
    (reached : dispatch shareRoutes method path = .handler handler) :
    handler ∈ shareHandlers ∧ dispatch routes method path = .handler handler := by
  rw [dispatch] at reached ⊢
  cases found : routeOf shareRoutes path with
  | none =>
      rw [found] at reached
      cases reached
  | some route =>
      rw [routeOf_of_share found]
      rw [found] at reached
      refine ⟨?_, reached⟩
      cases taken : route.handler? method with
      | none =>
          simp only [taken] at reached
          cases reached
      | some other =>
          simp only [taken] at reached
          cases reached
          have mem := Route.mem_of_handler? taken
          have table := (takes_of_routeOf found).1
          simp only [shareRoutes, List.mem_cons, List.not_mem_nil, or_false] at table
          rcases table with rfl | rfl | rfl | rfl | rfl <;>
            (rw [List.mem_singleton.mp mem]; decide)

/-- Every backend can be deleted by its id, except one with the name of another route. -/
theorem dispatch_delete {id : String} (named : id ≠ "") :
    dispatch routes delete ["api", "backends", id] =
      if id = "test" then .methodNotAllowed else .handler .apiBackendsDelete := by
  by_cases same : id = "test"
  · subst same
    rfl
  · rw [if_neg same]
    have taken : routeOf routes ["api", "backends", id] =
        some ⟨[.text "api", .text "backends", .id], [(delete, .apiBackendsDelete)]⟩ := by
      simp [routeOf, routes, Route.plain, Route.Takes, Segment.Takes, same, named, eq_comm]
    rw [dispatch, taken]
    rfl

/-! ## The channel of the members -/

/-- A request over the channel, with what it meets on its way. -/
structure ChannelCall where
  req : HttpRequest
  ip : String
  host : Host
  extract : Extractors
  net : Nat → HttpOutcome
  now : UInt64
  /-- The token that a new session would get, and how the sessions are saved. -/
  genToken : String
  dropped : WriteOutcome
  issued : WriteOutcome
  prims : AiPowerGateway.Link.Primitives
  nonce : AiPowerGateway.Link.Nonce
  /-- The policy of the link layer at this time. -/
  policy : AiPowerGateway.Link.LinkEncryptMode

namespace ChannelCall

/-- The texts between the slashes of a path, which starts with one. -/
def parts (path : String) : List String := ((path.toList.splitOn '/').map String.ofList).tail

def bare (status : Nat) : HttpResponse := ⟨status, [], []⟩

/-- A handler of the channel, behind the link layer. -/
def handle (call : ChannelCall) (req : HttpRequest) (state : ApiState UInt64) :
    Handler → Option HttpResponse × ApiState UInt64
  | .chatCompletions =>
      match call.extract.json req with
      | .error refusal => (some refusal, state)
      | .ok body =>
          let served := Share.chatCompletions call.host call.net call.now state req.headers body
          (served.reply.map Reply.toHttp, served.state)
  | .modelsOpenai => (some (Share.modelsOpenai call.host state).toHttp, state)
  | .messages =>
      match call.extract.bytes req with
      | .error refusal => (some refusal, state)
      | .ok raw =>
          let served := Share.messages call.host (call.net 0) call.now state req.headers raw
          (served.reply.map Reply.toHttp, served.state)
  | .authToken =>
      match call.extract.json req with
      | .error refusal => (some refusal, state)
      | .ok body =>
          let (reply, after) := Share.authToken call.host call.now call.genToken call.dropped
            call.issued call.ip body state
          (some reply.toHttp, after)
  | .apiStrategyMe =>
      (some (Share.apiStrategyMe call.host call.now req.headers state).toHttp, state)
  | _ => (some (bare 404), state)

/-- The source's `share_router`, behind its link layer. -/
def route (call : ChannelCall) (state : ApiState UInt64) (req : HttpRequest) :
    Option HttpResponse × ApiState UInt64 :=
  match dispatch shareRoutes req.method (parts req.path) with
  | .handler handler => call.handle req state handler
  | .methodNotAllowed => (some (bare 405), state)
  | .notFound => (some (bare 404), state)

def passage (call : ChannelCall) (state : ApiState UInt64) : Link.Passage :=
  Link.linkEncMiddleware call.prims call.policy call.nonce (fun req => (call.route state req).1)
    call.req

/-- The service after the request, which the link layer may have turned away. -/
def step (call : ChannelCall) (state : ApiState UInt64) : ApiState UInt64 :=
  match (call.passage state).seen with
  | none => state
  | some req => (call.route state req).2

end ChannelCall

/-! ## What the panel manages -/

/-- The settings of the panel are the same. -/
structure SameSettings (before after : ApiState UInt64) : Prop where
  sharing : after.sharing = before.sharing
  bans : after.auth.SameBans before.auth
  quota : after.quota = before.quota
  policy : after.policy.enabled = before.policy.enabled
  rules : after.rules = before.rules
  backends : after.backends = before.backends
  health : after.health = before.health

section SameSettings

variable {before middle after state : ApiState UInt64}

theorem SameSettings.refl (state : ApiState UInt64) : SameSettings state state :=
  ⟨rfl, ⟨rfl, rfl⟩, rfl, rfl, rfl, rfl, rfl⟩

theorem SameSettings.trans (first : SameSettings before middle)
    (second : SameSettings middle after) : SameSettings before after where
  sharing := second.sharing.trans first.sharing
  bans := ⟨second.bans.banned.trans first.bans.banned,
    second.bans.bannedIps.trans first.bans.bannedIps⟩
  quota := second.quota.trans first.quota
  policy := second.policy.trans first.policy
  rules := second.rules.trans first.rules
  backends := second.backends.trans first.backends
  health := second.health.trans first.health

/-- Checking a text counts hits and switches nothing. -/
theorem enabled_check (host : Host) (policy : LoadPolicy) (text : String) :
    (policy.check host text).2.enabled = policy.enabled := by
  unfold LoadPolicy.check
  split
  · split
    · next category _ => cases category <;> rfl
    · rfl
  · rfl

theorem sameSettings_chatGate (host : Host) (now : UInt64) (state : ApiState UInt64)
    (headers : HeaderMap) (body : Json) :
    SameSettings state (chatGate host now state headers body).2 := by
  unfold chatGate
  split
  · exact .refl state
  · split
    · exact .refl state
    · split
      · exact .refl state
      · simp only
        split
        · exact ⟨rfl, ⟨rfl, rfl⟩, rfl, rfl, rfl, rfl, rfl⟩
        · split <;> exact ⟨rfl, ⟨rfl, rfl⟩, rfl, enabled_check _ _ _, rfl, rfl, rfl⟩

theorem sameSettings_chatServe (host : Host) (net : Nat → HttpOutcome) (session : Session)
    (body : Json) : SameSettings state (chatServe host net state session body).state := by
  simp only [chatServe]
  cases (chatTrace net state body).result with
  | error lastErr => exact .refl state
  | ok loopEnd =>
      cases loopEnd with
      | unavailable => exact .refl state
      | served candidate providerLabel resp => exact ⟨rfl, ⟨rfl, rfl⟩, rfl, rfl, rfl, rfl, rfl⟩
      | panicked => exact .refl state

theorem sameSettings_messagesServe (host : Host) (outcome : HttpOutcome) (session : Session)
    (body : Json) : SameSettings state (messagesServe host outcome state session body).state := by
  unfold messagesServe
  simp only
  split
  · exact .refl state
  · split
    · exact ⟨rfl, ⟨rfl, rfl⟩, rfl, rfl, rfl, rfl, rfl⟩
    · exact .refl state
    · exact .refl state

theorem sameSettings_chatCompletions (host : Host) (net : Nat → HttpOutcome) (now : UInt64)
    (headers : HeaderMap) (body : Json) :
    SameSettings state (chatCompletions host net now state headers body).state := by
  have gate := sameSettings_chatGate host now state headers body
  unfold chatCompletions
  cases gated : chatGate host now state headers body with
  | mk verdict after =>
      rw [gated] at gate
      cases verdict with
      | error refusal => exact gate
      | ok session => exact gate.trans (sameSettings_chatServe host net session body)

theorem sameSettings_messages (host : Host) (outcome : HttpOutcome) (now : UInt64)
    (headers : HeaderMap) (raw : List UInt8) :
    SameSettings state (messages host outcome now state headers raw).state := by
  unfold messages
  cases parsed : host.serde.fromSlice raw with
  | none =>
      obtain ⟨refusal, members, gate⟩ := messagesGate_unparsed now state headers parsed
      rw [gate]
      exact ⟨rfl, ⟨rfl, rfl⟩, rfl, rfl, rfl, rfl, rfl⟩
  | some body =>
      have gate := sameSettings_chatGate host now state headers body
      rw [messagesGate_parsed now state headers parsed]
      cases gated : chatGate host now state headers body with
      | mk verdict after =>
          rw [gated] at gate
          cases verdict with
          | error refusal => exact gate
          | ok session => exact gate.trans (sameSettings_messagesServe host outcome session body)

/-- Joining changes the sessions and the members. -/
theorem authToken_frame (host : Host) (now : UInt64) (genToken : String)
    (dropped issued : WriteOutcome) (ip : String) (body : Json) (state : ApiState UInt64) :
    ∃ auth members,
      (authToken host now genToken dropped issued ip body state).2 =
        { state with auth := auth, members := members } := by
  unfold authToken
  split
  · exact ⟨_, _, rfl⟩
  · simp only
    split
    · exact ⟨_, _, rfl⟩
    · split <;> exact ⟨_, _, rfl⟩

theorem sameSettings_authToken (host : Host) (now : UInt64) (genToken : String)
    (dropped issued : WriteOutcome) (ip : String) (body : Json) :
    SameSettings state (authToken host now genToken dropped issued ip body state).2 := by
  have bans := sameBans_authToken host now genToken dropped issued ip body state
  obtain ⟨auth, members, after⟩ := authToken_frame host now genToken dropped issued ip body
    state
  rw [after] at bans ⊢
  exact ⟨rfl, bans, rfl, rfl, rfl, rfl, rfl⟩

/-! ## Runs over the channel -/

theorem ChannelCall.sameSettings_handle (call : ChannelCall) (req : HttpRequest)
    (handler : Handler) : SameSettings state (call.handle req state handler).2 := by
  cases handler with
  | chatCompletions =>
      simp only [handle]
      split
      · exact .refl state
      · exact sameSettings_chatCompletions call.host call.net call.now req.headers _
  | messages =>
      simp only [handle]
      split
      · exact .refl state
      · exact sameSettings_messages call.host (call.net 0) call.now req.headers _
  | authToken =>
      simp only [handle]
      split
      · exact .refl state
      · exact sameSettings_authToken call.host call.now call.genToken call.dropped call.issued
          call.ip _
  | _ => exact .refl state

theorem ChannelCall.sameSettings_step (call : ChannelCall) (state : ApiState UInt64) :
    SameSettings state (call.step state) := by
  unfold step
  split
  · exact .refl state
  · unfold route
    split
    · exact call.sameSettings_handle _ _
    · exact .refl state
    · exact .refl state

/-- The service after some requests. -/
def afterCalls (calls : List ChannelCall) (state : ApiState UInt64) : ApiState UInt64 :=
  Systems.EventRuns.final ChannelCall.step calls state

theorem sameSettings_afterCalls (calls : List ChannelCall) (state : ApiState UInt64) :
    SameSettings state (afterCalls calls state) := by
  induction calls generalizing state with
  | nil => exact .refl state
  | cons call calls ih => exact (call.sameSettings_step state).trans (ih (call.step state))

/--
No requests over the channel, whatever they are and however many, change a setting that the
panel manages; and no token of a member who was banned before them is accepted after them.
-/
theorem channel_keeps_settings (calls : List ChannelCall) (state : ApiState UInt64) :
    SameSettings state (afterCalls calls state) ∧
      ∀ now token session, (afterCalls calls state).auth.verify now token = some session →
        state.auth.isMemberBanned session.memberId = false := by
  have same := sameSettings_afterCalls calls state
  refine ⟨same, fun now token session accepted => ?_⟩
  have notBanned := (verify_eq_some.mp accepted).2.2
  rw [same.bans.banned] at notBanned
  simpa [AuthService.isMemberBanned] using notBanned

end SameSettings

end AiPowerGateway.Share

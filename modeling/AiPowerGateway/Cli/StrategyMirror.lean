import AiPowerGateway.Share.Switches

/-!
# The mirrored strategy as it ages

A member gateway fetches its strategy in two requests, keeps it in memory and in a file, and
blocks requests by it until the next fetch succeeds, or beyond the end of its process.
Meanwhile the leader goes on: other members ask, answers that were on their way arrive, and
the panel bans, unbans and sets quotas.
-/

namespace AiPowerGateway.Share

/-! ## Quotas of the panel -/

def apiQuotaSet (host : Host) (body : Json) (state : ApiState UInt64) : Reply × ApiState UInt64 :=
  let memberId := body.textOr "memberId" ""
  let quota := ((body.get? "quota").bind Json.asU64?).getD 0
  if memberId = "" then (errorReply host 400 "memberId required", state)
  else
    (jsonReply host 200 (.obj [("ok", .bool true), ("memberId", .str memberId),
        ("quota", .num (.posInt quota))]),
      { state with quota := state.quota.set memberId quota })

/-! ## Whose tokens there are -/

namespace AuthService

/-- A machine asks for a token: what it gets is its own, and only that is new. -/
structure Grants (machineName genToken : String) (before : AuthService)
    (answer : Except RuntimeError Session × AuthService) : Prop where
  keyed : SessionsKeyed before.sessions → SessionsKeyed answer.2.sessions
  owners (token : String) (session : Session) :
    answer.2.sessions.lookup token = some session →
      before.sessions.lookup token = some session ∨
        token = genToken ∧ session.memberId = machineName
  granted (session : Session) : answer.1 = .ok session → session.memberId = machineName ∧
    (SessionsKeyed before.sessions → answer.2.sessions.lookup session.token = some session)

theorem grants_issue (now : UInt64) (genToken : String) (outcome : WriteOutcome)
    (machineName displayName ip : String) (service : AuthService) :
    service.Grants machineName genToken
      (service.issue now genToken outcome machineName displayName ip) := by
  have keyed (isKeyed : SessionsKeyed service.sessions) :=
    keyed_issue isKeyed now genToken outcome machineName displayName ip
  rcases issue_cases now genToken outcome machineName displayName ip service with
    ⟨existing, live, issued⟩ | ⟨-, -, issued⟩ | ⟨-, -, -, issued⟩
  · obtain ⟨mem, own, -⟩ := liveSession_eq_some live
    rw [issued] at keyed ⊢
    refine ⟨keyed, fun _ _ found => Or.inl found, fun session granted => ?_⟩
    obtain rfl := Except.ok.inj granted
    exact ⟨own, fun isKeyed => isKeyed.lookup_token mem⟩
  · rw [issued] at keyed ⊢
    exact ⟨keyed, fun _ _ found => Or.inl found, fun _ granted => by cases granted⟩
  · rw [issued] at keyed ⊢
    refine ⟨keyed, fun token session found => ?_, fun session granted => ?_⟩
    · rw [saveSessions_sessions] at found
      by_cases new : token = genToken
      · subst new
        rw [AList.lookup_insert] at found
        obtain rfl := Option.some.inj found
        exact Or.inr ⟨rfl, rfl⟩
      · rw [AList.lookup_insert_ne new] at found
        exact Or.inl found
    · obtain rfl := Except.ok.inj granted
      refine ⟨rfl, fun _ => ?_⟩
      rw [saveSessions_sessions]
      exact AList.lookup_insert _

theorem grants_rotate (now : UInt64) (genToken : String) (dropped issued : WriteOutcome)
    (machineName displayName ip : String) (service : AuthService) :
    service.Grants machineName genToken
      (service.rotate now genToken dropped issued machineName displayName ip) := by
  have issues := grants_issue now genToken issued machineName displayName ip
    ({ service with
      sessions := service.sessions.retain fun session =>
        session.memberId ≠ machineName }.saveSessions dropped)
  have kept (isKeyed : SessionsKeyed service.sessions) :
      SessionsKeyed ({ service with
        sessions := service.sessions.retain fun session =>
          session.memberId ≠ machineName }.saveSessions dropped).sessions := by
    rw [saveSessions_sessions]
    exact isKeyed.retain _
  refine ⟨fun isKeyed => issues.keyed (kept isKeyed), fun token session found => ?_,
    fun session granted => ?_⟩
  · refine (issues.owners token session found).imp_left fun before => ?_
    rw [saveSessions_sessions, HashMap.lookup_retain, Option.filter_eq_some_iff] at before
    exact before.1
  · obtain ⟨own, found⟩ := issues.granted session granted
    exact ⟨own, fun isKeyed => found (kept isKeyed)⟩

theorem grants_issueOrRotate (now : UInt64) (genToken : String) (dropped issued : WriteOutcome)
    (ip : String) (body : Json) (service : AuthService) :
    service.Grants (body.textOr "machineName" "") genToken
      (issueOrRotate now genToken dropped issued ip body service) := by
  unfold issueOrRotate
  simp only
  split
  · exact grants_rotate now genToken dropped issued _ _ ip service
  · exact grants_issue now genToken issued _ _ ip service

end AuthService

section Frames

variable {state : ApiState UInt64}

/-- `auth_token` refuses, or asks the service for a token. -/
theorem auth_authToken (host : Host) (now : UInt64) (genToken : String)
    (dropped issued : WriteOutcome) (ip : String) (body : Json) (state : ApiState UInt64) :
    (authToken host now genToken dropped issued ip body state).2.auth = state.auth ∨
      (authToken host now genToken dropped issued ip body state).2.auth =
        (issueOrRotate now genToken dropped issued ip body state.auth).2 := by
  unfold authToken
  dsimp only
  split
  · exact Or.inl rfl
  · split
    · exact Or.inl rfl
    · refine Or.inr ?_
      cases issueOrRotate now genToken dropped issued ip body state.auth with
      | mk result auth => cases result <;> rfl

theorem ChannelCall.auth_handle (call : ChannelCall) (req : HttpRequest) (handler : Handler) :
    (call.handle req state handler).2.auth = state.auth ∨
      ∃ body, (call.handle req state handler).2.auth =
        (issueOrRotate call.now call.genToken call.dropped call.issued call.ip body
          state.auth).2 := by
  cases handler with
  | chatCompletions =>
      refine Or.inl ?_
      simp only [handle]
      split
      · rfl
      · exact chatCompletions_auth ..
  | messages =>
      refine Or.inl ?_
      simp only [handle]
      split
      · rfl
      · exact messages_auth ..
  | authToken =>
      simp only [handle]
      split
      · exact Or.inl rfl
      · next body _ =>
        exact (auth_authToken call.host call.now call.genToken call.dropped call.issued call.ip
          body state).imp_right fun asked => ⟨body, asked⟩
  | _ => exact Or.inl rfl

/-- What a request over the channel does to the sessions. -/
theorem ChannelCall.auth_step (call : ChannelCall) (state : ApiState UInt64) :
    (call.step state).auth = state.auth ∨
      ∃ body, (call.step state).auth =
        (issueOrRotate call.now call.genToken call.dropped call.issued call.ip body
          state.auth).2 := by
  unfold step
  split
  · exact Or.inl rfl
  · unfold route
    split
    · exact call.auth_handle _ _
    · exact Or.inl rfl
    · exact Or.inl rfl

/-- An answer is metered for a member who was below its limit. -/
theorem below_of_chatAnswer? {host : Host} {net : Nat → HttpOutcome} {now : UInt64}
    {headers : HeaderMap} {body : Json} {answer : Answer}
    (metered : chatAnswer? host net now state headers body = some answer) :
    state.quota.Below answer.memberId (state.usage.used answer.memberId) := by
  unfold chatAnswer? at metered
  cases gate : chatGate host now state headers body with
  | mk verdict after =>
      rw [gate] at metered
      cases verdict with
      | error refusal => cases metered
      | ok session =>
          simp only at metered
          split at metered
          · cases metered
            exact (admitted_of_chatGate gate).belowQuota
          · cases metered

theorem below_of_messagesAnswer? {host : Host} {outcome : HttpOutcome} {now : UInt64}
    {headers : HeaderMap} {raw : List UInt8} {answer : Answer}
    (metered : messagesAnswer? host outcome now state headers raw = some answer) :
    state.quota.Below answer.memberId (state.usage.used answer.memberId) := by
  unfold messagesAnswer? at metered
  cases gate : messagesGate host now state headers raw with
  | mk verdict after =>
      rw [gate] at metered
      cases verdict with
      | error refusal => cases metered
      | ok admitted =>
          simp only at metered
          split at metered
          · cases metered
          · split at metered
            · cases metered
              exact (admitted_of_messagesGate gate).belowQuota
            · cases metered

theorem used_meteredWith {answer : Option Answer} {memberId : String}
    (others : ∀ metered, answer = some metered → metered.memberId ≠ memberId)
    (usage : UsageService UInt64) :
    (meteredWith answer usage).used memberId = usage.used memberId := by
  cases answer with
  | none => rfl
  | some metered =>
      rw [meteredWith, UsageService.used, UsageService.used,
        lookup_apply_ne (others metered rfl)]

/-- What a request over the channel does to the total of a member over its limit: nothing. -/
theorem ChannelCall.used_step (call : ChannelCall) {memberId : String}
    (exceeded : ¬ state.quota.Below memberId (state.usage.used memberId)) :
    (call.step state).usage.used memberId = state.usage.used memberId := by
  have handled (req : HttpRequest) (handler : Handler) :
      (call.handle req state handler).2.usage.used memberId = state.usage.used memberId := by
    cases handler with
    | chatCompletions =>
        simp only [handle]
        split
        · rfl
        · rw [chatCompletions_usage]
          refine used_meteredWith (fun metered found own => exceeded ?_) _
          rw [← own]
          exact below_of_chatAnswer? found
    | messages =>
        simp only [handle]
        split
        · rfl
        · rw [messages_usage]
          refine used_meteredWith (fun metered found own => exceeded ?_) _
          rw [← own]
          exact below_of_messagesAnswer? found
    | authToken =>
        simp only [handle]
        split
        · rfl
        · obtain ⟨auth, members, after⟩ := authToken_frame call.host call.now call.genToken
            call.dropped call.issued call.ip _ state
          rw [after]
    | _ => rfl
  unfold step
  split
  · rfl
  · unfold route
    split
    · exact handled _ _
    · rfl
    · rfl

end Frames

/-! ## What the panel leaves alone -/

/-- The request lifts the ban of a member. -/
def ControlCall.Unbans (call : ControlCall) (memberId : String) : Prop :=
  call.action = "unban" ∧ call.body.textOr "memberId" "" = memberId

/-- A request to `api_control` changes no session, no usage and no quota, and ends no ban but
the one it is to end. -/
structure ControlCall.Spares (call : ControlCall) (before after : ApiState UInt64) : Prop where
  sessions : after.auth.sessions = before.auth.sessions
  usage : after.usage = before.usage
  quota : after.quota = before.quota
  banned (memberId : String) : memberId ∈ before.auth.banned → ¬ call.Unbans memberId →
    memberId ∈ after.auth.banned

namespace ControlCall

variable (call : ControlCall) (api : ApiState UInt64)

theorem spares_revoke : call.Spares api
    (controlRevoke call.host call.banWritten call.sessionsWritten call.body api).2 where
  sessions := by simp [controlRevoke, AuthService.revokeMember]
  usage := rfl
  quota := rfl
  banned memberId isBanned _ := by
    rw [controlRevoke]
    simp [AuthService.revokeMember, AuthService.save_banned, isBanned]

theorem spares_unban (unbans : call.action = "unban") :
    call.Spares api (controlUnban call.host call.banWritten call.body api).2 := by
  unfold controlUnban
  simp only
  split
  · exact ⟨rfl, rfl, rfl, fun _ isBanned _ => isBanned⟩
  · refine ⟨by simp [AuthService.unban], rfl, rfl, fun memberId isBanned others => ?_⟩
    have other : memberId ≠ call.body.textOr "memberId" "" := fun same =>
      others ⟨unbans, same.symm⟩
    simp [AuthService.unban, AuthService.save_banned, isBanned, other]

theorem spares_rename :
    call.Spares api (controlRename call.host call.body api).2 := by
  unfold controlRename
  simp only
  split
  · exact ⟨rfl, rfl, rfl, fun _ isBanned _ => isBanned⟩
  · split <;> exact ⟨rfl, rfl, rfl, fun _ isBanned _ => isBanned⟩

theorem spares_apiControl (files : SwitchFiles) (running : Running) :
    call.Spares running.api (call.apiControl files running).2.2.api := by
  have same {after : ApiState UInt64} (auth : after.auth = running.api.auth)
      (usage : after.usage = running.api.usage) (quota : after.quota = running.api.quota) :
      call.Spares running.api after :=
    ⟨congrArg AuthService.sessions auth, usage, quota, fun _ isBanned _ => auth ▸ isBanned⟩
  unfold apiControl
  split
  · exact call.spares_revoke running.api
  · next act => exact call.spares_unban running.api act
  · exact call.spares_rename running.api
  · exact same rfl rfl rfl
  · exact same rfl rfl rfl
  · exact same rfl rfl rfl
  · unfold controlLinkEncrypt
    split <;> exact same rfl rfl rfl
  · exact same rfl rfl rfl
  · exact same rfl rfl rfl

end ControlCall

/-! ## An answer in machine words -/

theorem used_apply_self (answer : Answer) (usage : UsageService UInt64) :
    (answer.apply usage).used answer.memberId =
      usage.used answer.memberId + (answer.promptTokens + answer.completionTokens) := by
  have entry : usage.used answer.memberId = (usage.entry answer.memberId).total := by
    rw [UsageService.used, UsageService.entry]
    cases usage.lookup answer.memberId with
    | some entry => rfl
    | none => rfl
  rw [UsageService.used, lookup_apply_self, entry]
  simp only [MemberUsage.total, Answer.charge, MemberUsage.addCall]
  generalize (usage.entry answer.memberId).promptTokens = prompt
  generalize (usage.entry answer.memberId).completionTokens = completion
  have tokens (tokens : UInt64) : (Counter.ofTokens tokens : UInt64) = tokens := rfl
  rw [tokens, tokens]
  ac_rfl

/-- A total that has room for an answer does not fall. -/
theorem used_le_apply {answer : Answer} {usage : UsageService UInt64} {memberId : String}
    (room : answer.memberId = memberId →
      (usage.used memberId).toNat + answer.tokens < 2 ^ 64) :
    usage.used memberId ≤ (answer.apply usage).used memberId := by
  by_cases own : answer.memberId = memberId
  · subst own
    have fits := room rfl
    rw [Answer.tokens] at fits
    rw [used_apply_self, UInt64.le_iff_toNat_le, UInt64.toNat_add, UInt64.toNat_add]
    omega
  · rw [UsageService.used, UsageService.used, lookup_apply_ne own]
    exact UInt64.le_refl _

end AiPowerGateway.Share

namespace AiPowerGateway.Cli

open Share LanClient

/-! ## The cache and its file -/

/-- The mirrored strategy, and the readable content of `strategy-cache.json`. -/
structure StrategyCache where
  inner : Option StrategySummary := none
  file : Option StrategySummary := none

namespace StrategyCache

def new (file : Option StrategySummary) : StrategyCache := ⟨file, file⟩

def set (written : WriteOutcome) (summary : StrategySummary) (cache : StrategyCache) :
    StrategyCache :=
  ⟨some summary, written.content cache.file summary⟩

/-- The summary is in memory or in the file. -/
def Holds (summary : StrategySummary) (cache : StrategyCache) : Prop :=
  cache.inner = some summary ∨ cache.file = some summary

/-- A summary that is held blocks requests. -/
def Blocks (cache : StrategyCache) : Prop :=
  ∃ summary, cache.Holds summary ∧ preflightBlock summary ≠ none

theorem holds_new {file : Option StrategySummary} {summary : StrategySummary}
    (holds : (new file).Holds summary) : file = some summary := or_self_iff.mp holds

theorem holds_set {written : WriteOutcome} {fetched summary : StrategySummary}
    {cache : StrategyCache} (holds : (cache.set written fetched).Holds summary) :
    summary = fetched ∨ cache.Holds summary := by
  rcases holds with memory | filed
  · exact Or.inl (Option.some.inj memory).symm
  · cases written with
    | done => exact Or.inl (Option.some.inj filed).symm
    | untouched => exact Or.inr (Or.inr filed)
    | broken => cases filed

end StrategyCache

/-! ## The gateway and its leader -/

/-- What becomes of a request to the leader. -/
inductive Delivery where
  | answered
  /-- It does not arrive, or is turned away on the way. -/
  | unsent (message : String)
  /-- It arrives, and its answer does not. -/
  | unanswered (message : String)

def Ask.through {σ : Type} (delivery : Delivery) (ask : Ask σ) : Ask σ :=
  fun path auth body leader =>
    match delivery with
    | .answered => ask path auth body leader
    | .unsent message => (.error message, leader)
    | .unanswered message => (.error message, (ask path auth body leader).2)

structure MirrorWorld where
  files : SwitchFiles
  leader : Running
  cache : StrategyCache := {}
  /-- The token that the first request of a fetch has got. -/
  token : Option String := none

inductive MirrorEvent where
  /-- A request over the leader's channel. -/
  | channel (call : ChannelCall)
  /-- A request of the panel. -/
  | control (call : ControlCall)
  | quota (host : Host) (body : Json)
  /-- The answer to a request that was admitted before is metered. -/
  | landed (answer : Answer)
  /-- The two requests of a fetch. -/
  | join (delivery : Delivery) (now : UInt64) (genToken : String)
      (dropped issued : WriteOutcome) (ip : String)
  | pull (delivery : Delivery) (now fetchedAt : UInt64) (invalid : String)
      (written : WriteOutcome)
  /-- A new process of the gateway over its file. -/
  | reopened

namespace MirrorWorld

variable (host : Host) (machine : String)

def joinOver (delivery : Delivery) (now : UInt64) (genToken : String)
    (dropped issued : WriteOutcome) (ip : String) (world : MirrorWorld) : MirrorWorld :=
  let (joined, api) := fetchToken host.serde
    (Ask.through delivery (askLeader host now genToken dropped issued ip)) machine world.leader.api
  { world with leader := { world.leader with api := api }, token := joined.toOption }

def pullOver (delivery : Delivery) (now fetchedAt : UInt64) (invalid : String)
    (written : WriteOutcome) (world : MirrorWorld) : MirrorWorld :=
  match world.token with
  | none => world
  | some token =>
      let (fetched, api) := fetchSummary host.serde
        (Ask.through delivery (askLeader host now "" .done .done "")) fetchedAt invalid token
        world.leader.api
      { world with
        leader := { world.leader with api := api }
        token := none
        cache := match fetched with
          | .ok summary => world.cache.set written summary
          | .error _ => world.cache }

def step : MirrorEvent → MirrorWorld → MirrorWorld
  | .channel call, world =>
      { world with leader :=
        { world.leader with api := (world.leader.receives call).step world.leader.api } }
  | .control call, world =>
      let (_, files, leader) := call.apiControl world.files world.leader
      { world with files := files, leader := leader }
  | .quota host body, world =>
      { world with leader :=
        { world.leader with api := (apiQuotaSet host body world.leader.api).2 } }
  | .landed answer, world =>
      { world with leader := { world.leader with
        api := { world.leader.api with usage := answer.apply world.leader.api.usage } } }
  | .join delivery now genToken dropped issued ip, world =>
      world.joinOver host machine delivery now genToken dropped issued ip
  | .pull delivery now fetchedAt invalid written, world =>
      world.pullOver host delivery now fetchedAt invalid written
  | .reopened, world => { world with cache := .new world.cache.file, token := none }

end MirrorWorld

/-- A fetch whose requests follow each other is the source's `fetch_strategy`. -/
theorem pullOver_joinOver (host : Host) (machine : String) (now fetchedAt : UInt64)
    (genToken : String) (dropped issued written : WriteOutcome) (ip invalid : String)
    (world : MirrorWorld) :
    let fetched := fetchStrategy host.serde (askLeader host now genToken dropped issued ip)
      fetchedAt invalid machine world.leader.api
    let after := (world.joinOver host machine .answered now genToken dropped issued ip).pullOver
      host .answered now fetchedAt invalid written
    after.leader.api = fetched.2 ∧
      after.cache = (match fetched.1 with
        | .ok summary => world.cache.set written summary
        | .error _ => world.cache) := by
  have pulls (token : String) (api : ApiState UInt64) :
      fetchSummary host.serde (askLeader host now genToken dropped issued ip) fetchedAt invalid
          token api =
        fetchSummary host.serde (askLeader host now "" .done .done "") fetchedAt invalid token
          api := by
    have notToken : "/api/strategy/me" ≠ "/auth/token" := by decide
    simp only [fetchSummary, askLeader, if_neg notToken]
  have arrives (dropped issued : WriteOutcome) (genToken ip : String) :
      Ask.through .answered (askLeader host now genToken dropped issued ip) =
        askLeader host now genToken dropped issued ip := rfl
  simp only [MirrorWorld.joinOver, MirrorWorld.pullOver, fetchStrategy, arrives, pulls]
  cases fetchToken host.serde (askLeader host now genToken dropped issued ip) machine
      world.leader.api with
  | mk joined api =>
      cases joined with
      | error message => exact ⟨rfl, rfl⟩
      | ok token => exact ⟨rfl, rfl⟩

/-! ## The two requests of a fetch -/

/-- What the first request carries. -/
def joinBody (machine : String) : Json :=
  .obj [("machineName", .str machine), ("displayName", .str machine)]

section Fetch

variable {host : Host} {machine : String} {now : UInt64} {genToken : String}
  {dropped issued : WriteOutcome} {ip : String} {api : ApiState UInt64}

/-- The first request arrives at `auth_token`, or nowhere. -/
theorem leader_fetchToken (host : Host) (machine : String) (now : UInt64) (genToken : String)
    (dropped issued : WriteOutcome) (ip : String) (api : ApiState UInt64) (delivery : Delivery) :
    (fetchToken host.serde (Ask.through delivery (askLeader host now genToken dropped issued ip))
        machine api).2 = api ∨
      (fetchToken host.serde (Ask.through delivery (askLeader host now genToken dropped issued ip))
          machine api).2 =
        (authToken host now genToken dropped issued ip (joinBody machine) api).2 := by
  cases delivery with
  | unsent message => exact Or.inl rfl
  | unanswered message => exact Or.inr rfl
  | answered =>
      refine Or.inr ?_
      have asks : Ask.through .answered (askLeader host now genToken dropped issued ip)
          "/auth/token" none (some (joinBody machine)) api =
            (.ok ((authToken host now genToken dropped issued ip (joinBody machine) api).1.status,
              (authToken host now genToken dropped issued ip (joinBody machine) api).1.body),
              (authToken host now genToken dropped issued ip (joinBody machine) api).2) := rfl
      unfold fetchToken
      rw [← joinBody, asks]
      simp only
      split <;> rfl

theorem toOption_eq_some {α ε : Type} {answer : Except ε α} {value : α}
    (isValue : answer.toOption = some value) : answer = .ok value := by
  cases answer with
  | error => cases isValue
  | ok found => exact congrArg Except.ok (Option.some.inj isValue)

/-- What `auth_token` says of a session. -/
def grantJson (session : Session) : Json :=
  .obj [("token", .str session.token), ("expiresAt", .num (.posInt session.expiresAt))]

theorem granted_of_authToken {body : Json}
    (ok : (authToken host now genToken dropped issued ip body api).1.status = 200) :
    ∃ session, (issueOrRotate now genToken dropped issued ip body api.auth).1 = .ok session ∧
      (authToken host now genToken dropped issued ip body api).1.body =
        host.serde.toString (grantJson session) ∧
      (authToken host now genToken dropped issued ip body api).2.auth =
        (issueOrRotate now genToken dropped issued ip body api.auth).2 := by
  unfold authToken at ok ⊢
  dsimp only at ok ⊢
  split at ok
  · cases ok
  · next sharing =>
    split at ok
    · cases ok
    · next named =>
      rw [if_neg sharing, if_neg named]
      cases asked : issueOrRotate now genToken dropped issued ip body api.auth with
      | mk result auth =>
          rw [asked] at ok
          cases result with
          | error refused => cases ok
          | ok session => exact ⟨session, rfl, rfl, rfl⟩

/-- What `auth_token` answers to be read as a token is the token of the machine's session. -/
theorem session_of_fetchToken {delivery : Delivery} {token : String}
    (fetched : (fetchToken host.serde
      (Ask.through delivery (askLeader host now genToken dropped issued ip)) machine api).1 =
        .ok token) :
    ∃ session, (issueOrRotate now genToken dropped issued ip (joinBody machine) api.auth).1 =
        .ok session ∧ session.token = token ∧
      (fetchToken host.serde (Ask.through delivery (askLeader host now genToken dropped issued ip))
        machine api).2.auth =
          (issueOrRotate now genToken dropped issued ip (joinBody machine) api.auth).2 := by
  cases delivery with
  | unsent message => cases fetched
  | unanswered message => cases fetched
  | answered =>
      have asks : Ask.through .answered (askLeader host now genToken dropped issued ip)
          "/auth/token" none (some (joinBody machine)) api =
            (.ok ((authToken host now genToken dropped issued ip (joinBody machine) api).1.status,
              (authToken host now genToken dropped issued ip (joinBody machine) api).1.body),
              (authToken host now genToken dropped issued ip (joinBody machine) api).2) := rfl
      unfold fetchToken at fetched ⊢
      rw [← joinBody, asks] at fetched ⊢
      simp only at fetched ⊢
      split at fetched
      · cases fetched
      · next ok =>
        rw [if_neg ok]
        obtain ⟨session, asked, body, auth⟩ := granted_of_authToken (not_not.mp ok)
        have reads : host.serde.fromStr
            (authToken host now genToken dropped issued ip (joinBody machine) api).1.body =
              .ok (grantJson session) := by
          rw [body]
          exact host.serde.fromStr_toString _ rfl
        rw [reads] at fetched
        exact ⟨session, asked, Except.ok.inj fetched, auth⟩

/-- The leader reads at most the token that was sent, without the blanks around it. -/
theorem bearerToken_sent {token read : String}
    (isRead : bearerToken (authHeaders (some ("Bearer " ++ token))) = some read) :
    read = Text.trim token := by
  have field : (authHeaders (some ("Bearer " ++ token))).get? "authorization" =
      some (Text.utf8 ("Bearer " ++ token)) := rfl
  have noKey : (authHeaders (some ("Bearer " ++ token))).get? "x-api-key" = none := rfl
  rw [bearerToken, field, noKey, Option.bind_some] at isRead
  cases sent : HeaderMap.toStr? (Text.utf8 ("Bearer " ++ token)) with
  | none => simp [sent] at isRead
  | some text =>
      have same := congrArg (fun bytes : List UInt8 => String.fromUTF8? ⟨bytes.toArray⟩)
        (HeaderMap.utf8_of_toStr? sent)
      simp only [Text.fromUTF8?_utf8] at same
      rw [sent, Option.some.inj same, Option.bind_some, Text.stripLeading?_append] at isRead
      exact (Option.some.inj isRead).symm

/-- The second request changes nothing.  It fails, or brings what the leader knows of the
member whose session the token leads to. -/
theorem fetchSummary_cases (host : Host) (now : UInt64) (genToken : String)
    (dropped issued : WriteOutcome) (ip : String) (api : ApiState UInt64) (delivery : Delivery)
    (fetchedAt : UInt64) (invalid token : String) :
    (fetchSummary host.serde (Ask.through delivery (askLeader host now genToken dropped issued ip))
        fetchedAt invalid token api).2 = api ∧
      ∀ summary, (fetchSummary host.serde
          (Ask.through delivery (askLeader host now genToken dropped issued ip)) fetchedAt invalid
          token api).1 = .ok summary →
        ∃ session, api.auth.sessions.lookup (Text.trim token) = some session ∧
          summary = { summaryOf session.memberId api with fetchedAt := fetchedAt } := by
  cases delivery with
  | unsent message => exact ⟨rfl, fun _ fetched => by cases fetched⟩
  | unanswered message => exact ⟨rfl, fun _ fetched => by cases fetched⟩
  | answered =>
      have arrives : Ask.through .answered (askLeader host now genToken dropped issued ip) =
        askLeader host now genToken dropped issued ip := rfl
      rw [arrives]
      cases known : api.sessionOf now (authHeaders (some ("Bearer " ++ token))) with
      | none =>
          have asked : fetchSummary host.serde (askLeader host now genToken dropped issued ip)
              fetchedAt invalid token api =
                (.error ("strategy status " ++
                  toString (Refusal.unauthorized.reply host).status), api) := by
            have notToken : "/api/strategy/me" ≠ "/auth/token" := by decide
            have refused : (Refusal.unauthorized.reply host).status ≠ 200 := by
              simp [Refusal.reply, errorReply, jsonReply]
            simp only [fetchSummary, askLeader, if_neg notToken, if_true, apiStrategyMe, known]
            exact if_pos refused
          rw [asked]
          exact ⟨rfl, fun _ fetched => by cases fetched⟩
      | some session =>
          rw [fetchSummary_eq known]
          refine ⟨rfl, fun summary fetched => ⟨session, ?_, (Except.ok.inj fetched).symm⟩⟩
          obtain ⟨read, isRead, found⟩ := Option.bind_eq_some_iff.mp known
          rw [← bearerToken_sent isRead]
          exact (AuthService.lookup_eq_some.mp found).1

end Fetch

/-! ## What a summary blocks for -/

/-- The leader would block the member for the same reason. -/
def Stands (machine : String) (block : PreflightBlock) (leader : ApiState UInt64) : Prop :=
  leader.auth.isMemberBanned machine = true ∨
    ∃ limit, block = .quotaExceeded limit ∧
      leader.quota.check machine (leader.usage.used machine) = .error ⟨limit⟩

section Stands

variable {machine : String} {block : PreflightBlock} {before after : ApiState UInt64}

theorem not_below_of_check {quota : QuotaService} {used : UInt64} {exceeded : QuotaExceeded}
    (refused : quota.check machine used = .error exceeded) : ¬ quota.Below machine used := by
  intro below
  rw [QuotaService.check_eq_ok.mpr below] at refused
  cases refused

theorem lookup_of_check {quota : QuotaService} {used limit : UInt64}
    (refused : quota.check machine used = .error ⟨limit⟩) :
    quota.lookup machine = some limit ∧ limit ≠ 0 := by
  unfold QuotaService.check at refused
  cases limited : quota.lookup machine with
  | none =>
      rw [limited] at refused
      cases refused
  | some stored =>
      simp only [limited] at refused
      split at refused
      · next reached =>
        cases refused
        have positive := of_decide_eq_true ((Bool.and_eq_true _ _).mp reached).1
        exact ⟨rfl, Ne.symm (UInt64.ne_of_lt positive)⟩
      · cases refused

/-- Setting the limit that there is, or that of another member, keeps the limit. -/
theorem lookup_set_of_same {quota : QuotaService} {memberId : String} {limit stored : UInt64}
    (limited : quota.lookup machine = some stored) (positive : stored ≠ 0)
    (same : memberId = machine → limit = stored) :
    (quota.set memberId limit).lookup machine = some stored := by
  apply Option.some.inj
  rw [lookup_quotaSet ⟨memberId, limit⟩ quota machine, QuotaCall.leaves]
  by_cases own : memberId = machine
  · simp [own, same own, positive]
  · simp [own, limited]

/-- A larger total is over the limit that a smaller one is over. -/
theorem check_error_of_le {quota : QuotaService} {less more : UInt64} (le : less ≤ more)
    {exceeded : QuotaExceeded} (refused : quota.check machine less = .error exceeded) :
    quota.check machine more = .error exceeded := by
  have grows : (⟨less, false⟩ : Numbers.Word).value ≤ (⟨more, false⟩ : Numbers.Word).value := le
  exact check_error_mono grows refused

theorem Stands.mono (stands : Stands machine block before)
    (banned : machine ∈ before.auth.banned → machine ∈ after.auth.banned)
    (quota : after.quota.lookup machine = before.quota.lookup machine)
    (used : ¬ before.quota.Below machine (before.usage.used machine) →
      before.usage.used machine ≤ after.usage.used machine) : Stands machine block after := by
  rcases stands with isBanned | ⟨limit, isQuota, refused⟩
  · exact Or.inl (decide_eq_true (banned (of_decide_eq_true isBanned)))
  · refine Or.inr ⟨limit, isQuota, ?_⟩
    have still := check_error_of_le (used (not_below_of_check refused)) refused
    unfold QuotaService.check at still ⊢
    rw [quota]
    exact still

theorem Stands.authToken (stands : Stands machine block before) (host : Host) (now : UInt64)
    (genToken : String) (dropped issued : WriteOutcome) (ip : String) (body : Json) :
    Stands machine block (authToken host now genToken dropped issued ip body before).2 := by
  have bans := sameBans_authToken host now genToken dropped issued ip body before
  obtain ⟨auth, members, after⟩ := authToken_frame host now genToken dropped issued ip body before
  rw [after] at bans ⊢
  refine stands.mono ?_ rfl fun _ => UInt64.le_refl _
  rw [bans.banned]
  exact id

end Stands

/-! ## The panel lifts a block -/

/-- The panel unbans the member, or sets another quota for it. -/
def MirrorEvent.Lifts (machine : String) : MirrorEvent → ApiState UInt64 → Prop
  | .control call, _ => call.Unbans machine
  | .quota _ body, api => body.textOr "memberId" "" = machine ∧
      ((body.get? "quota").bind Json.asU64?).getD 0 ≠ (api.quota.lookup machine).getD 0
  | _, _ => False

/-- New tokens have no blanks around them and differ from the one that a fetch has got, and
the member's total does not overflow. -/
def MirrorEvent.Regular (machine : String) : MirrorEvent → MirrorWorld → Prop
  | .channel call, world =>
      Text.trim call.genToken = call.genToken ∧ world.token ≠ some call.genToken
  | .join _ _ genToken _ _ _, _ => Text.trim genToken = genToken
  | .landed answer, world => answer.memberId = machine →
      (world.leader.api.usage.used machine).toNat + answer.tokens < 2 ^ 64
  | _, _ => True

/-- The panel lifts nothing while the gateway holds a summary that blocks. -/
def MirrorEvent.Fits (machine : String) (event : MirrorEvent) (world : MirrorWorld) : Prop :=
  event.Regular machine world ∧ (event.Lifts machine world.leader.api → ¬ world.cache.Blocks)

/-- Sessions are stored under their own tokens, and these have no blanks around them. -/
structure PlainTokens (sessions : HashMap Session) : Prop where
  keyed : AuthService.SessionsKeyed sessions
  trimmed (token : String) (session : Session) :
    sessions.lookup token = some session → Text.trim token = token

theorem PlainTokens.of_grants {before : AuthService} {machineName genToken : String}
    {answer : Except RuntimeError Session × AuthService} (plain : PlainTokens before.sessions)
    (grants : before.Grants machineName genToken answer)
    (generated : Text.trim genToken = genToken) : PlainTokens answer.2.sessions where
  keyed := grants.keyed plain.keyed
  trimmed token session found := by
    rcases grants.owners token session found with stored | ⟨rfl, -⟩
    · exact plain.trimmed token session stored
    · exact generated

/-- The token of a fetch is the machine's, and what the gateway blocks the leader does. -/
structure MirrorWorld.Sound (machine : String) (world : MirrorWorld) : Prop where
  plain : PlainTokens world.leader.api.auth.sessions
  token (token : String) : world.token = some token → Text.trim token = token ∧
    ∀ session, world.leader.api.auth.sessions.lookup token = some session →
      session.memberId = machine
  stands (summary : StrategySummary) (block : PreflightBlock) : world.cache.Holds summary →
    preflightBlock summary = some block → Stands machine block world.leader.api

namespace MirrorWorld.Sound

variable {host : Host} {machine : String} {world : MirrorWorld}

/-- The leader goes on, and lifts nothing of what the gateway holds. -/
theorem next (sound : world.Sound machine) {files : SwitchFiles} {leader : Running}
    (plain : PlainTokens leader.api.auth.sessions)
    (token : ∀ token session, world.token = some token →
      leader.api.auth.sessions.lookup token = some session →
        world.leader.api.auth.sessions.lookup token = some session)
    (stands : world.cache.Blocks → ∀ block, Stands machine block world.leader.api →
      Stands machine block leader.api) :
    MirrorWorld.Sound machine { world with files := files, leader := leader } where
  plain := plain
  token text isToken :=
    ⟨(sound.token text isToken).1, fun session found =>
      (sound.token text isToken).2 session (token text session isToken found)⟩
  stands summary block holds blocks := by
    have held : world.cache.Blocks := ⟨summary, holds, by rw [blocks]; exact Option.some_ne_none _⟩
    exact stands held block (sound.stands summary block holds blocks)

theorem channel (sound : world.Sound machine) (call : ChannelCall)
    (generated : Text.trim call.genToken = call.genToken)
    (fresh : world.token ≠ some call.genToken) :
    (world.step host machine (.channel call)).Sound machine := by
  have settings := (world.leader.receives call).sameSettings_step world.leader.api
  have auth := (world.leader.receives call).auth_step world.leader.api
  refine sound.next ?_ (fun text session isToken found => ?_) fun _ block stands =>
    stands.mono ?_ ?_ ?_
  · rcases auth with same | ⟨body, asked⟩
    · rw [same]
      exact sound.plain
    · rw [asked]
      exact sound.plain.of_grants (AuthService.grants_issueOrRotate ..) generated
  · rcases auth with same | ⟨body, asked⟩
    · rw [same] at found
      exact found
    · rw [asked] at found
      refine ((AuthService.grants_issueOrRotate ..).owners text session found).resolve_right ?_
      rintro ⟨rfl, -⟩
      exact fresh isToken
  · rw [settings.bans.banned]
    exact id
  · rw [settings.quota]
  · intro exceeded
    rw [(world.leader.receives call).used_step exceeded]
    exact UInt64.le_refl _

theorem control (sound : world.Sound machine) (call : ControlCall)
    (fits : call.Unbans machine → ¬ world.cache.Blocks) :
    (world.step host machine (.control call)).Sound machine := by
  have spares := call.spares_apiControl world.files world.leader
  have steps : world.step host machine (.control call) =
      { world with
        files := (call.apiControl world.files world.leader).2.1
        leader := (call.apiControl world.files world.leader).2.2 } := rfl
  rw [steps]
  refine sound.next ?_ (fun text session isToken found => ?_) fun held block stands =>
    stands.mono ?_ ?_ ?_
  · rw [spares.sessions]
    exact sound.plain
  · rw [spares.sessions] at found
    exact found
  · exact fun isBanned => spares.banned machine isBanned fun unbans => fits unbans held
  · rw [spares.quota]
  · intro _
    rw [spares.usage]
    exact UInt64.le_refl _

theorem quota (sound : world.Sound machine) (panel : Host) (body : Json)
    (fits : MirrorEvent.Lifts machine (.quota panel body) world.leader.api →
      ¬ world.cache.Blocks) :
    (world.step host machine (.quota panel body)).Sound machine := by
  refine sound.next ?_ (fun text session isToken found => ?_) fun held block stands => ?_
  · rw [apiQuotaSet]
    simp only
    split <;> exact sound.plain
  · rw [apiQuotaSet] at found
    simp only at found
    split at found <;> exact found
  · rw [apiQuotaSet]
    simp only
    split
    · exact stands
    · rcases stands with isBanned | ⟨limit, isQuota, refused⟩
      · exact Or.inl isBanned
      · obtain ⟨limited, positive⟩ := lookup_of_check refused
        refine Stands.mono (Or.inr ⟨limit, isQuota, refused⟩) id ?_ fun _ => UInt64.le_refl _
        rw [limited]
        refine lookup_set_of_same limited positive fun own => ?_
        by_contra differs
        refine fits ⟨own, ?_⟩ held
        rw [limited, Option.getD_some]
        exact differs

theorem landed (sound : world.Sound machine) (answer : Answer)
    (room : answer.memberId = machine →
      (world.leader.api.usage.used machine).toNat + answer.tokens < 2 ^ 64) :
    (world.step host machine (.landed answer)).Sound machine :=
  sound.next sound.plain (fun _ _ _ found => found) fun _ _ stands =>
    stands.mono id rfl fun _ => used_le_apply room

theorem join (sound : world.Sound machine) (delivery : Delivery) (now : UInt64)
    (genToken : String) (dropped issued : WriteOutcome) (ip : String)
    (generated : Text.trim genToken = genToken) :
    (world.step host machine (.join delivery now genToken dropped issued ip)).Sound machine := by
  have arrives := leader_fetchToken host machine now genToken dropped issued ip world.leader.api
    delivery
  have grants := AuthService.grants_issueOrRotate now genToken dropped issued ip
    (joinBody machine) world.leader.api.auth
  have steps : world.step host machine (.join delivery now genToken dropped issued ip) =
      { world with
        leader := { world.leader with
          api := (fetchToken host.serde
            (Ask.through delivery (askLeader host now genToken dropped issued ip)) machine
            world.leader.api).2 }
        token := (fetchToken host.serde
          (Ask.through delivery (askLeader host now genToken dropped issued ip)) machine
          world.leader.api).1.toOption } := rfl
  have plain : PlainTokens (world.step host machine
      (.join delivery now genToken dropped issued ip)).leader.api.auth.sessions := by
    rw [steps]
    rcases arrives with same | asked
    · rw [same]
      exact sound.plain
    · rw [asked]
      rcases auth_authToken host now genToken dropped issued ip (joinBody machine)
        world.leader.api with same | asked
      · rw [same]
        exact sound.plain
      · rw [asked]
        exact sound.plain.of_grants grants generated
  refine ⟨plain, fun token isToken => ?_, fun summary block holds blocks => ?_⟩
  · rw [steps] at isToken
    obtain ⟨session, granted, sent, auth⟩ := session_of_fetchToken (toOption_eq_some isToken)
    obtain ⟨own, found⟩ := grants.granted session granted
    have stored := found sound.plain.keyed
    rw [← auth, sent] at stored
    refine ⟨plain.trimmed _ session stored, fun other isOther => ?_⟩
    rw [Option.some.inj (isOther.symm.trans stored)]
    exact own
  · have stands := sound.stands summary block holds blocks
    rw [steps]
    rcases arrives with same | asked
    · rw [same]
      exact stands
    · rw [asked]
      exact stands.authToken host now genToken dropped issued ip (joinBody machine)

theorem pull (sound : world.Sound machine) (delivery : Delivery) (now fetchedAt : UInt64)
    (invalid : String) (written : WriteOutcome) :
    (world.step host machine (.pull delivery now fetchedAt invalid written)).Sound machine := by
  cases isToken : world.token with
  | none =>
      have stays : world.step host machine (.pull delivery now fetchedAt invalid written) =
          world := by
        rw [MirrorWorld.step, MirrorWorld.pullOver, isToken]
      rw [stays]
      exact sound
  | some token =>
      obtain ⟨trimmed, own⟩ := sound.token token isToken
      have asked := fetchSummary_cases host now "" .done .done "" world.leader.api delivery
        fetchedAt invalid token
      generalize isFetched : fetchSummary host.serde
        (Ask.through delivery (askLeader host now "" .done .done "")) fetchedAt invalid token
        world.leader.api = fetched at asked
      obtain ⟨leader, brings⟩ := asked
      have steps : world.step host machine (.pull delivery now fetchedAt invalid written) =
          { world with
            token := none
            cache := match fetched.1 with
              | .ok summary => world.cache.set written summary
              | .error _ => world.cache } := by
        rw [MirrorWorld.step, MirrorWorld.pullOver, isToken]
        simp only [isFetched, leader]
      rw [steps]
      refine ⟨sound.plain, (fun _ isOther => by cases isOther),
        fun summary block holds blocks => ?_⟩
      cases answer : fetched.1 with
      | error message =>
          simp only [answer] at holds
          exact sound.stands summary block holds blocks
      | ok fresh =>
          simp only [answer] at holds
          rcases StrategyCache.holds_set holds with rfl | held
          · obtain ⟨session, found, rfl⟩ := brings summary answer
            rw [trimmed] at found
            have stands := reason_of_preflightBlock blocks
            rw [own session found] at stands
            exact stands
          · exact sound.stands summary block held blocks

theorem reopened (sound : world.Sound machine) :
    (world.step host machine .reopened).Sound machine where
  plain := sound.plain
  token _ isToken := by cases isToken
  stands summary block holds blocks :=
    sound.stands summary block (Or.inr (StrategyCache.holds_new holds)) blocks

theorem step (sound : world.Sound machine) {event : MirrorEvent}
    (fits : event.Fits machine world) : (world.step host machine event).Sound machine := by
  cases event with
  | channel call => exact sound.channel call fits.1.1 fits.1.2
  | control call => exact sound.control call fits.2
  | quota panel body => exact sound.quota panel body fits.2
  | landed answer => exact sound.landed answer fits.1
  | join delivery now genToken dropped issued ip =>
      exact sound.join delivery now genToken dropped issued ip fits.1
  | pull delivery now fetchedAt invalid written =>
      exact sound.pull delivery now fetchedAt invalid written
  | reopened => exact sound.reopened

/-- What the gateway blocks of the machine's own requests the leader would reject. -/
theorem leaderRejects (sound : world.Sound machine) {now : UInt64} {headers : HeaderMap}
    (own : ∀ member, ownerOf now headers world.leader.api = some member → member = machine)
    {gateway : MemberGateway} {block : PreflightBlock}
    (blocks : ClientState.preflight ⟨gateway, world.cache.inner⟩ = some block) :
    LeaderRejects host now headers world.leader.api block := by
  obtain ⟨summary, held, isBlock⟩ := Option.bind_eq_some_iff.mp blocks
  refine leaderRejects_of_reason fun member isOwner => ?_
  rw [own member isOwner]
  exact sound.stands summary block (Or.inl held) isBlock

end MirrorWorld.Sound

/-! ## Every run -/

/--
However old a mirrored strategy is, it blocks none of the machine's own requests that the
leader would admit.  This holds in every state of every run of a gateway and its leader: other
members ask and join, the panel bans, renames, pauses and sets quotas, answers that were on
their way arrive, fetches fail or are interrupted, and the gateway starts again from its file;
as long as the panel does not lift the member's ban or change its quota while the gateway, in
memory or in its file, has a summary that blocks, new tokens are regular and the member's
total does not overflow.
-/
theorem aged_mirror_blocks_rightly {host : Host} {machine : String} {world : MirrorWorld}
    (plain : PlainTokens world.leader.api.auth.sessions) (unfetched : world.cache = {})
    (idle : world.token = none) {events : List MirrorEvent}
    (fitting : Systems.EventRuns.Fitting (MirrorWorld.step host machine)
      (MirrorEvent.Fits machine) events world) :
    Systems.EventRuns.Throughout (MirrorWorld.step host machine)
      (fun world => ∀ now headers gateway block,
        (∀ member, ownerOf now headers world.leader.api = some member → member = machine) →
          ClientState.preflight ⟨gateway, world.cache.inner⟩ = some block →
            LeaderRejects host now headers world.leader.api block) events world := by
  have starts : world.Sound machine :=
    { plain := plain
      token := fun _ isToken => by
        rw [idle] at isToken
        cases isToken
      stands := fun summary block holds _ => by
        rw [unfetched] at holds
        rcases holds with held | held <;> cases held }
  refine (Systems.EventRuns.throughout_of_fitting
    (fun event world fits (sound : world.Sound machine) => sound.step fits) fitting starts).imp ?_
  intro world sound now headers gateway block own blocks
  exact sound.leaderRejects own blocks

theorem PlainTokens.empty : PlainTokens ∅ where
  keyed := AuthService.SessionsKeyed.empty
  trimmed token session found := by simp at found

theorem PlainTokens.insert {sessions : HashMap Session} (plain : PlainTokens sessions)
    (session : Session) (trimmed : Text.trim session.token = session.token) :
    PlainTokens (sessions.insert session.token session) where
  keyed := plain.keyed.insert session
  trimmed token stored found := by
    by_cases same : token = session.token
    · rw [same]
      exact trimmed
    · rw [AList.lookup_insert_ne same] at found
      exact plain.trimmed token stored found

/-- A leader who has banned the machine, and a gateway that has never asked it. -/
def bannedWorld : MirrorWorld where
  files := {}
  leader := ⟨machineBanned "pc-1" "pc-2", .off⟩

/-- The gateway fetches its strategy and starts again. -/
def fetchedOnce : List MirrorEvent :=
  [.join .answered 2000 "" .done .done "", .pull .answered 2000 0 "" .done, .reopened]

theorem final_fetchedOnce :
    Systems.EventRuns.final (MirrorWorld.step Host.compact "pc-1") fetchedOnce bannedWorld =
      { bannedWorld with
        leader := ⟨machineSeen "pc-1" "pc-2", .off⟩
        cache := .new (some (summaryOf "pc-1" (machineSeen "pc-1" "pc-2"))) } := by
  have joined : bannedWorld.step Host.compact "pc-1" (.join .answered 2000 "" .done .done "") =
      { bannedWorld with
        leader := ⟨machineSeen "pc-1" "pc-2", .off⟩
        token := some "token-1" } := by
    have fetched : fetchToken Host.compact.serde
        (Ask.through .answered (askLeader Host.compact 2000 "" .done .done "")) "pc-1"
        bannedWorld.leader.api = (.ok "token-1", machineSeen "pc-1" "pc-2") :=
      fetchToken_machineBanned Host.compact "pc-2" (by decide)
    simp only [MirrorWorld.step, MirrorWorld.joinOver, fetched]
    rfl
  have known : (machineSeen "pc-1" "pc-2").sessionOf 2000
      (authHeaders (some ("Bearer " ++ "token-1"))) =
        some ⟨"token-1", "pc-1", "pc-1", "pc-1", 4600, 1000⟩ := rfl
  have pulled : fetchSummary Host.compact.serde
      (Ask.through .answered (askLeader Host.compact 2000 "" .done .done "")) 0 "" "token-1"
      (machineSeen "pc-1" "pc-2") =
        (.ok (summaryOf "pc-1" (machineSeen "pc-1" "pc-2")), machineSeen "pc-1" "pc-2") :=
    fetchSummary_eq known 0 ""
  rw [fetchedOnce, Systems.EventRuns.final_cons, joined]
  simp only [Systems.EventRuns.final_cons, Systems.EventRuns.final_nil, MirrorWorld.step,
    MirrorWorld.pullOver, pulled]
  rfl

theorem aged_mirror_blocks_rightly_banned :
    LeaderRejects Host.compact 2000 smallHeaders (machineSeen "pc-1" "pc-2") .banned := by
  have plain : PlainTokens bannedWorld.leader.api.auth.sessions :=
    (PlainTokens.empty.insert ⟨"token-2", "pc-2", "pc-2", "pc-2", 4600, 1000⟩ rfl).insert
      ⟨"token-1", "pc-1", "pc-1", "pc-1", 4600, 1000⟩ rfl
  have fitting : Systems.EventRuns.Fitting (MirrorWorld.step Host.compact "pc-1")
      (MirrorEvent.Fits "pc-1") fetchedOnce bannedWorld :=
    ⟨⟨rfl, fun lifts => lifts.elim⟩, ⟨trivial, fun lifts => lifts.elim⟩,
      ⟨trivial, fun lifts => lifts.elim⟩, trivial⟩
  have last := (aged_mirror_blocks_rightly plain rfl rfl fitting).last
  rw [final_fetchedOnce] at last
  exact last 2000 smallHeaders ⟨[], none, .off⟩ .banned
    (fun _ isOwner => (Option.some.inj isOwner).symm) rfl

end AiPowerGateway.Cli

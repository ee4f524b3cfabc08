import AiPowerGateway.Cli.MemberRoutes
import AiPowerGateway.Encodings.Fnv
import AiPowerGateway.Json.Schema
import AiPowerGateway.Share.AuthEvents
import AiPowerGateway.Share.BanBookkeeping

/-!
# The preflight against the leader

The leader sends each member a summary of its own standing.  The gateway of a machine
fetches the one of the machine, and holds it against every request that comes along,
whoever's token the request carries.
-/

namespace AiPowerGateway.Share

/-! ## The summary that the leader sends -/

open Fnv (absorbAll)

/-- The bytes of a number, the lowest first. -/
def toLeBytes (number : UInt64) : List UInt8 :=
  (List.range 8).map fun index => (number >>> UInt64.ofNat (8 * index)).toUInt8

def strategyVersion (rules : List String) (limit : UInt64) (banned : Bool) : UInt64 :=
  let names := rules.foldl (fun hash rule => absorbAll (absorbAll hash (Text.utf8 rule)) [0xff])
    0xcbf29ce484222325
  absorbAll (absorbAll names (toLeBytes limit)) [if banned then 99 else 98]

/-- What the leader knows of a member's standing. -/
def strategyJson (memberId : String) (state : ApiState UInt64) : Json :=
  let rules := state.rules.ruleNames
  let limit := (state.quota.lookup memberId).getD 0
  let banned := state.auth.isMemberBanned memberId
  .obj [("version", .num (.posInt (strategyVersion rules limit banned))),
    ("rules", Json.ofList .str rules),
    ("quota", .obj [("limit", .num (.posInt limit)),
      ("used", .num (.posInt (state.usage.used memberId)))]),
    ("banned", .bool banned)]

/-- The session of a request's token; a ban does not matter here. -/
def ApiState.sessionOf (now : UInt64) (headers : HeaderMap) (state : ApiState UInt64) :
    Option Session :=
  (bearerToken headers).bind fun token => state.auth.lookup now token

def apiStrategyMe (host : Host) (now : UInt64) (headers : HeaderMap) (state : ApiState UInt64) :
    Reply :=
  match state.sessionOf now headers with
  | none => Refusal.unauthorized.reply host
  | some session => jsonReply host 200 (strategyJson session.memberId state)

end AiPowerGateway.Share

namespace AiPowerGateway.Cli

open Share LanClient
open Json (field? toList? record? member?)

/-! ## Fetching it -/

def QuotaSnapshot.ofJson? (value : Json) : Option QuotaSnapshot := do
  let record ← record? 2 value
  let limit ← member? record 0 "limit" none Json.asU64?
  let used ← member? record 1 "used" none Json.asU64?
  some ⟨limit, used⟩

def StrategySummary.ofJson? (value : Json) : Option StrategySummary := do
  let record ← record? 5 value
  let version ← member? record 0 "version" none Json.asU64?
  let rules ← member? record 1 "rules" none (toList? Json.asStr?)
  let quota ← member? record 2 "quota" none QuotaSnapshot.ofJson?
  let banned ← member? record 3 "banned" none Json.asBool?
  let fetchedAt ← member? record 4 "fetchedAt" (some 0) Json.asU64?
  some ⟨version, rules, quota, banned, fetchedAt⟩

/-- How a gateway asks its leader: a path, the authorization and the body that it sends. -/
abbrev Ask (σ : Type) :=
  String → Option String → Option Json → σ → Except String (Nat × String) × σ

section Fetch

variable {σ : Type} (serde : SerdeJson) (ask : Ask σ)

/-- The first half of `fetch_strategy`: a token for this machine. -/
def fetchToken (machineName : String) (leader : σ) : Except String String × σ :=
  match ask "/auth/token" none (some (.obj [("machineName", .str machineName),
      ("displayName", .str machineName)])) leader with
  | (.error message, leader) => (.error message, leader)
  | (.ok (status, text), leader) =>
      if status ≠ 200 then (.error ("auth token status " ++ toString status), leader)
      else
        (match serde.fromStr text with
        | .error message => .error message
        | .ok answer =>
            match answer.text? "token" with
            | some token => .ok token
            | none => .error "auth token missing in response", leader)

/-- The second half: the summary for the token; `invalid` is how the text fails to be one. -/
def fetchSummary (fetchedAt : UInt64) (invalid token : String) (leader : σ) :
    Except String StrategySummary × σ :=
  match ask "/api/strategy/me" (some ("Bearer " ++ token)) none leader with
  | (.error message, leader) => (.error message, leader)
  | (.ok (status, text), leader) =>
      if status ≠ 200 then (.error ("strategy status " ++ toString status), leader)
      else
        (match serde.fromStr text with
        | .error message => .error message
        | .ok answer =>
            match StrategySummary.ofJson? answer with
            | some summary => .ok { summary with fetchedAt := fetchedAt }
            | none => .error invalid, leader)

def fetchStrategy (fetchedAt : UInt64) (invalid machineName : String) (leader : σ) :
    Except String StrategySummary × σ :=
  match fetchToken serde ask machineName leader with
  | (.error message, leader) => (.error message, leader)
  | (.ok token, leader) => fetchSummary serde ask fetchedAt invalid token leader

end Fetch

/-! ## The leader behind the gateway -/

/-- The headers by which a leader recognizes a forwarded request. -/
def authHeaders (auth : Option String) : HeaderMap :=
  auth.toList.map fun value => ("authorization", Text.utf8 value)

/-- What the leader makes of the two requests, for a client at the address `ip`. -/
def askLeader (host : Host) (now : UInt64) (genToken : String) (dropped issued : WriteOutcome)
    (ip : String) : Ask (ApiState UInt64) :=
  fun path auth body leader =>
    if path = "/auth/token" then
      let (reply, after) :=
        authToken host now genToken dropped issued ip (body.getD .null) leader
      (.ok (reply.status, reply.body), after)
    else if path = "/api/strategy/me" then
      let reply := apiStrategyMe host now (authHeaders auth) leader
      (.ok (reply.status, reply.body), leader)
    else (.ok (404, ""), leader)

/--
The gateway of a machine obtained the summary from the leader, whom the fetch left in the
given state: the leader answered the machine's own session.
-/
def Obtained (host : Host) (machine : String) (summary : StrategySummary)
    (leader : ApiState UInt64) : Prop :=
  ∃ now genToken dropped issued ip fetchedAt invalid before token session,
    fetchToken host.serde (askLeader host now genToken dropped issued ip) machine before =
        (.ok token, leader) ∧
      fetchStrategy host.serde (askLeader host now genToken dropped issued ip) fetchedAt invalid
          machine before = (.ok summary, leader) ∧
      leader.sessionOf now (authHeaders (some ("Bearer " ++ token))) = some session ∧
      session.memberId = machine

/-- The member whose token a local request carries, as the leader sees it. -/
def ownerOf (now : UInt64) (headers : HeaderMap) (leader : ApiState UInt64) : Option String :=
  (leader.sessionOf now (authHeaders (headers.text? "authorization"))).map Session.memberId

/--
The leader rejects the forwarded request on both endpoints, whatever its body: its token
has no session, or the member is banned, or over the limit that the block names.
-/
structure LeaderRejects (host : Host) (now : UInt64) (headers : HeaderMap)
    (leader : ApiState UInt64) (block : PreflightBlock) : Prop where
  reason : ∀ member, ownerOf now headers leader = some member →
    leader.auth.isMemberBanned member = true ∨
      ∃ limit, block = .quotaExceeded limit ∧
        leader.quota.check member (leader.usage.used member) = .error ⟨limit⟩
  chat : ∀ body, ∃ refusal, (chatGate host now leader
    (authHeaders (headers.text? "authorization")) body).1 = .error refusal
  messages : ∀ raw, ∃ refusal, (messagesGate host now leader
    (authHeaders (headers.text? "authorization")) raw).1 = .error refusal

/--
With whatever summary the gateway of the machine obtained, what the preflight blocks of
the requests of this owner the leader would reject.
-/
def PreflightAgrees (host : Host) (machine : String) (owner : Option String) : Prop :=
  ∀ summary leader, Obtained host machine summary leader →
    ∀ now headers gateway block, ownerOf now headers leader = owner →
      ClientState.preflight ⟨gateway, some summary⟩ = some block →
      LeaderRejects host now headers leader block

/-! ## What a summary says -/

theorem fractionFreeItems_map_str (texts : List String) :
    Json.fractionFreeItems (texts.map .str) = true := by
  induction texts with
  | nil => rfl
  | cons text rest ih => exact ih

theorem fractionFree_strategyJson (memberId : String) (leader : ApiState UInt64) :
    (strategyJson memberId leader).fractionFree = true := by
  have rules := fractionFreeItems_map_str leader.rules.ruleNames
  simp [strategyJson, Json.ofList, Json.fractionFree, Json.fractionFreeFields, rules]

/-- The summary of a member reads back from what the leader sends. -/
def summaryOf (memberId : String) (leader : ApiState UInt64) : StrategySummary :=
  let rules := leader.rules.ruleNames
  let limit := (leader.quota.lookup memberId).getD 0
  let banned := leader.auth.isMemberBanned memberId
  { version := strategyVersion rules limit banned
    rules := rules
    quota := ⟨limit, leader.usage.used memberId⟩
    banned := banned }

theorem ofJson?_strategyJson (memberId : String) (leader : ApiState UInt64) :
    StrategySummary.ofJson? (strategyJson memberId leader) =
      some (summaryOf memberId leader) := by
  have rules : toList? Json.asStr? (Json.ofList .str leader.rules.ruleNames) =
      some leader.rules.ruleNames := Json.toList?_ofList Json.asStr?_str _
  simp [StrategySummary.ofJson?, QuotaSnapshot.ofJson?, strategyJson, field?, rules, summaryOf]

section Answered

variable {host : Host} {now : UInt64} {genToken : String} {dropped issued : WriteOutcome}
  {ip : String} {leader : ApiState UInt64}

/-- What the gateway reads is the standing of the member whose session the leader finds. -/
theorem fetchSummary_eq {token : String} {session : Session}
    (known : leader.sessionOf now (authHeaders (some ("Bearer " ++ token))) = some session)
    (fetchedAt : UInt64) (invalid : String) :
    fetchSummary host.serde (askLeader host now genToken dropped issued ip) fetchedAt invalid
        token leader =
      (.ok { summaryOf session.memberId leader with fetchedAt := fetchedAt }, leader) := by
  have notToken : "/api/strategy/me" ≠ "/auth/token" := by decide
  have answer : host.serde.fromStr (host.serde.toString (strategyJson session.memberId leader)) =
      .ok (strategyJson session.memberId leader) :=
    host.serde.fromStr_toString _ (fractionFree_strategyJson _ _)
  simp only [fetchSummary, askLeader, if_neg notToken, if_true, apiStrategyMe, known, jsonReply,
    answer, ofJson?_strategyJson]
  simp

/-- A block of the member's own summary is what the leader knows of the member. -/
theorem reason_of_preflightBlock {memberId : String} {fetchedAt : UInt64}
    {block : PreflightBlock}
    (blocks : preflightBlock { summaryOf memberId leader with fetchedAt := fetchedAt } =
      some block) :
    leader.auth.isMemberBanned memberId = true ∨
      ∃ limit, block = .quotaExceeded limit ∧
        leader.quota.check memberId (leader.usage.used memberId) = .error ⟨limit⟩ := by
  unfold preflightBlock summaryOf at blocks
  dsimp only at blocks
  split at blocks
  · next banned => exact Or.inl banned
  · split at blocks
    · next full =>
        obtain ⟨positive, reached⟩ := full
        cases set : leader.quota.lookup memberId with
        | none =>
            rw [set] at positive
            exact absurd positive (by decide)
        | some limit =>
            rw [set, Option.getD_some] at positive reached blocks
            refine Or.inr ⟨limit, (Option.some.inj blocks).symm, ?_⟩
            have atLeast : Counter.atLeast (leader.usage.used memberId) limit = true :=
              decide_eq_true reached
            simp [QuotaService.check, set, positive, atLeast]
    · cases blocks

/-- The block of a summary that was obtained is about the machine. -/
theorem reason_of_obtained {machine : String} {summary : StrategySummary}
    (obtained : Obtained host machine summary leader) {gateway : MemberGateway}
    {block : PreflightBlock}
    (blocks : ClientState.preflight ⟨gateway, some summary⟩ = some block) :
    leader.auth.isMemberBanned machine = true ∨
      ∃ limit, block = .quotaExceeded limit ∧
        leader.quota.check machine (leader.usage.used machine) = .error ⟨limit⟩ := by
  obtain ⟨now, genToken, dropped, issued, ip, fetchedAt, invalid, before, token, session,
    joined, fetched, known, rfl⟩ := obtained
  rw [fetchStrategy, joined] at fetched
  dsimp only at fetched
  rw [fetchSummary_eq known] at fetched
  obtain ⟨same, -⟩ := Prod.mk.inj fetched
  obtain rfl := Except.ok.inj same
  exact reason_of_preflightBlock blocks

end Answered

/-! ## What the leader does -/

section Rejects

variable {host : Host} {now : UInt64} {headers : HeaderMap} {leader : ApiState UInt64}
  {block : PreflightBlock}

theorem chatGate_refuses
    (reason : ∀ member, ownerOf now headers leader = some member →
      leader.auth.isMemberBanned member = true ∨
        ∃ limit, block = .quotaExceeded limit ∧
          leader.quota.check member (leader.usage.used member) = .error ⟨limit⟩)
    (body : Json) :
    ∃ refusal, (chatGate host now leader (authHeaders (headers.text? "authorization")) body).1 =
      .error refusal := by
  unfold chatGate
  split
  · exact ⟨_, rfl⟩
  · cases presented : bearerToken (authHeaders (headers.text? "authorization")) with
    | none => exact ⟨_, rfl⟩
    | some token =>
        dsimp only
        cases verified : leader.auth.verify now token with
        | none => exact ⟨_, rfl⟩
        | some session =>
            obtain ⟨found, live, free⟩ := verify_eq_some.mp verified
            have owner : ownerOf now headers leader = some session.memberId := by
              rw [ownerOf, ApiState.sessionOf, presented, Option.bind_some,
                AuthService.lookup_eq_some.mpr ⟨found, live⟩]
              rfl
            rcases reason session.memberId owner with banned | ⟨limit, -, exceeded⟩
            · exact absurd (of_decide_eq_true banned) free
            · dsimp only
              have seen : (leader.seen now session).quota.check session.memberId
                  ((leader.seen now session).usage.used session.memberId) = .error ⟨limit⟩ :=
                exceeded
              rw [seen]
              exact ⟨_, rfl⟩

theorem leaderRejects_of_reason
    (reason : ∀ member, ownerOf now headers leader = some member →
      leader.auth.isMemberBanned member = true ∨
        ∃ limit, block = .quotaExceeded limit ∧
          leader.quota.check member (leader.usage.used member) = .error ⟨limit⟩) :
    LeaderRejects host now headers leader block where
  reason := reason
  chat := chatGate_refuses reason
  messages raw := by
    cases parsed : host.serde.fromSlice raw with
    | none =>
        obtain ⟨refusal, members, answer⟩ := messagesGate_unparsed now leader
          (authHeaders (headers.text? "authorization")) parsed
        exact ⟨refusal, by rw [answer]⟩
    | some body =>
        obtain ⟨refusal, refused⟩ :
            ∃ refusal, (chatGate host now leader
              (authHeaders (headers.text? "authorization")) body).1 = .error refusal :=
          chatGate_refuses reason body
        refine ⟨refusal, ?_⟩
        rw [messagesGate_parsed _ _ _ parsed, refused]
        rfl

end Rejects

/-! ## Whose requests the preflight may block -/

/-- The machine is banned, and another member has a session as well. -/
def machineBanned (machine other : String) : ApiState UInt64 :=
  { smallService [] [] with
    auth :=
      { (smallService [] []).auth with
        sessions := ((∅ : HashMap Session).insert "token-2"
          ⟨"token-2", other, other, other, 4600, 1000⟩).insert "token-1"
            ⟨"token-1", machine, machine, machine, 4600, 1000⟩
        banned := {machine} } }

/-- The leader after the machine has asked for its token. -/
def machineSeen (machine other : String) : ApiState UInt64 :=
  { machineBanned machine other with
    members := (machineBanned machine other).members.upsert machine machine "" 2000 }

def otherHeaders : HeaderMap := [("authorization", Text.utf8 "Bearer token-2")]

section Banned

variable (host : Host) {machine : String} (other : String)

theorem liveSession_machineBanned :
    (machineBanned machine other).auth.liveSession 2000 machine =
      some ⟨"token-1", machine, machine, machine, 4600, 1000⟩ := by
  have live : (2000 : UInt64) < 4600 := by decide
  have values : (machineBanned machine other).auth.sessions.values =
      [⟨"token-1", machine, machine, machine, 4600, 1000⟩,
        ⟨"token-2", other, other, other, 4600, 1000⟩] := rfl
  simp [AuthService.liveSession, values, live]

theorem fetchToken_machineBanned (named : machine ≠ "") :
    fetchToken host.serde (askLeader host 2000 "" .done .done "") machine
        (machineBanned machine other) =
      (.ok "token-1", machineSeen machine other) := by
  have asked : (Json.obj [("machineName", .str machine), ("displayName", .str machine)]).textOr
      "machineName" "" = machine := rfl
  have joins : authToken host 2000 "" .done .done "" (.obj [("machineName", .str machine),
      ("displayName", .str machine)]) (machineBanned machine other) =
        (jsonReply host 200 (.obj [("token", .str "token-1"), ("expiresAt", .num (.posInt 4600))]),
          machineSeen machine other) := by
    have issued : issueOrRotate 2000 "" .done .done "" (.obj [("machineName", .str machine),
        ("displayName", .str machine)]) (machineBanned machine other).auth =
          (.ok ⟨"token-1", machine, machine, machine, 4600, 1000⟩,
            (machineBanned machine other).auth) := by
      have issues : issueOrRotate 2000 "" .done .done "" (.obj [("machineName", .str machine),
          ("displayName", .str machine)]) (machineBanned machine other).auth =
            (machineBanned machine other).auth.issue 2000 "" .done machine machine "" := rfl
      rw [issues, AuthService.issue, liveSession_machineBanned]
    have sharing : (machineBanned machine other).sharing = true := rfl
    rw [authToken, if_neg (not_not.mpr sharing), issued]
    simp only [asked, if_neg named]
    rfl
  have answer : host.serde.fromStr (host.serde.toString (.obj [("token", .str "token-1"),
      ("expiresAt", .num (.posInt 4600))])) =
        .ok (.obj [("token", .str "token-1"), ("expiresAt", .num (.posInt 4600))]) :=
    host.serde.fromStr_toString _ rfl
  simp [fetchToken, askLeader, joins, jsonReply, answer, Json.text?]

theorem obtained_machineSeen (named : machine ≠ "") :
    Obtained host machine (summaryOf machine (machineSeen machine other))
      (machineSeen machine other) := by
  have known : (machineSeen machine other).sessionOf 2000
      (authHeaders (some ("Bearer " ++ "token-1"))) =
        some ⟨"token-1", machine, machine, machine, 4600, 1000⟩ := by
    have token : bearerToken (authHeaders (some ("Bearer " ++ "token-1"))) = some "token-1" := by
      decide
    rw [ApiState.sessionOf, token]
    rfl
  refine ⟨2000, "", .done, .done, "", 0, "", machineBanned machine other, "token-1", _,
    fetchToken_machineBanned host other named, ?_, known, rfl⟩
  rw [fetchStrategy, fetchToken_machineBanned host other named]
  dsimp only
  rw [fetchSummary_eq known]
  rfl

/-- Another member's requests are blocked while the machine is banned. -/
theorem eq_machine_of_agrees (named : machine ≠ "")
    (agrees : PreflightAgrees host machine (some other)) : other = machine := by
  have owned : ownerOf 2000 otherHeaders (machineSeen machine other) = some other := by
    have token : bearerToken (authHeaders (otherHeaders.text? "authorization")) =
        some "token-2" := by decide
    rw [ownerOf, ApiState.sessionOf, token]
    rfl
  have blocks : ClientState.preflight ⟨⟨[], none, .off⟩,
      some (summaryOf machine (machineSeen machine other))⟩ = some .banned := by
    have banned : (summaryOf machine (machineSeen machine other)).banned = true :=
      decide_eq_true (Finset.mem_singleton_self machine)
    exact if_pos banned
  rcases (agrees _ _ (obtained_machineSeen host other named) 2000 otherHeaders _ .banned owned
    blocks).reason other owned with banned | ⟨limit, isQuota, -⟩
  · exact Finset.mem_singleton.mp (of_decide_eq_true banned)
  · cases isQuota

end Banned

/--
The preflight blocks only what the leader would reject exactly for requests whose token
belongs to the machine itself, or to nobody.
-/
theorem preflight_agrees_iff (host : Host) (machine : String) (named : machine ≠ "")
    (owner : Option String) :
    PreflightAgrees host machine owner ↔ ∀ member, owner = some member → member = machine := by
  constructor
  · rintro agrees other rfl
    exact eq_machine_of_agrees host other named agrees
  · intro own summary leader obtained now headers gateway block owned blocks
    refine leaderRejects_of_reason fun member ofMember => ?_
    rw [own member (owned.symm.trans ofMember)]
    exact reason_of_obtained obtained blocks

/-- The machine's own requests are blocked as its leader would. -/
theorem preflight_agrees_machine :
    LeaderRejects Host.compact 2000 smallHeaders (machineSeen "pc-1" "pc-2") .banned := by
  have agrees : PreflightAgrees Host.compact "pc-1" (some "pc-1") :=
    (preflight_agrees_iff Host.compact "pc-1" (by decide) (some "pc-1")).mpr
      fun _ same => (Option.some.inj same).symm
  exact agrees _ _ (obtained_machineSeen Host.compact "pc-2" (by decide)) 2000 smallHeaders
    ⟨[], none, .off⟩ .banned rfl rfl

/-- A request of another member is blocked, and the leader would admit it. -/
theorem preflight_disagrees :
    ¬ ∀ (host : Host) (machine : String) (owner : Option String), machine ≠ "" →
      PreflightAgrees host machine owner := by
  intro alwaysAgrees
  have same := eq_machine_of_agrees Host.compact "pc-2" (by decide)
    (alwaysAgrees Host.compact "pc-1" (some "pc-2") (by decide))
  exact absurd same (by decide)

end AiPowerGateway.Cli

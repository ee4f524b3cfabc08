import AiPowerGateway.Share.Api

/-!
# The candidate loop

What the loop of `chat_completions` does with a list of candidates, each of which
is unroutable, fails, answers or panics: the first answer wins and is metered, and
when there is none the request fails and nothing is metered.
-/

namespace AiPowerGateway.Share

open Systems

variable {τ : Type}

/-! ## One candidate -/

/-- What becomes of a candidate at a position of the list. -/
inductive CandidateOutcome where
  | unroutable
  | failed (error : RuntimeError)
  | answered (providerLabel : String) (resp : Json)
  | panicked
  deriving DecidableEq

def CandidateOutcome.IsAnswer : CandidateOutcome → Prop
  | .answered _ _ => True
  | _ => False

def candidateOutcome (net : Nat → HttpOutcome) (state : ApiState τ) (fwd : Json) (index : Nat)
    (candidate : String) : CandidateOutcome :=
  match state.backends.route state.health candidate with
  | none => .unroutable
  | some (_, backend) =>
      match backend.chat fwd (net index) with
      | .ok resp => .answered backend.providerLabel resp
      | .err error => .failed error
      | .panicked => .panicked

/-- The turn of the loop under a rule set, or under none with the empty name. -/
def CandidateOutcome.turn (ruleSet candidate : String) :
    CandidateOutcome → FirstStop.Outcome String LoopEnd
  | .unroutable =>
      if ruleSet = "" then .stop .unavailable
      else .advance ("model not available: " ++ candidate)
  | .failed error => .advance ("backend error: " ++ error.display)
  | .answered providerLabel resp => .stop (.served candidate providerLabel resp)
  | .panicked => .stop .panicked

section Body

variable {net : Nat → HttpOutcome} {state : ApiState τ} {fwd : Json} {ruleSet candidate : String}
  {index : Nat}

/-- What the loop does with what becomes of a candidate. -/
theorem tryCandidate_eq :
    tryCandidate net state fwd ruleSet index candidate =
      (candidateOutcome net state fwd index candidate).turn ruleSet candidate := by
  unfold tryCandidate candidateOutcome
  cases state.backends.route state.health candidate with
  | none => rfl
  | some found =>
      simp only
      cases found.2.chat fwd (net index) <;> rfl

theorem tryCandidate_unroutable
    (outcome : candidateOutcome net state fwd index candidate = .unroutable) :
    tryCandidate net state fwd ruleSet index candidate =
      if ruleSet = "" then .stop .unavailable
      else .advance ("model not available: " ++ candidate) := by
  rw [tryCandidate_eq, outcome, CandidateOutcome.turn]

theorem tryCandidate_failed {error : RuntimeError}
    (outcome : candidateOutcome net state fwd index candidate = .failed error) :
    tryCandidate net state fwd ruleSet index candidate =
      .advance ("backend error: " ++ error.display) := by
  rw [tryCandidate_eq, outcome, CandidateOutcome.turn]

theorem tryCandidate_answered {providerLabel : String} {resp : Json}
    (outcome : candidateOutcome net state fwd index candidate = .answered providerLabel resp) :
    tryCandidate net state fwd ruleSet index candidate =
      .stop (.served candidate providerLabel resp) := by
  rw [tryCandidate_eq, outcome, CandidateOutcome.turn]

/-- The loop goes on past a failure, and under a rule set past what is unroutable. -/
theorem tryCandidate_advance_iff :
    (∃ reason, tryCandidate net state fwd ruleSet index candidate = .advance reason) ↔
      candidateOutcome net state fwd index candidate = .unroutable ∧ ruleSet ≠ "" ∨
        ∃ error, candidateOutcome net state fwd index candidate = .failed error := by
  rw [tryCandidate_eq]
  cases candidateOutcome net state fwd index candidate with
  | unroutable => simp [CandidateOutcome.turn, ite_eq_iff]
  | failed error => simp [CandidateOutcome.turn]
  | answered providerLabel resp => simp [CandidateOutcome.turn]
  | panicked => simp [CandidateOutcome.turn]

theorem attempt?_eq_none_iff :
    attempt? net state fwd (candidate, index) = none ↔
      candidateOutcome net state fwd index candidate = .unroutable := by
  unfold attempt? candidateOutcome
  cases routed : state.backends.route state.health candidate with
  | none => simp
  | some found =>
      simp only [Option.map_some, reduceCtorEq, false_iff]
      split <;> simp

end Body

/-! ## The list of candidates -/

section Candidates

variable {state : ApiState τ} {body : Json}

theorem chatCandidates_resolved {resolution : Resolution}
    (resolved : chatResolution state body = some resolution) :
    chatCandidates state body =
      if (prepareOpenaiUpstream body).1 then resolution.candidates.take 1
      else resolution.candidates := by
  have some : resolution.candidates ≠ [] := RuleResolver.candidates_ne_nil resolved
  simp only [chatCandidates, resolved, some, ↓reduceIte]

theorem chatCandidates_unresolved (unresolved : chatResolution state body = none) :
    chatCandidates state body = [requestedModel body] := by
  simp [chatCandidates, unresolved]

/-- Without a rule set there is one candidate. -/
theorem before_eq_nil (unresolved : chatResolution state body = none) {before after : List String}
    {candidate : String} (split : chatCandidates state body = before ++ candidate :: after) :
    before = [] := by
  rw [chatCandidates_unresolved unresolved] at split
  cases before with
  | nil => rfl
  | cons first before => simp at split

/-- Every rule set that the request resolves to has a name. -/
def RuleSetNamed (state : ApiState τ) (body : Json) : Prop :=
  ∀ resolution, chatResolution state body = some resolution → resolution.ruleSet ≠ ""

theorem ruleSetName_ne (named : RuleSetNamed state body)
    (resolved : chatResolution state body ≠ none) :
    ruleSetName (chatResolution state body) ≠ "" := by
  cases found : chatResolution state body with
  | none => exact absurd found resolved
  | some resolution => simpa [ruleSetName] using named resolution found

end Candidates

/-! ## The loop -/

section Loop

variable {net : Nat → HttpOutcome} {state : ApiState τ} {body : Json}

/-- The candidate at a position of the list of a request is not an answer. -/
def NotAnswered (net : Nat → HttpOutcome) (state : ApiState τ) (body : Json)
    (candidates : List String) : Prop :=
  ∀ i candidate, candidates[i]? = some candidate →
    ¬ (candidateOutcome net state (prepareOpenaiUpstream body).2 i candidate).IsAnswer

def NoPanic (net : Nat → HttpOutcome) (state : ApiState τ) (body : Json) : Prop :=
  ∀ i candidate, (chatCandidates state body)[i]? = some candidate →
    candidateOutcome net state (prepareOpenaiUpstream body).2 i candidate ≠ .panicked

/-- The calls for the routed ones among candidates that are tried from the first on. -/
def routedAttempts (net : Nat → HttpOutcome) (state : ApiState τ) (body : Json)
    (candidates : List String) : List Attempt :=
  candidates.zipIdx.filterMap (attempt? net state (prepareOpenaiUpstream body).2)

/-- Candidates that neither answer nor panic are passed by under a rule set. -/
theorem passes_of_notAnswered (resolved : ruleSetName (chatResolution state body) ≠ "")
    {candidates : List String} (silent : NotAnswered net state body candidates)
    (calm : ∀ i candidate, candidates[i]? = some candidate →
      candidateOutcome net state (prepareOpenaiUpstream body).2 i candidate ≠ .panicked) :
    FirstStop.Passes
      (tryCandidate net state (prepareOpenaiUpstream body).2
        (ruleSetName (chatResolution state body))) 0 candidates := by
  intro i candidate found
  rw [Nat.zero_add, tryCandidate_advance_iff]
  cases outcome : candidateOutcome net state (prepareOpenaiUpstream body).2 i candidate with
  | unroutable => exact Or.inl ⟨rfl, resolved⟩
  | failed error => exact Or.inr ⟨error, rfl⟩
  | answered providerLabel resp =>
      exact absurd (by rw [outcome]; trivial) (silent i candidate found)
  | panicked => exact absurd outcome (calm i candidate found)

/-- The first answer ends the loop. -/
theorem chatTrace_answered (named : RuleSetNamed state body) (calm : NoPanic net state body)
    {before after : List String} {candidate : String}
    (split : chatCandidates state body = before ++ candidate :: after)
    (silent : NotAnswered net state body before) {providerLabel : String} {resp : Json}
    (answered : candidateOutcome net state (prepareOpenaiUpstream body).2 before.length candidate =
      .answered providerLabel resp) :
    chatTrace net state body =
      ⟨(before ++ [candidate]).zipIdx, .ok (.served candidate providerLabel resp)⟩ := by
  unfold chatTrace
  rw [split]
  apply FirstStop.run_stop
  · by_cases unresolved : chatResolution state body = none
    · rw [before_eq_nil unresolved split]
      intro i other found
      simp at found
    · refine passes_of_notAnswered (ruleSetName_ne named unresolved) silent ?_
      intro i other found
      refine calm i other ?_
      rw [split]
      exact List.getElem?_append_left (List.getElem?_eq_some_iff.mp found).1 ▸ found
  · rw [Nat.zero_add]
    exact tryCandidate_answered answered

/-- Without an answer, a rule set's candidates are all tried. -/
theorem chatTrace_exhausted (resolved : ruleSetName (chatResolution state body) ≠ "")
    (calm : NoPanic net state body)
    (silent : NotAnswered net state body (chatCandidates state body)) :
    (chatTrace net state body).visited = (chatCandidates state body).zipIdx ∧
      ∃ lastErr, (chatTrace net state body).result = .error lastErr :=
  FirstStop.run_passes (passes_of_notAnswered resolved silent calm) _

/-- Without a rule set the requested model is tried alone. -/
theorem chatTrace_unresolved (unresolved : chatResolution state body = none) :
    chatTrace net state body =
      FirstStop.run (tryCandidate net state (prepareOpenaiUpstream body).2 "") 0 "no candidates"
        [requestedModel body] := by
  unfold chatTrace
  rw [chatCandidates_unresolved unresolved, unresolved]
  rfl

end Loop

/-! ## An admitted request -/

theorem prepareOpenaiUpstream_stream (body : Json) :
    (prepareOpenaiUpstream body).1 = wantsStream body := by
  unfold prepareOpenaiUpstream
  split
  · next wants => split <;> simp [wants]
  · next wants => simpa using wants

/-- The reply to a request that a candidate answered. -/
def answerReply (host : Host) (state : ApiState τ) (body : Json) (candidate : String)
    (resp : Json) : Reply :=
  { status := 200
    headers := [("X-APL-Rule", ruleSetName (chatResolution state body)),
      ("X-APL-Upstream", candidate)] ++
        if wantsStream body then streamHeaders else jsonHeaders
    body :=
      if wantsStream body then openaiSseStream host.serde resp else host.serde.toString resp }

variable [Counter τ]

/-- The usage after a call: one record, and one of the rule set's tokens if one matched. -/
def meteredUsage (state : ApiState τ) (session : Session) (body : Json)
    (providerLabel candidate : String) (resp : Json) : UsageService τ :=
  let recorded := state.usage.record session.memberId providerLabel candidate
    (extractOpenaiUsage resp).1 (extractOpenaiUsage resp).2
  match chatResolution state body with
  | none => recorded
  | some resolution => recorded.recordRule session.memberId resolution.ruleSet
      (Counter.ofTokens (extractOpenaiUsage resp).1 + Counter.ofTokens (extractOpenaiUsage resp).2)

/-- The status of a request that no candidate answered. -/
def failureStatus (net : Nat → HttpOutcome) (state : ApiState τ) (body : Json) : Nat :=
  match chatResolution state body with
  | some _ => 502
  | none =>
      if candidateOutcome net state (prepareOpenaiUpstream body).2 0 (requestedModel body) =
        .unroutable then 400 else 500

/-- What an admitted request gets from its candidates. -/
structure FirstAnswerWins (host : Host) (net : Nat → HttpOutcome) (state : ApiState τ)
    (session : Session) (body : Json) (served : Served τ) : Prop where
  candidates : chatCandidates state body =
    match chatResolution state body with
    | some resolution =>
        if wantsStream body then resolution.candidates.take 1 else resolution.candidates
    | none => [requestedModel body]
  answered (before : List String) (candidate : String) (after : List String)
    (providerLabel : String) (resp : Json) :
    chatCandidates state body = before ++ candidate :: after → NotAnswered net state body before →
    candidateOutcome net state (prepareOpenaiUpstream body).2 before.length candidate =
      .answered providerLabel resp →
    served =
      { state := { state with
          usage := meteredUsage state session body providerLabel candidate resp }
        attempts := routedAttempts net state body (before ++ [candidate])
        reply := some (answerReply host state body candidate resp) }
  exhausted : NotAnswered net state body (chatCandidates state body) →
    served.state = state ∧
      served.attempts = routedAttempts net state body (chatCandidates state body) ∧
      served.reply.map Reply.status = some (failureStatus net state body)
  total (providerLabel candidate : String) (resp : Json) (member : String) :
    (meteredUsage state session body providerLabel candidate resp).used member =
      (state.usage.record session.memberId providerLabel candidate (extractOpenaiUsage resp).1
        (extractOpenaiUsage resp).2).used member

section Admitted

variable {host : Host} {net : Nat → HttpOutcome} {state : ApiState τ} {session : Session}
  {body : Json}

theorem meter_eq_meteredUsage (named : RuleSetNamed state body)
    (providerLabel candidate : String) (resp : Json) :
    meter session providerLabel candidate (ruleSetName (chatResolution state body)) resp
        state.usage =
      meteredUsage state session body providerLabel candidate resp := by
  unfold meter meteredUsage
  cases resolved : chatResolution state body with
  | none => simp [ruleSetName]
  | some resolution => simp [ruleSetName, named resolution resolved]

theorem used_meteredUsage (providerLabel candidate : String) (resp : Json) (member : String) :
    (meteredUsage state session body providerLabel candidate resp).used member =
      (state.usage.record session.memberId providerLabel candidate (extractOpenaiUsage resp).1
        (extractOpenaiUsage resp).2).used member := by
  unfold meteredUsage
  cases chatResolution state body with
  | none => rfl
  | some resolution =>
      exact UsageService.used_recordRule (UsageService.isSome_lookup_record ..) _ _ _

/-- Rule and candidate names are header values. -/
def HeaderSafe (host : Host) (state : ApiState τ) (body : Json) : Prop :=
  host.headerValueOk (ruleSetName (chatResolution state body)) ∧
    ∀ candidate ∈ chatCandidates state body, host.headerValueOk candidate

theorem chatServe_answered (named : RuleSetNamed state body) (calm : NoPanic net state body)
    (safe : HeaderSafe host state body) {before after : List String} {candidate : String}
    (split : chatCandidates state body = before ++ candidate :: after)
    (silent : NotAnswered net state body before) {providerLabel : String} {resp : Json}
    (answered : candidateOutcome net state (prepareOpenaiUpstream body).2 before.length candidate =
      .answered providerLabel resp) :
    chatServe host net state session body =
      { state := { state with
          usage := meteredUsage state session body providerLabel candidate resp }
        attempts := routedAttempts net state body (before ++ [candidate])
        reply := some (answerReply host state body candidate resp) } := by
  have candidateSafe : host.headerValueOk candidate :=
    safe.2 candidate (by rw [split]; simp)
  simp only [chatServe, chatTrace_answered named calm split silent answered, chatFinish,
    meter_eq_meteredUsage named, routedAttempts, prepareOpenaiUpstream_stream, okReply, safe.1,
    candidateSafe, answerReply]
  cases wantsStream body <;> rfl

theorem chatServe_exhausted_resolved (named : RuleSetNamed state body)
    (calm : NoPanic net state body)
    (silent : NotAnswered net state body (chatCandidates state body))
    (resolved : chatResolution state body ≠ none) :
    (chatServe host net state session body).state = state ∧
      (chatServe host net state session body).attempts =
        routedAttempts net state body (chatCandidates state body) ∧
      (chatServe host net state session body).reply.map Reply.status = some 502 := by
  have name := ruleSetName_ne named resolved
  obtain ⟨visited, lastErr, failed⟩ := chatTrace_exhausted name calm silent
  simp only [chatServe, visited, failed, chatFinish, exhaustedReply, name, ↓reduceIte, jsonReply,
    routedAttempts, Option.map_some, and_self]

theorem chatServe_exhausted_unresolved (calm : NoPanic net state body)
    (silent : NotAnswered net state body (chatCandidates state body))
    (unresolved : chatResolution state body = none) :
    (chatServe host net state session body).state = state ∧
      (chatServe host net state session body).attempts =
        routedAttempts net state body (chatCandidates state body) ∧
      (chatServe host net state session body).reply.map Reply.status =
        some (if candidateOutcome net state (prepareOpenaiUpstream body).2 0
          (requestedModel body) = .unroutable then 400 else 500) := by
  have only := chatCandidates_unresolved unresolved
  have quiet := silent 0 (requestedModel body) (by rw [only]; rfl)
  have steady := calm 0 (requestedModel body) (by rw [only]; rfl)
  have name : ruleSetName (chatResolution state body) = "" := by rw [unresolved]; rfl
  simp only [chatServe, chatTrace_unresolved unresolved, only, routedAttempts]
  cases outcome : candidateOutcome net state (prepareOpenaiUpstream body).2 0
      (requestedModel body) with
  | unroutable =>
      simp only [FirstStop.run, tryCandidate_unroutable outcome, ↓reduceIte, chatFinish, errorReply,
        jsonReply, Option.map_some, List.zipIdx_cons, List.zipIdx_nil, and_self]
  | failed error =>
      simp only [FirstStop.run, tryCandidate_failed outcome, chatFinish, exhaustedReply, name,
        ↓reduceIte, jsonReply, Option.map_some, reduceCtorEq, List.zipIdx_cons, List.zipIdx_nil,
        and_self]
  | answered providerLabel resp => exact absurd (by rw [outcome]; trivial) quiet
  | panicked => exact absurd outcome steady

theorem chatServe_exhausted (named : RuleSetNamed state body) (calm : NoPanic net state body)
    (silent : NotAnswered net state body (chatCandidates state body)) :
    (chatServe host net state session body).state = state ∧
      (chatServe host net state session body).attempts =
        routedAttempts net state body (chatCandidates state body) ∧
      (chatServe host net state session body).reply.map Reply.status =
        some (failureStatus net state body) := by
  unfold failureStatus
  cases resolved : chatResolution state body with
  | some resolution =>
      exact chatServe_exhausted_resolved named calm silent (by simp [resolved])
  | none => exact chatServe_exhausted_unresolved calm silent resolved

end Admitted

/-- A service with one session, under the given backends and rule sets. -/
def smallService (backends : List Backend) (ruleSets : List RuleSet) : ApiState UInt64 where
  sharing := true
  auth :=
    { sessions := (∅ : HashMap Session).insert "token-1"
        ⟨"token-1", "pc-1", "pc-1", "pc-1", 4600, 1000⟩
      banned := ∅, bannedIps := ∅, ttlSecs := 3600, persists := false, persistsSessions := false
      bannedFile := none, sessionsFile := none }
  members := ⟨∅, 90, "share:39091"⟩
  usage := ∅
  quota := ∅
  policy := {}
  rules := .load ruleSets
  backends := .replaceAll backends
  health := none

def smallHeaders : HeaderMap :=
  [("authorization", "Bearer token-1".toList.map fun c => UInt8.ofNat c.toNat)]

def smallSession : Session := ⟨"token-1", "pc-1", "pc-1", "pc-1", 4600, 1000⟩

/-- A rule set that tries the given models in their order. -/
def fixedRules (name : String) (models : List String) : RuleSet :=
  { id := "rs_1", name := name, version := 1
    rules := [{ strategy := "fixed", candidates := models.map fun model => { model := model } }] }

def modelRequest (model : String) : Json := .obj [("model", .str model)]

/-- The mock, and a custom endpoint that serves one model. -/
def smallBackends : List Backend :=
  [mockBackend, openAICompatBackend SerdeJson.compact
    { provider := .custom, apiKey := "key", models := ["glm-4"],
      baseUrl := some "https://models.example/v1", name := some "custom" }]

/-- The service after it admitted a request. -/
def admittedService (backends : List Backend) (ruleSets : List RuleSet) (body : Json) :
    ApiState UInt64 :=
  (chatGate Host.compact 1000 (smallService backends ruleSets) smallHeaders body).2

end AiPowerGateway.Share

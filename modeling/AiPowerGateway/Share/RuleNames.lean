import AiPowerGateway.Share.AliasTransparency
import AiPowerGateway.Share.RuleResolution

/-!
# Rule-set names as real models

The entry points take a name that does not resolve for the name of a model.  A rule
set that has nothing to try for a prompt does not resolve either, so its name reaches
the registry, where the only backend takes every name.
-/

namespace AiPowerGateway.Share

open Systems

/-! ## What the entry points look up -/

section Routes

variable {τ : Type} [Counter τ]

/-- The names that `chat_completions` asks the registry for, in this order. -/
def chatRoutes (host : Host) (net : Nat → HttpOutcome) (now : UInt64) (state : ApiState τ)
    (headers : HeaderMap) (body : Json) : List String :=
  match chatGate host now state headers body with
  | (.error _, _) => []
  | (.ok _, state) => (chatTrace net state body).visited.map Prod.fst

/-- The name that `messages` asks the registry for, if it gets that far. -/
def messagesRoutes (host : Host) (now : UInt64) (state : ApiState τ) (headers : HeaderMap)
    (raw : List UInt8) : List String :=
  match messagesGate host now state headers raw with
  | (.error _, _) => []
  | (.ok (_, body), state) =>
      let openaiReq := anthropicToOpenai host.serde body
      [messagesCandidate (messagesResolution state openaiReq body) (requestedModel openaiReq)]

end Routes

/-! ## What a rule keeps to -/

namespace Rule

/-- The candidates and fallback models of a rule. -/
def own (rule : Rule) : List String := rule.candidates.map Candidate.model ++ rule.fallback

/-- Some named candidate is tried: under `fixed` any of them, else one that takes the prompt. -/
def Fits (rule : Rule) (estTokens : UInt64) : Prop :=
  ∃ candidate ∈ rule.candidates, candidate.model ≠ "" ∧
    (rule.strategy ≠ "fixed" → candidate.fits estTokens = true)

end Rule

/-- The prompt of a request by the estimate of the rule engine. -/
def promptTokens (body : Json) : UInt64 := estimateTokens (extractRequestText body)

/-- A request to `chat_completions` stays with the rule of the name that it carries. -/
structure ChatKeeps (host : Host) (net : Nat → HttpOutcome) (now : UInt64)
    (state : ApiState UInt64) (headers : HeaderMap) (body : Json) (name : String) (rule : Rule) :
    Prop where
  routed : name ∈ chatRoutes host net now state headers body → name ∈ rule.own
  called : ¬ rule.Fits (promptTokens body) →
    ∀ attempt ∈ (chatCompletions host net now state headers body).attempts,
      attempt.candidate ∈ rule.own
  failed : ¬ rule.Fits (promptTokens body) →
    ∀ session, (chatGate host now state headers body).1 = .ok session →
      ∀ reply, (chatCompletions host net now state headers body).reply = some reply →
        reply.status = 200 ∨ reply.status = 502

/-- The same of `messages`, which fails alike with and without a rule set. -/
structure MessagesKeeps (host : Host) (outcome : HttpOutcome) (now : UInt64)
    (state : ApiState UInt64) (headers : HeaderMap) (raw : List UInt8) (body : Json)
    (name : String) (rule : Rule) : Prop where
  routed : name ∈ messagesRoutes host now state headers raw → name ∈ rule.own
  called : ¬ rule.Fits (promptTokens body) →
    ∀ attempt ∈ (messages host outcome now state headers raw).attempts,
      attempt.candidate ∈ rule.own

/-- Whatever the registry, a request with the name stays with the rule of the name. -/
structure KeepsRuleName (rules : RuleResolver) (name : String) (body : Json) (rule : Rule) :
    Prop where
  chat (host : Host) (net : Nat → HttpOutcome) (now : UInt64) (state : ApiState UInt64)
    (headers : HeaderMap) : state.rules = rules →
      ChatKeeps host net now state headers body name rule
  messages (host : Host) (outcome : HttpOutcome) (now : UInt64) (state : ApiState UInt64)
    (headers : HeaderMap) (raw : List UInt8) : state.rules = rules →
      host.serde.fromSlice raw = some body →
        MessagesKeeps host outcome now state headers raw body name rule

/-! ## What a rule has to try -/

namespace Rule

theorem mem_ordered {rule : Rule} {estTokens : UInt64} {candidate : Candidate} :
    candidate ∈ rule.ordered estTokens ↔
      candidate ∈ rule.candidates ∧
        (rule.strategy ≠ "fixed" → candidate.fits estTokens = true) := by
  unfold ordered
  by_cases fixed : rule.strategy = "fixed"
  · simp [fixed]
  · simp [fixed]

theorem tried_ne_nil_iff {rule : Rule} {estTokens : UInt64} :
    rule.tried estTokens ≠ [] ↔ rule.Fits estTokens := by
  unfold tried Fits
  rw [ne_eq, List.filter_eq_nil_iff, not_forall]
  constructor
  · rintro ⟨candidate, named⟩
    obtain ⟨mem, named⟩ := Classical.not_imp.mp named
    obtain ⟨listed, fits⟩ := mem_ordered.mp mem
    exact ⟨candidate, listed, of_decide_eq_true (not_not.mp named), fits⟩
  · rintro ⟨candidate, listed, named, fits⟩
    exact ⟨candidate, fun unnamed =>
      unnamed (mem_ordered.mpr ⟨listed, fits⟩) (decide_eq_true named)⟩

theorem models_ne_nil_iff {rule : Rule} {estTokens : UInt64} :
    rule.models estTokens ≠ [] ↔ rule.Fits estTokens ∨ ∃ model ∈ rule.fallback, model ≠ "" := by
  rw [models_eq, ne_eq, List.append_eq_nil_iff, not_and_or, List.map_eq_nil_iff, ← ne_eq,
    tried_ne_nil_iff, List.filter_eq_nil_iff]
  simp

theorem mem_own_of_mem_models {rule : Rule} {estTokens : UInt64} {model : String}
    (mem : model ∈ rule.models estTokens) : model ∈ rule.own := by
  unfold own
  rw [models, List.mem_append] at mem
  rcases mem with chosen | fallback
  · obtain ⟨candidate, ordered, same⟩ := List.mem_map.mp (List.mem_filter.mp chosen).1
    exact List.mem_append_left _
      (List.mem_map.mpr ⟨candidate, (mem_ordered.mp ordered).1, same⟩)
  · exact List.mem_append_right _ (List.mem_filter.mp fallback).1

end Rule

theorem RuleResolver.resolve_of_ruleFor {rules : RuleResolver} {name : String} {rule : Rule}
    (selected : rules.ruleFor name = some rule) (estTokens : UInt64) :
    rules.resolve name estTokens =
      if rule.models estTokens = [] then none else some ⟨name, rule.models estTokens⟩ := by
  obtain ⟨ruleSet, found, chosen⟩ := Option.bind_eq_some_iff.mp selected
  simp only [resolve, found, chosen, Option.bind_some, rules.named found]

/-! ## The candidates of a request -/

section Requests

variable {τ : Type} {state : ApiState τ} {body : Json} {name : String} {rule : Rule}

theorem requestedModel_of_text? (names : body.text? "model" = some name) :
    requestedModel body = name := by
  rw [requestedModel, Json.textOr, names, Option.getD_some]

theorem anthropicModel_of_text? (names : body.text? "model" = some name) :
    anthropicModel body = name := by
  rw [anthropicModel, Json.textOr, names, Option.getD_some]

theorem chatResolution_of_ruleFor (names : body.text? "model" = some name)
    (selected : state.rules.ruleFor name = some rule) :
    chatResolution state body =
      if rule.models (promptTokens body) = [] then none
      else some ⟨name, rule.models (promptTokens body)⟩ := by
  rw [chatResolution, requestedModel_of_text? names]
  exact RuleResolver.resolve_of_ruleFor selected _

theorem messagesResolution_of_ruleFor (serde : SerdeJson) (names : body.text? "model" = some name)
    (selected : state.rules.ruleFor name = some rule) :
    messagesResolution state (anthropicToOpenai serde body) body =
      if rule.models (promptTokens body) = [] then none
      else some ⟨name, rule.models (promptTokens body)⟩ := by
  rw [messagesResolution, requestedModel_anthropicToOpenai, anthropicModel_of_text? names]
  exact RuleResolver.resolve_of_ruleFor selected _

theorem chatCandidates_ne_nil (state : ApiState τ) (body : Json) :
    chatCandidates state body ≠ [] := by
  cases resolved : chatResolution state body with
  | none =>
      rw [chatCandidates_unresolved resolved]
      exact List.cons_ne_nil _ _
  | some resolution =>
      have nonempty := RuleResolver.candidates_ne_nil resolved
      rw [chatCandidates_resolved resolved]
      split
      · rw [ne_eq, List.take_eq_nil_iff]
        exact not_or.mpr ⟨Nat.one_ne_zero, nonempty⟩
      · exact nonempty

/-- A rule with something to try gives the candidates. -/
theorem mem_own_of_mem_chatCandidates (names : body.text? "model" = some name)
    (selected : state.rules.ruleFor name = some rule)
    (tries : rule.models (promptTokens body) ≠ []) {candidate : String}
    (mem : candidate ∈ chatCandidates state body) : candidate ∈ rule.own := by
  have resolved := chatResolution_of_ruleFor names selected
  rw [if_neg tries] at resolved
  rw [chatCandidates_resolved resolved] at mem
  split at mem
  · exact Rule.mem_own_of_mem_models (List.mem_of_mem_take mem)
  · exact Rule.mem_own_of_mem_models mem

theorem messagesCandidate_mem_own (serde : SerdeJson) (names : body.text? "model" = some name)
    (selected : state.rules.ruleFor name = some rule)
    (tries : rule.models (promptTokens body) ≠ []) :
    messagesCandidate (messagesResolution state (anthropicToOpenai serde body) body)
      (requestedModel (anthropicToOpenai serde body)) ∈ rule.own := by
  rw [messagesResolution_of_ruleFor serde names selected, if_neg tries]
  cases models : rule.models (promptTokens body) with
  | nil => exact absurd models tries
  | cons first rest =>
      exact Rule.mem_own_of_mem_models (models ▸ List.mem_cons_self)

end Requests

/-! ## The names that reach the registry -/

section Registry

variable {τ : Type} [Counter τ] {host : Host} {now : UInt64} {state : ApiState τ}
  {headers : HeaderMap} {body : Json} {name : String} {rule : Rule}

theorem mem_chatCandidates_of_mem_chatRoutes {net : Nat → HttpOutcome} {routed : String}
    (mem : routed ∈ chatRoutes host net now state headers body) :
    routed ∈ chatCandidates state body := by
  obtain ⟨members, policy, frame⟩ := chatGate_frame host now state headers body
  unfold chatRoutes at mem
  cases gate : chatGate host now state headers body with
  | mk verdict after =>
      rw [gate] at mem frame
      subst frame
      cases verdict with
      | error refusal => cases mem
      | ok session =>
          obtain ⟨visited, found, rfl⟩ := List.mem_map.mp mem
          exact FirstStop.mem_of_visited found

theorem messagesRoutes_admitted {raw : List UInt8} {session : Session}
    (parsed : host.serde.fromSlice raw = some body)
    (admitted : (chatGate host now state headers body).1 = .ok session) :
    messagesRoutes host now state headers raw =
      [messagesCandidate (messagesResolution state (anthropicToOpenai host.serde body) body)
        (requestedModel (anthropicToOpenai host.serde body))] := by
  obtain ⟨members, policy, frame⟩ := chatGate_frame host now state headers body
  unfold messagesRoutes
  rw [messagesGate_parsed now state headers parsed, admitted, frame]
  rfl

theorem eq_of_mem_messagesRoutes {raw : List UInt8} {routed : String}
    (parsed : host.serde.fromSlice raw = some body)
    (mem : routed ∈ messagesRoutes host now state headers raw) :
    routed = messagesCandidate (messagesResolution state (anthropicToOpenai host.serde body) body)
      (requestedModel (anthropicToOpenai host.serde body)) := by
  cases verdict : (chatGate host now state headers body).1 with
  | error refusal =>
      unfold messagesRoutes at mem
      rw [messagesGate_parsed now state headers parsed, verdict] at mem
      cases mem
  | ok session =>
      rw [messagesRoutes_admitted parsed verdict] at mem
      exact List.mem_singleton.mp mem

end Registry

/-! ## The status of a failure -/

section Status

variable {τ : Type} [Counter τ] {host : Host} {net : Nat → HttpOutcome} {state : ApiState τ}
  {session : Session} {body : Json}

/-- Only without the name of a rule set does the loop stop at an unserved model. -/
theorem CandidateOutcome.unruled_of_unavailable {ruleSet candidate : String}
    {outcome : CandidateOutcome} (stops : outcome.turn ruleSet candidate = .stop .unavailable) :
    ruleSet = "" := by
  cases outcome with
  | unroutable =>
      refine Classical.byContradiction fun ruled => ?_
      rw [turn, if_neg ruled] at stops
      cases stops
  | failed error => cases stops
  | answered providerLabel resp => cases stops
  | panicked => cases stops

/-- Under a rule set with a name a request succeeds or fails with its own status. -/
theorem status_chatServe (ruled : ruleSetName (chatResolution state body) ≠ "") {reply : Reply}
    (replies : (chatServe host net state session body).reply = some reply) :
    reply.status = 200 ∨ reply.status = 502 := by
  have finish : (chatFinish host state session body (chatTrace net state body).result).2 =
      some reply := replies
  cases ends : (chatTrace net state body).result with
  | error lastErr =>
      rw [ends] at finish
      cases finish
      exact .inr (if_neg ruled)
  | ok loopEnd =>
      rw [ends] at finish
      cases loopEnd with
      | panicked => cases finish
      | served candidate providerLabel resp =>
          simp only [chatFinish] at finish
          split at finish
          · exact .inl (status_okReply finish)
          · exact .inl (status_okReply finish)
      | unavailable =>
          obtain ⟨item, position, -, stops⟩ := FirstStop.exists_visited_of_result ends
          rw [tryCandidate_eq] at stops
          exact absurd (CandidateOutcome.unruled_of_unavailable stops) ruled

/-- Without the name of a rule set, a model that no backend serves is the client's error. -/
theorem status_chatServe_unavailable (unruled : ruleSetName (chatResolution state body) = "")
    (unserved : ∀ model, state.backends.route state.health model = none) :
    (chatServe host net state session body).reply.map Reply.status = some 400 := by
  have finish : (chatServe host net state session body).reply =
      (chatFinish host state session body (chatTrace net state body).result).2 := rfl
  rw [finish]
  cases candidates : chatCandidates state body with
  | nil => exact absurd candidates (chatCandidates_ne_nil state body)
  | cons first rest =>
      have stops : tryCandidate net state (prepareOpenaiUpstream body).2 "" 0 first =
          .stop .unavailable := by
        simp only [tryCandidate, unserved, ↓reduceIte]
      simp only [chatTrace, candidates, unruled, FirstStop.run, stops]
      rfl

end Status

/-! ## Keeping to the rule -/

section Keeps

variable {name : String} {body : Json} {rule : Rule}

/-- A service without backends and policy that admits a request of its one session. -/
def openService (rules : RuleResolver) : ApiState UInt64 :=
  { smallService [] [] with rules := rules, policy := { enabled := false } }

theorem openService_admits (rules : RuleResolver) (body : Json) :
    (chatGate Host.compact 1000 (openService rules) smallHeaders body).1 = .ok smallSession := by
  have token : bearerToken smallHeaders = some "token-1" := by decide
  have verified : (openService rules).auth.verify 1000 "token-1" = some smallSession := by rfl
  simp only [chatGate, token, verified]
  rfl

/-- It has no backend for any model, which is the client's error without a rule set. -/
theorem openService_status {rules : RuleResolver}
    (unruled : ruleSetName (chatResolution (openService rules) body) = "") :
    (chatCompletions Host.compact (fun _ => .sendFailed "") 1000 (openService rules) smallHeaders
      body).reply.map Reply.status = some 400 := by
  have admits := openService_admits rules body
  obtain ⟨members, policy, frame⟩ :=
    chatGate_frame Host.compact 1000 (openService rules) smallHeaders body
  unfold chatCompletions
  cases gate : chatGate Host.compact 1000 (openService rules) smallHeaders body with
  | mk verdict after =>
      rw [gate] at admits frame
      subst frame
      cases admits
      exact status_chatServe_unavailable unruled fun model => rfl

theorem chatKeeps_of_tries {host : Host} {net : Nat → HttpOutcome} {now : UInt64}
    {state : ApiState UInt64} {headers : HeaderMap} (names : body.text? "model" = some name)
    (selected : state.rules.ruleFor name = some rule)
    (tries : rule.models (promptTokens body) ≠ [])
    (ruled : ¬ rule.Fits (promptTokens body) → name ≠ "") :
    ChatKeeps host net now state headers body name rule where
  routed mem := mem_own_of_mem_chatCandidates names selected tries
    (mem_chatCandidates_of_mem_chatRoutes mem)
  called _ attempt made := mem_own_of_mem_chatCandidates names selected tries
    (request_of_chat_attempt made).2
  failed unfit session admitted reply replies := by
    obtain ⟨members, policy, frame⟩ := chatGate_frame host now state headers body
    unfold chatCompletions at replies
    cases gate : chatGate host now state headers body with
    | mk verdict after =>
        rw [gate] at admitted frame replies
        subst frame
        cases admitted
        refine status_chatServe ?_ replies
        have resolved : chatResolution { state with members := members, policy := policy } body =
            _ := chatResolution_of_ruleFor names selected
        rw [resolved, if_neg tries]
        exact ruled unfit

theorem messagesKeeps_of_tries {host : Host} {outcome : HttpOutcome} {now : UInt64}
    {state : ApiState UInt64} {headers : HeaderMap} {raw : List UInt8}
    (parsed : host.serde.fromSlice raw = some body) (names : body.text? "model" = some name)
    (selected : state.rules.ruleFor name = some rule)
    (tries : rule.models (promptTokens body) ≠ []) :
    MessagesKeeps host outcome now state headers raw body name rule where
  routed mem := by
    rw [eq_of_mem_messagesRoutes parsed mem]
    exact messagesCandidate_mem_own host.serde names selected tries
  called _ attempt made := by
    rw [(messages_attempt parsed made).2]
    exact messagesCandidate_mem_own host.serde names selected tries

/--
The requests with the name of a rule set stay with its rule exactly when some candidate of
the rule fits, or the name and some fallback model are not empty.
-/
theorem keeps_rule_name_iff {rules : RuleResolver} (names : body.text? "model" = some name)
    (selected : rules.ruleFor name = some rule) :
    KeepsRuleName rules name body rule ↔
      rule.Fits (promptTokens body) ∨ name ≠ "" ∧ ∃ model ∈ rule.fallback, model ≠ "" := by
  constructor
  · intro keeps
    by_cases fits : rule.Fits (promptTokens body)
    · exact .inl fits
    · refine .inr (Classical.byContradiction fun bare => ?_)
      have unruled : ruleSetName (chatResolution (openService rules) body) = "" := by
        have resolved : chatResolution (openService rules) body = _ :=
          chatResolution_of_ruleFor names selected
        rw [resolved]
        split
        · rfl
        · next tries =>
            have fallback := (Rule.models_ne_nil_iff.mp tries).resolve_left fits
            exact Classical.byContradiction fun named => bare ⟨named, fallback⟩
      obtain ⟨reply, replies, clientError⟩ := Option.map_eq_some_iff.mp (openService_status unruled)
      rcases (keeps.chat _ _ _ (openService rules) _ rfl).failed fits smallSession
          (openService_admits rules body) reply replies with ok | ruleError
      · rw [clientError] at ok
        exact absurd ok (by decide)
      · rw [clientError] at ruleError
        exact absurd ruleError (by decide)
  · intro condition
    have tries : rule.models (promptTokens body) ≠ [] :=
      Rule.models_ne_nil_iff.mpr (condition.imp_right And.right)
    exact
      { chat := fun host net now state headers loaded =>
          chatKeeps_of_tries names (loaded ▸ selected) tries
            fun unfit => (condition.resolve_left unfit).1
        messages := fun host outcome now state headers raw loaded parsed =>
          messagesKeeps_of_tries parsed names (loaded ▸ selected) tries }

/-- A rule set with one rule. -/
def cheapRules (rule : Rule) : RuleResolver :=
  .load [{ id := "rs_1", name := "cheap", version := 1, rules := [rule] }]

/-- One model for prompts of up to ten tokens. -/
def shortRule : Rule := { candidates := [⟨"model-8k", some 10⟩] }

def shortRuleWithFallback : Rule := { shortRule with fallback := ["mock-7b"] }

/-- A request for `cheap` with a prompt of eleven tokens. -/
def longRequest : Json := .obj [("model", .str "cheap"), ("messages", .arr [.obj [
  ("role", .str "user"), ("content", .str "Please summarise the minutes of our meeting.")]])]

/-- With a fallback the name of the rule set does not reach the registry. -/
theorem keeps_rule_name_iff_fallback :
    KeepsRuleName (cheapRules shortRuleWithFallback) "cheap" longRequest shortRuleWithFallback ↔
      shortRuleWithFallback.Fits (promptTokens longRequest) ∨
        "cheap" ≠ "" ∧ ∃ model ∈ shortRuleWithFallback.fallback, model ≠ "" :=
  keeps_rule_name_iff (by decide) (by decide)

/-- The only backend gets a request that no candidate of the rule is to answer. -/
theorem not_keeps_rule_name_long_prompt :
    (cheapRules shortRule).ruleFor "cheap" = some shortRule ∧
      (chatCompletions Host.compact (fun _ => .sendFailed "") 1000
        { openService (cheapRules shortRule) with backends := .replaceAll [mockBackend] }
        smallHeaders longRequest).attempts.map Attempt.candidate = ["cheap"] ∧
      ¬ KeepsRuleName (cheapRules shortRule) "cheap" longRequest shortRule := by
  refine ⟨by decide, by decide, fun keeps => ?_⟩
  have misrouted := (keeps.chat Host.compact (fun _ => .sendFailed "") 1000
    { openService (cheapRules shortRule) with backends := .replaceAll [mockBackend] }
    smallHeaders rfl).routed (by decide)
  exact absurd misrouted (by decide)

end Keeps

end AiPowerGateway.Share

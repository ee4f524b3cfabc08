import AiPowerGateway.Share.Gates

/-!
# Rule-set names as model aliases

A request that names a rule set is sent to the candidates of the set.  What a
backend is handed should be the request that names the candidate; it is the request
that names the rule set, so the two agree only where the names do.
-/

namespace AiPowerGateway.Share

variable {τ : Type} [Counter τ]

/-! ## What the translations read -/

/-- The forwarded body names the model of the request. -/
theorem text?_prepareOpenaiUpstream (body : Json) :
    (prepareOpenaiUpstream body).2.text? "model" = body.text? "model" := by
  unfold prepareOpenaiUpstream Json.text?
  split
  · split
    · next fwd stored =>
        rw [Json.get?_removeField_ne (by decide), Json.get?_set?_ne stored (by decide)]
    · rfl
  · rfl

/-- The conversion reads the model and four further members. -/
theorem anthropicToOpenai_congr (serde : SerdeJson) {first second : Json}
    (model : anthropicModel first = anthropicModel second)
    (others : ∀ key, "model" ≠ key → first.get? key = second.get? key) :
    anthropicToOpenai serde first = anthropicToOpenai serde second := by
  unfold anthropicToOpenai systemMessages arrayField
  rw [model, others "max_tokens" (by decide), others "tools" (by decide),
    others "system" (by decide), others "messages" (by decide)]

theorem requestedModel_anthropicToOpenai (serde : SerdeJson) (body : Json) :
    requestedModel (anthropicToOpenai serde body) = anthropicModel body := by
  simp [requestedModel, anthropicToOpenai, Json.textOr, Json.text?]

theorem text?_anthropicToOpenai (serde : SerdeJson) (body : Json) :
    (anthropicToOpenai serde body).text? "model" = some (anthropicModel body) := by
  simp [anthropicToOpenai, Json.text?]

/-! ## Transparency of one call -/

/-- The body exists with the model replaced: it is an object, or `null`. -/
def CanName (body : Json) : Prop := ∀ model, ∃ named, body.set? "model" (.str model) = some named

/-- A call of `chat_completions` got what a request for its candidate would send. -/
def ChatTransparent (body : Json) (attempt : Attempt) : Prop :=
  ∃ named, body.set? "model" (.str attempt.candidate) = some named ∧
    attempt.request = (prepareOpenaiUpstream named).2 ∧
    attempt.request.text? "model" = some attempt.candidate

/-- A call of `messages` got what a request for its candidate would send. -/
def MessagesTransparent (serde : SerdeJson) (body : Json) (attempt : Attempt) : Prop :=
  ∃ named, body.set? "model" (.str attempt.candidate) = some named ∧
    attempt.request = anthropicToOpenai serde named ∧
    attempt.request.text? "model" = some attempt.candidate

theorem chatTransparent_iff {body : Json} {attempt : Attempt}
    (request : attempt.request = (prepareOpenaiUpstream body).2)
    (candidate : attempt.candidate ≠ "") :
    ChatTransparent body attempt ↔ requestedModel body = attempt.candidate := by
  unfold ChatTransparent
  rw [request, text?_prepareOpenaiUpstream]
  constructor
  · rintro ⟨named, -, -, model⟩
    simp [requestedModel, Json.textOr, model]
  · intro same
    have model : body.text? "model" = some attempt.candidate := by
      unfold requestedModel Json.textOr at same
      cases found : body.text? "model" with
      | none => simp [found, Ne.symm candidate] at same
      | some model => simpa [found] using same
    obtain ⟨value, found, text⟩ := Option.bind_eq_some_iff.mp model
    have stored : body.get? "model" = some (.str attempt.candidate) := by
      rw [found, Json.asStr?_eq_some text]
    exact ⟨body, Json.set?_of_get? stored, rfl, model⟩

theorem messagesTransparent_iff {serde : SerdeJson} {body : Json} {attempt : Attempt}
    (request : attempt.request = anthropicToOpenai serde body) :
    MessagesTransparent serde body attempt ↔
      anthropicModel body = attempt.candidate ∧ CanName body := by
  unfold MessagesTransparent
  rw [request, text?_anthropicToOpenai]
  constructor
  · rintro ⟨named, stored, -, model⟩
    refine ⟨Option.some.inj model, fun other => ?_⟩
    cases body with
    | null | obj => exact ⟨_, rfl⟩
    | bool | num | str | arr => simp [Json.set?] at stored
  · rintro ⟨same, canName⟩
    obtain ⟨named, stored⟩ := canName attempt.candidate
    refine ⟨named, stored, ?_, by rw [same]⟩
    apply anthropicToOpenai_congr
    · rw [same]
      simp [anthropicModel, Json.textOr, Json.text?_set?_self stored]
    · intro key differ
      exact (Json.get?_set?_ne stored differ).symm

/-! ## The calls of the entry points -/

section Calls

variable {host : Host} {now : UInt64} {state : ApiState τ} {headers : HeaderMap}

theorem request_of_chat_attempt {net : Nat → HttpOutcome} {body : Json} {attempt : Attempt}
    (called : attempt ∈ (chatCompletions host net now state headers body).attempts) :
    attempt.request = (prepareOpenaiUpstream body).2 ∧
      attempt.candidate ∈ chatCandidates state body := by
  rcases chatCompletions_cases host net now state headers body with
    ⟨refusal, members, policy, refused⟩ | ⟨session, members, policy, -, served⟩
  · rw [refused] at called
    cases called
  · rw [served] at called
    obtain ⟨⟨candidate, index⟩, visited, made⟩ := List.mem_filterMap.mp called
    unfold attempt? at made
    obtain ⟨found, -, built⟩ := Option.map_eq_some_iff.mp made
    rw [← Nat.zero_add index] at visited
    have listed := (Systems.FirstStop.mem_visited_iff.mp visited).1
    subst built
    exact ⟨rfl, List.mem_of_getElem? listed⟩

/-- A call of `messages` carries the converted request for the candidate it chose. -/
theorem messages_attempt {outcome : HttpOutcome} {raw : List UInt8} {body : Json}
    {attempt : Attempt} (parsed : host.serde.fromSlice raw = some body)
    (called : attempt ∈ (messages host outcome now state headers raw).attempts) :
    attempt.request = anthropicToOpenai host.serde body ∧
      attempt.candidate =
        messagesCandidate (messagesResolution state (anthropicToOpenai host.serde body) body)
          (requestedModel (anthropicToOpenai host.serde body)) := by
  rcases messages_cases host outcome now state headers raw with
    ⟨refusal, members, policy, refused⟩ | ⟨read, session, members, policy, parsedRead, -, served⟩
  · rw [refused] at called
    cases called
  · have same : read = body := Option.some.inj (parsedRead.symm.trans parsed)
    subst same
    rw [served, messagesServe] at called
    simp only at called
    split at called
    · cases called
    · split at called <;>
        · rw [List.mem_singleton.mp called]
          exact ⟨rfl, rfl⟩

end Calls

/--
A call for a candidate of a rule set gets the request that names the candidate
exactly when the candidate bears the name of the rule set.
-/
theorem alias_transparent_iff (host : Host) (net : Nat → HttpOutcome) (outcome : HttpOutcome)
    (now : UInt64) (state : ApiState τ) (headers : HeaderMap) :
    (∀ body resolution attempt, chatResolution state body = some resolution →
      attempt ∈ (chatCompletions host net now state headers body).attempts →
        (ChatTransparent body attempt ↔ resolution.ruleSet = attempt.candidate)) ∧
    (∀ raw body resolution attempt, host.serde.fromSlice raw = some body →
      messagesResolution state (anthropicToOpenai host.serde body) body = some resolution →
      attempt ∈ (messages host outcome now state headers raw).attempts →
        (MessagesTransparent host.serde body attempt ↔
          resolution.ruleSet = attempt.candidate ∧ CanName body)) := by
  constructor
  · intro body resolution attempt resolved called
    obtain ⟨request, listed⟩ := request_of_chat_attempt called
    have candidate : attempt.candidate ≠ "" := by
      rw [chatCandidates_resolved resolved] at listed
      have mem : attempt.candidate ∈ resolution.candidates := by
        split at listed
        · exact List.mem_of_mem_take listed
        · exact listed
      exact RuleResolver.candidate_ne_empty resolved mem
    rw [chatTransparent_iff request candidate, RuleResolver.ruleSet_of_resolve resolved]
  · intro raw body resolution attempt parsed resolved called
    have request := (messages_attempt parsed called).1
    rw [messagesTransparent_iff request, RuleResolver.ruleSet_of_resolve resolved,
      requestedModel_anthropicToOpenai]

/-! ## A rule set with the name of its model, and one with another name -/

/-- The call of the mock for a request that names a rule set. -/
def mockAttempt (model : String) : Attempt :=
  ⟨0, "mock-7b", "mock", modelRequest model, .ok (mockChat "mock-7b" (modelRequest model))⟩

theorem alias_transparent_own_name :
    ChatTransparent (modelRequest "mock-7b") (mockAttempt "mock-7b") :=
  ((alias_transparent_iff Host.compact (fun _ => .sendFailed "unused") (.sendFailed "unused") 1000
    (smallService smallBackends [fixedRules "mock-7b" ["mock-7b"]]) smallHeaders).1
    (modelRequest "mock-7b") ⟨"mock-7b", ["mock-7b"]⟩ (mockAttempt "mock-7b") (by decide)
    (List.Mem.head _)).mpr rfl

/-- Under the rule set `cheap` the mock is handed a request for the model `cheap`. -/
theorem alias_not_transparent :
    ¬ ∀ (host : Host) (net : Nat → HttpOutcome) (now : UInt64) (state : ApiState UInt64)
        (headers : HeaderMap) (body : Json) (resolution : Resolution) (attempt : Attempt),
      chatResolution state body = some resolution →
        attempt ∈ (chatCompletions host net now state headers body).attempts →
          ChatTransparent body attempt := by
  intro transparent
  obtain ⟨named, -, -, model⟩ := transparent Host.compact (fun _ => .sendFailed "unused") 1000
    (smallService smallBackends [fixedRules "cheap" ["mock-7b"]]) smallHeaders
    (modelRequest "cheap") ⟨"cheap", ["mock-7b"]⟩ (mockAttempt "cheap") (by decide)
    (List.Mem.head _)
  exact absurd model (by decide)

end AiPowerGateway.Share

import AiPowerGateway.Share.Gates
import AiPowerGateway.Share.UsageArithmetic

/-!
# What a request meters

A request to an entry point meters one answer or none.  What it leaves in the usage table
is what that answer adds, so a run of requests is a run of the answers they were given.
-/

namespace AiPowerGateway.Share

open Systems EventRuns

variable {τ : Type} [Counter τ]

/-- The answer that `chat_completions` meters. -/
def chatAnswer? (host : Host) (net : Nat → HttpOutcome) (now : UInt64) (state : ApiState τ)
    (headers : HeaderMap) (body : Json) : Option Answer :=
  match chatGate host now state headers body with
  | (.error _, _) => none
  | (.ok session, state) =>
      match (chatTrace net state body).result with
      | .ok (.served candidate providerLabel resp) =>
          some ⟨session, providerLabel, candidate, ruleSetName (chatResolution state body), resp,
            wantsStream body⟩
      | _ => none

/-- The answer that `messages` meters. -/
def messagesAnswer? (host : Host) (outcome : HttpOutcome) (now : UInt64) (state : ApiState τ)
    (headers : HeaderMap) (raw : List UInt8) : Option Answer :=
  match messagesGate host now state headers raw with
  | (.error _, _) => none
  | (.ok (session, body), state) =>
      let openaiReq := anthropicToOpenai host.serde body
      let resolution := messagesResolution state openaiReq body
      let candidate := messagesCandidate resolution (requestedModel openaiReq)
      match state.backends.route state.health candidate with
      | none => none
      | some (_, backend) =>
          match backend.chat openaiReq outcome with
          | .ok resp =>
              some ⟨session, backend.providerLabel, candidate, ruleSetName resolution, resp,
                wantsStream body⟩
          | _ => none

/-- The usage with what an answer adds, if there is one. -/
def meteredWith (answer : Option Answer) (usage : UsageService τ) : UsageService τ :=
  match answer with
  | some answer => answer.apply usage
  | none => usage

theorem chatGate_usage (host : Host) (now : UInt64) (state : ApiState τ) (headers : HeaderMap)
    (body : Json) : (chatGate host now state headers body).2.usage = state.usage := by
  obtain ⟨members, policy, frame⟩ := chatGate_frame host now state headers body
  rw [frame]

theorem messagesGate_usage (host : Host) (now : UInt64) (state : ApiState τ)
    (headers : HeaderMap) (raw : List UInt8) :
    (messagesGate host now state headers raw).2.usage = state.usage := by
  cases parsed : host.serde.fromSlice raw with
  | none =>
      obtain ⟨refusal, members, gate⟩ := messagesGate_unparsed now state headers parsed
      rw [gate]
  | some body =>
      rw [messagesGate_parsed now state headers parsed]
      exact chatGate_usage host now state headers body

/-- Passing the gates of `messages` is passing those of `chat_completions`. -/
theorem admitted_of_messagesGate {host : Host} {now : UInt64} {state after : ApiState τ}
    {headers : HeaderMap} {raw : List UInt8} {session : Session} {body : Json}
    (passes : messagesGate host now state headers raw = (.ok (session, body), after)) :
    Admitted host now state headers body session := by
  cases parsed : host.serde.fromSlice raw with
  | none =>
      obtain ⟨refusal, members, gate⟩ := messagesGate_unparsed now state headers parsed
      rw [gate] at passes
      cases passes
  | some parsedBody =>
      rw [messagesGate_parsed now state headers parsed] at passes
      cases gate : chatGate host now state headers parsedBody with
      | mk verdict left =>
          rw [gate] at passes
          cases verdict with
          | error refusal => cases passes
          | ok admitted =>
              cases passes
              exact admitted_of_chatGate gate

/-- `chat_completions` leaves the usage with the answer it meters. -/
theorem chatCompletions_usage (host : Host) (net : Nat → HttpOutcome) (now : UInt64)
    (state : ApiState τ) (headers : HeaderMap) (body : Json) :
    (chatCompletions host net now state headers body).state.usage =
      meteredWith (chatAnswer? host net now state headers body) state.usage := by
  have kept := chatGate_usage host now state headers body
  unfold chatCompletions chatAnswer?
  cases gate : chatGate host now state headers body with
  | mk verdict after =>
      rw [gate] at kept
      cases verdict with
      | error refusal => exact kept
      | ok session =>
          simp only [chatServe]
          cases (chatTrace net after body).result with
          | error lastErr => exact kept
          | ok loopEnd =>
              cases loopEnd with
              | unavailable => exact kept
              | panicked => exact kept
              | served candidate providerLabel resp => exact congrArg (meter _ _ _ _ _) kept

/-- `messages` leaves the usage with the answer it meters. -/
theorem messages_usage (host : Host) (outcome : HttpOutcome) (now : UInt64) (state : ApiState τ)
    (headers : HeaderMap) (raw : List UInt8) :
    (messages host outcome now state headers raw).state.usage =
      meteredWith (messagesAnswer? host outcome now state headers raw) state.usage := by
  have kept := messagesGate_usage host now state headers raw
  unfold messages messagesAnswer?
  cases gate : messagesGate host now state headers raw with
  | mk verdict after =>
      rw [gate] at kept
      cases verdict with
      | error refusal => exact kept
      | ok admitted =>
          obtain ⟨session, body⟩ := admitted
          cases routed : after.backends.route after.health
              (messagesCandidate
                (messagesResolution after (anthropicToOpenai host.serde body) body)
                (requestedModel (anthropicToOpenai host.serde body))) with
          | none =>
              simp only [messagesServe, routed]
              exact kept
          | some found =>
              simp only [messagesServe, routed]
              cases found.2.chat (anthropicToOpenai host.serde body) outcome with
              | ok resp => exact congrArg (meter _ _ _ _ _) kept
              | err error => exact kept
              | panicked => exact kept

/-! ## The session of an answer -/

/-- An entry point changes nothing about the sessions. -/
theorem chatCompletions_auth (host : Host) (net : Nat → HttpOutcome) (now : UInt64)
    (state : ApiState τ) (headers : HeaderMap) (body : Json) :
    (chatCompletions host net now state headers body).state.auth = state.auth := by
  rcases chatCompletions_cases host net now state headers body with
    ⟨refusal, members, policy, refused⟩ | ⟨session, members, policy, -, served⟩
  · rw [refused]
    rfl
  · rw [served]
    simp only [chatServe]
    cases (chatTrace net { state with members := members, policy := policy } body).result with
    | error lastErr => rfl
    | ok loopEnd => cases loopEnd <;> rfl

theorem messages_auth (host : Host) (outcome : HttpOutcome) (now : UInt64) (state : ApiState τ)
    (headers : HeaderMap) (raw : List UInt8) :
    (messages host outcome now state headers raw).state.auth = state.auth := by
  rcases messages_cases host outcome now state headers raw with
    ⟨refusal, members, policy, refused⟩ | ⟨body, session, members, policy, -, -, served⟩
  · rw [refused]
    rfl
  · rw [served]
    unfold messagesServe
    simp only
    split
    · rfl
    · split <;> rfl

/-- An answer is metered for a session that the service knows. -/
theorem mem_sessions_of_chatAnswer? {host : Host} {net : Nat → HttpOutcome} {now : UInt64}
    {state : ApiState τ} {headers : HeaderMap} {body : Json} {answer : Answer}
    (metered : chatAnswer? host net now state headers body = some answer) :
    answer.session ∈ state.auth.sessions.values := by
  unfold chatAnswer? at metered
  cases gate : chatGate host now state headers body with
  | mk verdict after =>
      rw [gate] at metered
      cases verdict with
      | error refusal => cases metered
      | ok session =>
          obtain ⟨token, -, found⟩ := (admitted_of_chatGate gate).token
          have same : answer.session = session := by
            simp only at metered
            split at metered
            · cases metered
              rfl
            · cases metered
          rw [same]
          exact HashMap.mem_values.mpr ⟨token, found⟩

theorem mem_sessions_of_messagesAnswer? {host : Host} {outcome : HttpOutcome} {now : UInt64}
    {state : ApiState τ} {headers : HeaderMap} {raw : List UInt8} {answer : Answer}
    (metered : messagesAnswer? host outcome now state headers raw = some answer) :
    answer.session ∈ state.auth.sessions.values := by
  unfold messagesAnswer? at metered
  cases gate : messagesGate host now state headers raw with
  | mk verdict after =>
      rw [gate] at metered
      cases verdict with
      | error refusal => cases metered
      | ok admitted =>
          obtain ⟨session, body⟩ := admitted
          obtain ⟨token, found⟩ : ∃ token, state.auth.sessions.lookup token = some session := by
            obtain ⟨token, -, found⟩ := (admitted_of_messagesGate gate).token
            exact ⟨token, found⟩
          have same : answer.session = session := by
            simp only at metered
            split at metered
            · cases metered
            · split at metered
              · cases metered
                rfl
              · cases metered
          rw [same]
          exact HashMap.mem_values.mpr ⟨token, found⟩

/-! ## Runs of requests -/

/-- A request to an entry point and all that it meets there; the usage table is the one
that the requests before it left. -/
inductive UsageRequest (τ : Type) where
  | chatCompletions (host : Host) (net : Nat → HttpOutcome) (now : UInt64) (state : ApiState τ)
      (headers : HeaderMap) (body : Json)
  | messages (host : Host) (outcome : HttpOutcome) (now : UInt64) (state : ApiState τ)
      (headers : HeaderMap) (raw : List UInt8)

namespace UsageRequest

def step : UsageRequest τ → UsageService τ → UsageService τ
  | .chatCompletions host net now state headers body, usage =>
      (Share.chatCompletions host net now { state with usage := usage } headers body).state.usage
  | .messages host outcome now state headers raw, usage =>
      (Share.messages host outcome now { state with usage := usage } headers raw).state.usage

def answer? : UsageRequest τ → UsageService τ → Option Answer
  | .chatCompletions host net now state headers body, usage =>
      chatAnswer? host net now { state with usage := usage } headers body
  | .messages host outcome now state headers raw, usage =>
      messagesAnswer? host outcome now { state with usage := usage } headers raw

theorem step_eq (request : UsageRequest τ) (usage : UsageService τ) :
    request.step usage = meteredWith (request.answer? usage) usage := by
  cases request with
  | chatCompletions host net now state headers body => exact chatCompletions_usage ..
  | messages host outcome now state headers raw => exact messages_usage ..

/-- The answers that the requests of a run meter, in their order. -/
def answers : List (UsageRequest τ) → UsageService τ → List Answer
  | [], _ => []
  | request :: requests, usage =>
      (request.answer? usage).toList ++ answers requests (request.step usage)

/-- A run of requests leaves what the run of their answers leaves. -/
theorem final_step (requests : List (UsageRequest τ)) (usage : UsageService τ) :
    final step requests usage = final Answer.apply (answers requests usage) usage := by
  induction requests generalizing usage with
  | nil => rfl
  | cons request requests ih =>
      rw [final_cons, ih, answers]
      have left := step_eq request usage
      cases metered : request.answer? usage with
      | none =>
          rw [metered] at left
          rw [show request.step usage = usage from left]
          rfl
      | some answer =>
          rw [metered] at left
          rw [show request.step usage = answer.apply usage from left]
          rfl

end UsageRequest

end AiPowerGateway.Share

import AiPowerGateway.Share.CandidateLoop

/-!
# When the loop falls back

The loop goes on to the next candidate after every error.  Trying another model
makes sense after a timeout, a broken connection, an overloaded or a failing
upstream; these are the retryable failures.
-/

namespace AiPowerGateway.Share

open Systems

variable {τ : Type}

namespace HttpOutcome

/-- A connection failure, a timeout, or one of the statuses 429 and 5xx. -/
def Retryable : HttpOutcome → Prop
  | .sendFailed _ => True
  | .bodyFailed _ => True
  | .answered status _ _ => status = 429 ∨ (500 ≤ status ∧ status < 600)

/-- A status that blames the request, other than 429. -/
def Refused : HttpOutcome → Prop
  | .answered status _ _ => 400 ≤ status ∧ status < 500 ∧ status ≠ 429
  | _ => False

theorem not_retryable_of_refused {outcome : HttpOutcome} (refused : outcome.Refused) :
    ¬ outcome.Retryable := by
  cases outcome with
  | sendFailed => exact refused.elim
  | bodyFailed => exact refused.elim
  | answered status line text =>
      obtain ⟨low, high, other⟩ := refused
      rintro (same | ⟨server, -⟩)
      · exact other same
      · omega

end HttpOutcome

section Request

variable (net : Nat → HttpOutcome) (state : ApiState τ) (body : Json)

/-- What becomes of the candidate at a position, for the body that is forwarded. -/
def outcomeAt (index : Nat) (candidate : String) : CandidateOutcome :=
  candidateOutcome net state (prepareOpenaiUpstream body).2 index candidate

/-- The candidate's call fails, or it is unroutable and the rule set has a name. -/
def Passed (index : Nat) (candidate : String) : Prop :=
  outcomeAt net state body index candidate = .unroutable ∧
      ruleSetName (chatResolution state body) ≠ "" ∨
    ∃ error, outcomeAt net state body index candidate = .failed error

/-- The candidate is unroutable or its call fails in a retryable way. -/
def MayPass (index : Nat) (candidate : String) : Prop :=
  outcomeAt net state body index candidate = .unroutable ∨
    (∃ error, outcomeAt net state body index candidate = .failed error) ∧ (net index).Retryable

/-- The loop goes on only past what may be passed, and makes no call after a refusal. -/
structure FallsBackOnRetryable (attempts : List Attempt) : Prop where
  advances (index : Nat) (candidate next : String) :
    (chatCandidates state body)[index]? = some candidate →
    (next, index + 1) ∈ (chatTrace net state body).visited →
    MayPass net state body index candidate
  halts (index : Nat) (candidate : String) (error : RuntimeError) :
    (chatCandidates state body)[index]? = some candidate →
    outcomeAt net state body index candidate = .failed error → (net index).Refused →
    ∀ attempt ∈ attempts, attempt.index ≤ index

/-- Every candidate with a successor, before which and at which the loop finds no
answer, may be passed. -/
def OnlyRetryableFailures : Prop :=
  ∀ index candidate, (chatCandidates state body)[index]? = some candidate →
    index + 1 < (chatCandidates state body).length →
    (∀ i ≤ index, ∀ earlier, (chatCandidates state body)[i]? = some earlier →
      Passed net state body i earlier) →
    MayPass net state body index candidate

end Request

section Loop

variable {net : Nat → HttpOutcome} {state : ApiState τ} {body : Json}

/-- The loop reaches a candidate exactly when every earlier one is passed. -/
theorem visited_iff {index : Nat} {candidate : String} :
    (candidate, index) ∈ (chatTrace net state body).visited ↔
      (chatCandidates state body)[index]? = some candidate ∧
        ∀ i < index, ∀ earlier, (chatCandidates state body)[i]? = some earlier →
          Passed net state body i earlier := by
  have reached : (candidate, index) ∈ (chatTrace net state body).visited ↔
      (chatCandidates state body)[index]? = some candidate ∧
        FirstStop.Passes (tryCandidate net state (prepareOpenaiUpstream body).2
          (ruleSetName (chatResolution state body))) 0
          ((chatCandidates state body).take index) := by
    unfold chatTrace
    rw [← FirstStop.mem_visited_iff, Nat.zero_add]
  rw [reached]
  refine and_congr_right fun _ => ?_
  constructor
  · intro passes i small earlier found
    have advances := passes i earlier (by rwa [List.getElem?_take_of_lt small])
    rwa [Nat.zero_add, tryCandidate_advance_iff] at advances
  · intro passed i earlier found
    have small : i < index := by
      by_contra large
      rw [List.getElem?_take_eq_none (Nat.le_of_not_lt large)] at found
      cases found
    rw [List.getElem?_take_of_lt small] at found
    rw [Nat.zero_add, tryCandidate_advance_iff]
    exact passed i small earlier found

theorem mayPass_of_advance (retryable : OnlyRetryableFailures net state body) {index : Nat}
    {candidate next : String} (found : (chatCandidates state body)[index]? = some candidate)
    (visited : (next, index + 1) ∈ (chatTrace net state body).visited) :
    MayPass net state body index candidate := by
  obtain ⟨foundNext, passed⟩ := visited_iff.mp visited
  exact retryable index candidate found (List.getElem?_eq_some_iff.mp foundNext).1
    fun i small => passed i (Nat.lt_succ_of_le small)

/-- A later candidate is visited only after the next one. -/
theorem visited_next {index later : Nat} {candidate : String}
    (visited : (candidate, later) ∈ (chatTrace net state body).visited) (small : index < later) :
    ∃ next, (next, index + 1) ∈ (chatTrace net state body).visited := by
  obtain ⟨found, passed⟩ := visited_iff.mp visited
  have bound := (List.getElem?_eq_some_iff.mp found).1
  have inside : index + 1 < (chatCandidates state body).length := by omega
  refine ⟨(chatCandidates state body)[index + 1], visited_iff.mpr
    ⟨List.getElem?_eq_getElem inside, fun i early => passed i (by omega)⟩⟩

/-- A call was made for a visited candidate. -/
theorem visited_of_attempt [Counter τ] {host : Host} {session : Session} {attempt : Attempt}
    (mem : attempt ∈ (chatServe host net state session body).attempts) :
    (attempt.candidate, attempt.index) ∈ (chatTrace net state body).visited := by
  obtain ⟨⟨candidate, index⟩, visited, called⟩ := List.mem_filterMap.mp mem
  unfold attempt? at called
  obtain ⟨found, -, built⟩ := Option.map_eq_some_iff.mp called
  rw [← built]
  exact visited

end Loop

/--
An admitted request falls back on retryable failures alone exactly when no routed
candidate with a successor fails in another way before the first answer.
-/
theorem falls_back_on_retryable_iff [Counter τ] {host : Host} {net : Nat → HttpOutcome}
    {now : UInt64} {before state : ApiState τ} {headers : HeaderMap} {session : Session}
    {body : Json}
    (admitted : chatGate host now before headers body = (.ok session, state)) :
    FallsBackOnRetryable net state body
        (chatCompletions host net now before headers body).attempts ↔
      OnlyRetryableFailures net state body := by
  have serves : chatCompletions host net now before headers body =
      chatServe host net state session body := by
    unfold chatCompletions
    rw [admitted]
  rw [serves]
  constructor
  · intro falls index candidate found inside passed
    have visited : ((chatCandidates state body)[index + 1], index + 1) ∈
        (chatTrace net state body).visited :=
      visited_iff.mpr
        ⟨List.getElem?_eq_getElem inside, fun i small => passed i (Nat.le_of_lt_succ small)⟩
    exact falls.advances index candidate _ found visited
  · intro retryable
    refine ⟨fun index candidate next => mayPass_of_advance retryable, ?_⟩
    intro index candidate error found failed refused attempt mem
    by_contra late
    obtain ⟨next, visited⟩ := visited_next (visited_of_attempt mem) (Nat.lt_of_not_le late)
    rcases mayPass_of_advance retryable found visited with unroutable | ⟨-, mayRetry⟩
    · rw [failed] at unroutable
      cases unroutable
    · exact HttpOutcome.not_retryable_of_refused refused mayRetry

/-! ## A timeout, and a rejected key -/

/-- A rule set with two custom endpoints behind it. -/
def pairBackends : List Backend :=
  ["first", "second"].map fun name => openAICompatBackend SerdeJson.compact
    { provider := .custom, apiKey := "key", models := ["model-" ++ name],
      baseUrl := some "https://models.example/v1", name := some name }

def pairRules : RuleSet := fixedRules "pair" ["model-first", "model-second"]

def pairService : ApiState UInt64 :=
  admittedService pairBackends [pairRules] (modelRequest "pair")

/-- The first endpoint answers so, the second with a completion. -/
def firstFails (outcome : HttpOutcome) : Nat → HttpOutcome
  | 0 => outcome
  | _ + 1 => .answered 200 "200 OK" "{}"

theorem pairAdmitted :
    chatGate Host.compact 1000 (smallService pairBackends [pairRules]) smallHeaders
      (modelRequest "pair") = (.ok smallSession, pairService) :=
  Prod.ext (by rfl) rfl

theorem pairCandidates :
    chatCandidates pairService (modelRequest "pair") = ["model-first", "model-second"] := by decide

theorem falls_back_on_timeout :
    FallsBackOnRetryable (firstFails (.sendFailed "timeout")) pairService (modelRequest "pair")
      (chatCompletions Host.compact (firstFails (.sendFailed "timeout")) 1000
        (smallService pairBackends [pairRules]) smallHeaders (modelRequest "pair")).attempts := by
  refine (falls_back_on_retryable_iff pairAdmitted).mpr ?_
  intro index candidate found inside _
  rw [pairCandidates] at found inside
  match index with
  | 0 =>
      cases found
      exact Or.inr ⟨⟨.other "upstream request: timeout", by decide⟩, trivial⟩
  | index + 1 =>
      simp only [List.length_cons, List.length_nil] at inside
      omega

/-- After a rejected key the second endpoint is called all the same. -/
theorem falls_back_on_rejected_key :
    ¬ ∀ (host : Host) (net : Nat → HttpOutcome) (now : UInt64) (before state : ApiState UInt64)
        (headers : HeaderMap) (session : Session) (body : Json),
      chatGate host now before headers body = (.ok session, state) →
        FallsBackOnRetryable net state body
          (chatCompletions host net now before headers body).attempts := by
  intro falls
  have rejected := falls Host.compact (firstFails (.answered 401 "401 Unauthorized" "{}")) 1000
    (smallService pairBackends [pairRules]) pairService smallHeaders smallSession
    (modelRequest "pair") pairAdmitted
  have visited : (chatTrace (firstFails (.answered 401 "401 Unauthorized" "{}")) pairService
      (modelRequest "pair")).visited = [("model-first", 0), ("model-second", 1)] := by decide
  rcases rejected.advances 0 "model-first" "model-second" (by rw [pairCandidates]; rfl)
    (by rw [visited]; simp) with unroutable | ⟨-, retryable⟩
  · exact absurd unroutable (by decide)
  · rcases retryable with same | ⟨server, -⟩
    · exact absurd same (by decide)
    · exact absurd server (by decide)

end AiPowerGateway.Share

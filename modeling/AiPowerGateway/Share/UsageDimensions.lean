import AiPowerGateway.Collections.TableSum
import AiPowerGateway.Share.ServedAnswers

/-!
# The dimensions of usage

The tokens of a member by provider and by model add up to the member's total, less the
tokens of the calls whose name in that dimension is empty: a request without a model that
the only backend serves is metered under the empty model.
-/

namespace AiPowerGateway.Share

open Systems EventRuns

/-- The tokens of a member's calls that have no name in a dimension. -/
def unnamedTokens (name : Answer → String) (memberId : String) (answers : List Answer) : Nat :=
  tokensOf memberId (answers.filter fun answer => name answer = "")

/-- The dimensions of a member who was given the answers. -/
structure Reconciles (answers : List Answer) (memberId : String) (entry : MemberUsage Nat) :
    Prop where
  providers : entry.providerTokens.sum + unnamedTokens Answer.providerLabel memberId answers =
    entry.total
  models : entry.modelTokens.sum + unnamedTokens Answer.candidate memberId answers = entry.total
  ruleSets : entry.ruleSetTokens.sum ≤ entry.total

/-! ## One answer -/

section Step

variable {past : List Answer} {answer : Answer} {memberId : String}

/-- What an answer adds to the tokens without a name. -/
def unnamedAmount (name : Answer → String) (answer : Answer) : Nat :=
  if name answer = "" then answer.tokens else 0

theorem sum_addTokens (key : String) (tokens : Nat) (table : HashMap Nat) :
    (addTokens key tokens table).sum + (if key = "" then tokens else 0) = table.sum + tokens := by
  unfold addTokens
  by_cases empty : key = ""
  · rw [if_pos empty, if_pos empty]
  · rw [if_neg empty, if_neg empty]
    exact HashMap.sum_upsert key tokens table

theorem tokensOf_concat (memberId : String) (past : List Answer) (answer : Answer) :
    tokensOf memberId (past ++ [answer]) =
      tokensOf memberId past + if answer.memberId = memberId then answer.tokens else 0 := by
  induction past with
  | nil => rw [List.nil_append, tokensOf_cons, Nat.add_comm]
  | cons first past ih =>
      rw [List.cons_append, tokensOf_cons, ih, tokensOf_cons, Nat.add_assoc]

theorem unnamedTokens_concat (name : Answer → String) (memberId : String) (past : List Answer)
    (answer : Answer) :
    unnamedTokens name memberId (past ++ [answer]) =
      unnamedTokens name memberId past +
        if answer.memberId = memberId then unnamedAmount name answer else 0 := by
  unfold unnamedTokens unnamedAmount
  rw [List.filter_append]
  by_cases empty : name answer = ""
  · rw [if_pos empty, ← tokensOf_concat]
    simp [empty]
  · simp [empty]

/-- A call of the member itself adds its tokens to the total and under its names. -/
theorem Reconciles.charge {entry : MemberUsage Nat} (before : Reconciles past memberId entry)
    (own : answer.memberId = memberId) :
    Reconciles (past ++ [answer]) memberId (answer.charge entry) := by
  have total : (answer.charge entry).total = entry.total + answer.tokens :=
    Nat.add_add_add_comm entry.promptTokens answer.promptTokens.toNat entry.completionTokens
      answer.completionTokens.toNat
  have providers :=
    sum_addTokens answer.providerLabel answer.tokens entry.providerTokens
  have models := sum_addTokens answer.candidate answer.tokens entry.modelTokens
  have ruleSets := sum_addTokens answer.ruleSet answer.tokens entry.ruleSetTokens
  refine ⟨?_, ?_, ?_⟩
  · have earlier := before.providers
    rw [unnamedTokens_concat, if_pos own, total]
    show (addTokens answer.providerLabel answer.tokens entry.providerTokens).sum +
      (unnamedTokens _ _ _ + unnamedAmount _ _) = _
    unfold unnamedAmount
    omega
  · have earlier := before.models
    rw [unnamedTokens_concat, if_pos own, total]
    show (addTokens answer.candidate answer.tokens entry.modelTokens).sum +
      (unnamedTokens _ _ _ + unnamedAmount _ _) = _
    unfold unnamedAmount
    omega
  · have earlier := before.ruleSets
    rw [total]
    show (addTokens answer.ruleSet answer.tokens entry.ruleSetTokens).sum ≤ _
    omega

/-- An answer keeps the dimensions of every member. -/
theorem Reconciles.apply {usage : UsageService Nat}
    (before : Reconciles past memberId (usage.entry memberId)) :
    Reconciles (past ++ [answer]) memberId ((answer.apply usage).entry memberId) := by
  by_cases own : answer.memberId = memberId
  · subst own
    rw [UsageService.entry, lookup_apply_self]
    exact before.charge rfl
  · rw [UsageService.entry, lookup_apply_ne own]
    exact
      { providers := by rw [unnamedTokens_concat, if_neg own]; exact before.providers
        models := by rw [unnamedTokens_concat, if_neg own]; exact before.models
        ruleSets := before.ruleSets }

end Step

/-! ## Every run -/

theorem reconciles_empty (memberId : String) :
    Reconciles [] memberId ((∅ : UsageService Nat).entry memberId) :=
  ⟨rfl, rfl, Nat.le_refl 0⟩

theorem Reconciles.final {past : List Answer} {memberId : String} {usage : UsageService Nat}
    (before : Reconciles past memberId (usage.entry memberId)) (answers : List Answer) :
    Reconciles (past ++ answers) memberId
      ((EventRuns.final Answer.apply answers usage).entry memberId) := by
  induction answers generalizing past usage with
  | nil => rw [List.append_nil]; exact before
  | cons answer answers ih =>
      rw [List.append_cons]
      exact ih before.apply

theorem unnamedTokens_eq_zero {name : Answer → String} {memberId : String}
    {answers : List Answer} :
    unnamedTokens name memberId answers = 0 ↔
      ∀ answer ∈ answers, answer.memberId = memberId → name answer = "" → answer.tokens = 0 := by
  simp only [unnamedTokens, tokensOf, List.sum_eq_zero_iff_forall_eq_nat, List.mem_map,
    List.mem_filter, decide_eq_true_eq]
  constructor
  · intro none answer mem own empty
    exact none _ ⟨answer, ⟨⟨mem, empty⟩, own⟩, rfl⟩
  · rintro none _ ⟨answer, ⟨⟨mem, empty⟩, own⟩, rfl⟩
    exact none answer mem own empty

/--
After any run of requests from an empty table the dimensions of every member reconcile with
the total, up to the calls without a name; they are the total itself exactly when no call of
the member with tokens lacks one.
-/
theorem usage_dimensions_reconcile (requests : List (UsageRequest Nat)) (memberId : String) :
    Reconciles (UsageRequest.answers requests ∅) memberId
        ((final UsageRequest.step requests ∅).entry memberId) ∧
      (((final UsageRequest.step requests ∅).entry memberId).providerTokens.sum =
            ((final UsageRequest.step requests ∅).entry memberId).total ∧
          ((final UsageRequest.step requests ∅).entry memberId).modelTokens.sum =
            ((final UsageRequest.step requests ∅).entry memberId).total ↔
        ∀ answer ∈ UsageRequest.answers requests (∅ : UsageService Nat),
          answer.memberId = memberId → answer.providerLabel = "" ∨ answer.candidate = "" →
            answer.tokens = 0) := by
  have run := (reconciles_empty memberId).final (UsageRequest.answers requests ∅)
  rw [List.nil_append, ← UsageRequest.final_step] at run
  refine ⟨run, ?_⟩
  have providers := run.providers
  have models := run.models
  constructor
  · rintro ⟨byProvider, byModel⟩ answer mem own (empty | empty)
    · exact unnamedTokens_eq_zero.mp (by omega) answer mem own empty
    · exact unnamedTokens_eq_zero.mp (by omega) answer mem own empty
  · intro named
    have providersNamed : unnamedTokens Answer.providerLabel memberId
        (UsageRequest.answers requests (∅ : UsageService Nat)) = 0 :=
      unnamedTokens_eq_zero.mpr fun answer mem own empty => named answer mem own (.inl empty)
    have modelsNamed : unnamedTokens Answer.candidate memberId
        (UsageRequest.answers requests (∅ : UsageService Nat)) = 0 :=
      unnamedTokens_eq_zero.mpr fun answer mem own empty => named answer mem own (.inr empty)
    omega

/-- The small service with the mock alone, over natural-number counters. -/
def mockService : ApiState Nat := { smallService [mockBackend] [] with usage := ∅ }

/-- A request that names no model. -/
def modellessRequest : UsageRequest Nat :=
  .chatCompletions Host.compact (fun _ => .sendFailed "offline") 1000 mockService smallHeaders
    (.obj [])

/-- The mock serves the request, and its tokens are under no model. -/
theorem not_usage_dimensions_reconcile_modelless :
    ((final UsageRequest.step [modellessRequest] ∅).entry "pc-1").providerTokens.sum = 8 ∧
      ((final UsageRequest.step [modellessRequest] ∅).entry "pc-1").modelTokens.sum = 0 ∧
      ((final UsageRequest.step [modellessRequest] ∅).entry "pc-1").total = 8 ∧
      ¬ ∀ (requests : List (UsageRequest Nat)) (memberId : String),
        let entry := (final UsageRequest.step requests ∅).entry memberId
        entry.providerTokens.sum = entry.modelTokens.sum ∧
          entry.modelTokens.sum = entry.total ∧ entry.ruleSetTokens.sum ≤ entry.total := by
  have providers :
      ((final UsageRequest.step [modellessRequest] ∅).entry "pc-1").providerTokens.sum = 8 := by
    decide
  have models :
      ((final UsageRequest.step [modellessRequest] ∅).entry "pc-1").modelTokens.sum = 0 := by
    decide
  refine ⟨providers, models, by decide, fun reconciled => ?_⟩
  have same := (reconciled [modellessRequest] "pc-1").1
  rw [providers, models] at same
  cases same

end AiPowerGateway.Share

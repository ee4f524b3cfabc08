import AiPowerGateway.Collections.HashMap

/-!
# Usage and quotas

Token usage per member, split by model, provider and rule set, and the limit on a
member's total.  The arithmetic of the counters is a parameter: the machine words
of the program wrap, the natural numbers do not.
-/

namespace AiPowerGateway.Share

/-- Counters that token counts are added to and that a limit is compared with. -/
class Counter (τ : Type) extends Zero τ, Add τ where
  ofTokens : UInt64 → τ
  atLeast : τ → UInt64 → Bool

instance : Counter UInt64 where
  zero := 0
  add first second := first + second
  ofTokens tokens := tokens
  atLeast used limit := limit ≤ used

instance : Counter Nat where
  zero := 0
  add first second := first + second
  ofTokens tokens := tokens.toNat
  atLeast used limit := limit.toNat ≤ used

variable {τ : Type} [Counter τ]

structure MemberUsage (τ : Type) where
  memberId : String
  promptTokens : τ
  completionTokens : τ
  calls : τ
  modelTokens : HashMap τ
  providerTokens : HashMap τ
  ruleSetTokens : HashMap τ

namespace MemberUsage

def fresh (memberId : String) : MemberUsage τ where
  memberId := memberId
  promptTokens := 0
  completionTokens := 0
  calls := 0
  modelTokens := ∅
  providerTokens := ∅
  ruleSetTokens := ∅

def total (usage : MemberUsage τ) : τ := usage.promptTokens + usage.completionTokens

end MemberUsage

/-- Add to the entry of a key, unless the key is empty. -/
def addTokens (key : String) (tokens : τ) (table : HashMap τ) : HashMap τ :=
  if key = "" then table else table.upsert key 0 (· + tokens)

/-- The usage of one served call. -/
def MemberUsage.addCall (provider model : String) (promptTokens completionTokens : UInt64)
    (usage : MemberUsage τ) : MemberUsage τ :=
  let tokens : τ := Counter.ofTokens promptTokens + Counter.ofTokens completionTokens
  { usage with
    promptTokens := usage.promptTokens + Counter.ofTokens promptTokens
    completionTokens := usage.completionTokens + Counter.ofTokens completionTokens
    calls := usage.calls + Counter.ofTokens 1
    providerTokens := addTokens provider tokens usage.providerTokens
    modelTokens := addTokens model tokens usage.modelTokens }

def MemberUsage.addRule (ruleSet : String) (tokens : τ) (usage : MemberUsage τ) :
    MemberUsage τ :=
  { usage with ruleSetTokens := usage.ruleSetTokens.upsert ruleSet 0 (· + tokens) }

abbrev UsageService (τ : Type) := HashMap (MemberUsage τ)

namespace UsageService

def record (memberId provider model : String) (promptTokens completionTokens : UInt64)
    (usage : UsageService τ) : UsageService τ :=
  usage.upsert memberId (.fresh memberId)
    (MemberUsage.addCall provider model promptTokens completionTokens)

/-- The rule-set dimension alone; the member's totals are recorded with the call. -/
def recordRule (memberId ruleSet : String) (tokens : τ) (usage : UsageService τ) :
    UsageService τ :=
  if ruleSet = "" then usage
  else usage.upsert memberId (.fresh memberId) (MemberUsage.addRule ruleSet tokens)

/-- A member's recorded total; nothing recorded counts as zero. -/
def used (memberId : String) (usage : UsageService τ) : τ :=
  match usage.lookup memberId with
  | some entry => entry.total
  | none => 0

/-- The rule-set dimension of a member who has an entry leaves the total alone. -/
theorem used_recordRule {usage : UsageService τ} {memberId : String}
    (recorded : (usage.lookup memberId).isSome) (ruleSet : String) (tokens : τ) (other : String) :
    (usage.recordRule memberId ruleSet tokens).used other = usage.used other := by
  unfold recordRule
  split
  · rfl
  · obtain ⟨entry, found⟩ := Option.isSome_iff_exists.mp recorded
    by_cases same : other = memberId
    · subst same
      simp [used, found, MemberUsage.addRule, MemberUsage.total]
    · simp [used, HashMap.lookup_upsert_ne same]

theorem isSome_lookup_record (memberId provider model : String)
    (promptTokens completionTokens : UInt64) (usage : UsageService τ) :
    ((usage.record memberId provider model promptTokens completionTokens).lookup
      memberId).isSome := by
  simp [record]

/-- Recording for one member leaves the entries of the others alone. -/
theorem lookup_record_ne {memberId other : String} (differ : other ≠ memberId)
    (provider model : String) (promptTokens completionTokens : UInt64) (usage : UsageService τ) :
    (usage.record memberId provider model promptTokens completionTokens).lookup other =
      usage.lookup other :=
  HashMap.lookup_upsert_ne differ _ _ _

end UsageService

/-! ## Quotas -/

structure QuotaExceeded where
  limit : UInt64
  deriving DecidableEq, Repr

/-- The limit of each member who has one. -/
abbrev QuotaService := HashMap UInt64

namespace QuotaService

/-- A limit of zero lifts the limit. -/
def set (memberId : String) (limit : UInt64) (quota : QuotaService) : QuotaService :=
  if limit = 0 then quota.erase memberId else quota.insert memberId limit

def check (memberId : String) (used : τ) (quota : QuotaService) : Except QuotaExceeded Unit :=
  match quota.lookup memberId with
  | some limit =>
      if 0 < limit && Counter.atLeast used limit then .error ⟨limit⟩ else .ok ()
  | none => .ok ()

/-- The total is below the limit, whenever a limit is set. -/
def Below (memberId : String) (used : τ) (quota : QuotaService) : Prop :=
  ∀ limit, quota.lookup memberId = some limit → 0 < limit → Counter.atLeast used limit = false

theorem check_eq_ok {memberId : String} {used : τ} {quota : QuotaService} :
    quota.check memberId used = .ok () ↔ quota.Below memberId used := by
  unfold check Below
  cases found : quota.lookup memberId with
  | none => simp
  | some limit =>
      by_cases positive : 0 < limit
      · cases Counter.atLeast used limit <;> simp [positive]
      · simp [positive]

end QuotaService

end AiPowerGateway.Share

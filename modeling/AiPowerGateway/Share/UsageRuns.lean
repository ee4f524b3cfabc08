import AiPowerGateway.Systems.LockedSave
import AiPowerGateway.Share.Usage

/-!
# Concurrent usage records and quota settings

The usage table and the quota table under any number of overlapping calls.  Each
service changes its table under the write lock and saves it under the read lock.
When all calls have returned, every counter is its initial value plus what the calls
added, every limit is the last one set, and a restart finds both tables again.
-/

namespace AiPowerGateway.Share

open Systems

/-! ## The usage table -/

inductive UsageCall where
  | record (memberId provider model : String) (promptTokens completionTokens : UInt64)
  | recordRule (memberId ruleSet : String) (tokens : UInt64)

/-- `record_rule` returns at once when no rule set was hit. -/
def UsageCall.skips : UsageCall → Bool
  | .record .. => false
  | .recordRule _ ruleSet _ => ruleSet = ""

def UsageCall.apply : UsageCall → UsageService Nat → UsageService Nat
  | .record memberId provider model promptTokens completionTokens =>
      UsageService.record memberId provider model promptTokens completionTokens
  | .recordRule memberId ruleSet tokens =>
      UsageService.recordRule memberId ruleSet (Counter.ofTokens tokens)

def usageCalls : LockedSave.Calls UsageCall (UsageService Nat) where
  skips := UsageCall.skips
  apply := UsageCall.apply
  empty := ∅

/-- The counters of one member. -/
inductive UsageKey where
  | prompt
  | completion
  | calls
  | provider (name : String)
  | model (name : String)
  | ruleSet (name : String)
  deriving DecidableEq, Repr

namespace UsageKey

variable {τ : Type} [Counter τ]

/-- The value under a name; nothing stored counts as zero. -/
def stored (name : String) (table : HashMap τ) : τ := (table.lookup name).getD 0

def read : UsageKey → MemberUsage τ → τ
  | .prompt, usage => usage.promptTokens
  | .completion, usage => usage.completionTokens
  | .calls, usage => usage.calls
  | .provider name, usage => stored name usage.providerTokens
  | .model name, usage => stored name usage.modelTokens
  | .ruleSet name, usage => stored name usage.ruleSetTokens

theorem read_fresh (key : UsageKey) (memberId : String) :
    key.read (MemberUsage.fresh memberId : MemberUsage τ) = 0 := by
  cases key <;> rfl

end UsageKey

/-- A counter of a member; a member without an entry has counted nothing. -/
def UsageService.counter (memberId : String) (key : UsageKey) (usage : UsageService Nat) : Nat :=
  ((usage.lookup memberId).map key.read).getD 0

/-- What tokens under a name add to the counter of another. -/
def tokensFor (name counted : String) (tokens : Nat) : Nat :=
  if counted ≠ "" ∧ counted = name then tokens else 0

/-- What one call adds to a counter of its own member. -/
def UsageCall.ownAmount (key : UsageKey) : UsageCall → Nat
  | .record _ provider model promptTokens completionTokens =>
      match key with
      | .prompt => promptTokens.toNat
      | .completion => completionTokens.toNat
      | .calls => 1
      | .provider name => tokensFor name provider (promptTokens.toNat + completionTokens.toNat)
      | .model name => tokensFor name model (promptTokens.toNat + completionTokens.toNat)
      | .ruleSet _ => 0
  | .recordRule _ ruleSet tokens =>
      match key with
      | .ruleSet name => tokensFor name ruleSet tokens.toNat
      | _ => 0

def UsageCall.memberId : UsageCall → String
  | .record memberId .. => memberId
  | .recordRule memberId .. => memberId

/-- What one call adds to a counter. -/
def UsageCall.amount (memberId : String) (key : UsageKey) (call : UsageCall) : Nat :=
  if call.memberId = memberId then call.ownAmount key else 0

/-! ## One call -/

theorem stored_addTokens (name counted : String) (tokens : Nat) (table : HashMap Nat) :
    UsageKey.stored name (addTokens counted tokens table) =
      UsageKey.stored name table + tokensFor name counted tokens := by
  by_cases empty : counted = ""
  · simp [addTokens, tokensFor, empty]
  · by_cases same : counted = name
    · subst same
      rw [addTokens, if_neg empty, UsageKey.stored, HashMap.lookup_upsert_self, tokensFor,
        if_pos ⟨empty, rfl⟩]
      rfl
    · simp [addTokens, tokensFor, empty, same, UsageKey.stored,
        HashMap.lookup_upsert_ne (Ne.symm same)]

theorem read_addCall (key : UsageKey) (memberId provider model : String)
    (promptTokens completionTokens : UInt64) (usage : MemberUsage Nat) :
    key.read (usage.addCall provider model promptTokens completionTokens) =
      key.read usage +
        (UsageCall.record memberId provider model promptTokens completionTokens).ownAmount key := by
  cases key with
  | prompt => rfl
  | completion => rfl
  | calls => rfl
  | provider name => exact stored_addTokens name provider _ _
  | model name => exact stored_addTokens name model _ _
  | ruleSet name => rfl

theorem read_addRule (key : UsageKey) (memberId : String) {ruleSet : String} (tokens : UInt64)
    (usage : MemberUsage Nat) (hit : ruleSet ≠ "") :
    key.read (usage.addRule ruleSet (Counter.ofTokens tokens)) =
      key.read usage + (UsageCall.recordRule memberId ruleSet tokens).ownAmount key := by
  cases key with
  | ruleSet name =>
      have added := stored_addTokens name ruleSet tokens.toNat usage.ruleSetTokens
      rw [addTokens, if_neg hit] at added
      exact added
  | prompt => rfl
  | completion => rfl
  | calls => rfl
  | provider name => rfl
  | model name => rfl

/-- Changing the entry of one member adds to the counters of that member alone. -/
theorem counter_upsert (usage : UsageService Nat) (own memberId : String) (key : UsageKey)
    {change : MemberUsage Nat → MemberUsage Nat} {amount : Nat}
    (adds : ∀ entry, key.read (change entry) = key.read entry + amount) :
    UsageService.counter memberId key (usage.upsert own (.fresh own) change) =
      usage.counter memberId key + if own = memberId then amount else 0 := by
  by_cases same : own = memberId
  · subst same
    rw [UsageService.counter, HashMap.lookup_upsert_self, Option.map_some, Option.getD_some, adds,
      if_pos rfl, UsageService.counter]
    cases usage.lookup own with
    | none => rw [Option.getD_none, UsageKey.read_fresh]; rfl
    | some entry => rfl
  · rw [UsageService.counter, HashMap.lookup_upsert_ne (Ne.symm same), if_neg same]
    rfl

/-- One call adds its amount to every counter. -/
theorem counter_apply (call : UsageCall) (usage : UsageService Nat) (memberId : String)
    (key : UsageKey) :
    (call.apply usage).counter memberId key =
      usage.counter memberId key + call.amount memberId key := by
  cases call with
  | record own provider model promptTokens completionTokens =>
      exact counter_upsert usage own memberId key fun entry =>
        read_addCall key own provider model promptTokens completionTokens entry
  | recordRule own ruleSet tokens =>
      by_cases empty : ruleSet = ""
      · have nothing : (UsageCall.recordRule own ruleSet tokens).amount memberId key = 0 := by
          cases key <;> simp [UsageCall.amount, UsageCall.ownAmount, tokensFor, empty]
        rw [nothing]
        simp [UsageCall.apply, UsageService.recordRule, empty]
      · simp only [UsageCall.apply, UsageService.recordRule, if_neg empty]
        exact counter_upsert usage own memberId key fun entry =>
          read_addRule key own tokens entry empty

/-- A sequence of calls adds the sum of their amounts. -/
theorem counter_foldl (calls : List UsageCall) (usage : UsageService Nat) (memberId : String)
    (key : UsageKey) :
    (calls.foldl (fun table call => call.apply table) usage).counter memberId key =
      usage.counter memberId key + (calls.map (UsageCall.amount memberId key)).sum := by
  induction calls generalizing usage with
  | nil => rfl
  | cons call calls ih =>
      rw [List.foldl_cons, ih, counter_apply, List.map_cons, List.sum_cons, Nat.add_assoc]

/-- A call that returns at once would have added nothing. -/
theorem amount_skips {call : UsageCall} (skips : call.skips = true) (memberId : String)
    (key : UsageKey) : call.amount memberId key = 0 := by
  cases call with
  | record => cases skips
  | recordRule own ruleSet tokens =>
      have empty : ruleSet = "" := by simpa [UsageCall.skips] using skips
      cases key <;> simp [UsageCall.amount, UsageCall.ownAmount, tokensFor, empty]

theorem sum_acting (calls : List UsageCall) (memberId : String) (key : UsageKey) :
    ((calls.filter fun call => !call.skips).map (UsageCall.amount memberId key)).sum =
      (calls.map (UsageCall.amount memberId key)).sum := by
  induction calls with
  | nil => rfl
  | cons call calls ih =>
      cases skips : call.skips with
      | true => simp [skips, ih, amount_skips skips]
      | false => simp [skips, ih]

/-! ## The quota table -/

structure QuotaCall where
  memberId : String
  limit : UInt64

def quotaCalls : LockedSave.Calls QuotaCall QuotaService where
  skips _ := false
  apply call := QuotaService.set call.memberId call.limit
  empty := ∅

/-- What a call leaves as the limit of a member, when it is about that member. -/
def QuotaCall.leaves (memberId : String) (call : QuotaCall) : Option (Option UInt64) :=
  if call.memberId = memberId then some (if call.limit = 0 then none else some call.limit)
  else none

/-- The limit that the last call about a member left. -/
def lastSet (memberId : String) (calls : List QuotaCall) : Option (Option UInt64) :=
  calls.reverse.findSome? (QuotaCall.leaves memberId)

theorem lookup_quotaSet (call : QuotaCall) (quota : QuotaService) (memberId : String) :
    some ((quota.set call.memberId call.limit).lookup memberId) =
      (call.leaves memberId).or (some (quota.lookup memberId)) := by
  by_cases same : call.memberId = memberId
  · subst same
    by_cases lifts : call.limit = 0
    · simp [QuotaService.set, QuotaCall.leaves, lifts]
    · simp [QuotaService.set, QuotaCall.leaves, lifts, AList.lookup_insert]
  · by_cases lifts : call.limit = 0
    · simp [QuotaService.set, QuotaCall.leaves, lifts, same, AList.lookup_erase_ne (Ne.symm same)]
    · simp [QuotaService.set, QuotaCall.leaves, lifts, same, AList.lookup_insert_ne (Ne.symm same)]

/-- Each limit is the one that the last call about the member left. -/
theorem lookup_quotaFoldl (calls : List QuotaCall) (quota : QuotaService) (memberId : String) :
    (calls.foldl (fun table call => quotaCalls.apply call table) quota).lookup memberId =
      (lastSet memberId calls).getD (quota.lookup memberId) := by
  have last := HashMap.foldl_lastWriter
    (fun table : QuotaService => some (table.lookup memberId)) (QuotaCall.leaves memberId)
    (fun table call => lookup_quotaSet call table memberId) calls quota
  rw [← lastSet] at last
  apply Option.some.inj
  rw [show quotaCalls.apply = fun call => QuotaService.set call.memberId call.limit from rfl, last]
  cases lastSet memberId calls <;> rfl

/-! ## Once every call has returned -/

/--
In every interleaving of any number of calls: when all have returned, each counter is
its initial value plus what the calls added, each limit is the one of the last `set`
in lock order, and the files hold the tables.
-/
theorem no_lost_update :
    (∀ file pool, (usageCalls.system file).Reachable pool → LockedSave.Quiet pool →
      (∀ memberId key, UsageService.counter memberId key pool.shared.memory =
        (usageCalls.load file).counter memberId key +
          (pool.threads.map fun caller => caller.call.amount memberId key).sum) ∧
      usageCalls.load pool.shared.file = pool.shared.memory ∧
      (LockedSave.acting usageCalls pool ≠ [] → pool.shared.file = some pool.shared.memory)) ∧
    (∀ file pool, (quotaCalls.system file).Reachable pool → LockedSave.Quiet pool →
      pool.shared.applied.Perm (pool.threads.map LockedSave.Caller.call) ∧
      (∀ memberId, AList.lookup memberId pool.shared.memory =
        (lastSet memberId pool.shared.applied).getD
          ((quotaCalls.load file).lookup memberId)) ∧
      quotaCalls.load pool.shared.file = pool.shared.memory ∧
      (pool.threads ≠ [] → pool.shared.file = some pool.shared.memory)) := by
  constructor
  · intro file pool reached quiet
    obtain ⟨applied, memory, reloaded, written⟩ := LockedSave.nothing_lost reached quiet
    refine ⟨fun memberId key => ?_, reloaded, written⟩
    have folded := counter_foldl pool.shared.applied (usageCalls.load file) memberId key
    have sums := (applied.map (UsageCall.amount memberId key)).sum_eq
    rw [LockedSave.acting] at sums
    rw [memory]
    calc UsageService.counter memberId key
          (pool.shared.applied.foldl (fun table call => usageCalls.apply call table)
            (usageCalls.load file))
        = (usageCalls.load file).counter memberId key +
            (pool.shared.applied.map (UsageCall.amount memberId key)).sum := folded
      _ = (usageCalls.load file).counter memberId key +
            ((pool.threads.map LockedSave.Caller.call).map
              (UsageCall.amount memberId key)).sum := by
          rw [sums]
          exact congrArg _ (sum_acting _ memberId key)
      _ = _ := by rw [List.map_map]; rfl
  · intro file pool reached quiet
    obtain ⟨applied, memory, reloaded, written⟩ := LockedSave.nothing_lost reached quiet
    have all : LockedSave.acting quotaCalls pool = pool.threads.map LockedSave.Caller.call :=
      List.filter_eq_self.mpr fun _ _ => rfl
    rw [all] at applied written
    refine ⟨applied, fun memberId => ?_, reloaded, fun some => written (by simpa using some)⟩
    rw [memory]
    exact lookup_quotaFoldl pool.shared.applied (quotaCalls.load file) memberId

/-- Two overlapping calls for one member: the second changes the table before the first saves. -/
def overlappingRecords : List (Threads.Action Unit (LockedSave.Caller UsageCall
    (UsageService Nat))) :=
  [.start ⟨.record "pc-1" "deepseek" "deepseek-chat" 10 20, .waiting⟩,
    .start ⟨.record "pc-1" "kimi" "deepseek-chat" 2 8, .waiting⟩,
    .turn 0 (), .turn 1 (), .turn 1 (), .turn 0 (), .turn 0 (), .turn 0 (), .turn 1 (),
    .turn 1 ()]

def overlappingSets : List (Threads.Action Unit (LockedSave.Caller QuotaCall QuotaService)) :=
  [.start ⟨⟨"pc-1", 1000⟩, .waiting⟩, .start ⟨⟨"pc-1", 0⟩, .waiting⟩,
    .turn 1 (), .turn 0 (), .turn 0 (), .turn 1 (), .turn 1 (), .turn 1 (), .turn 0 (),
    .turn 0 ()]

def recordsEnd : Option (LockedSave.Processes UsageCall (UsageService Nat)) :=
  usageCalls.program.follow Threads.Program.anySchedule overlappingRecords (usageCalls.opened none)

def setsEnd : Option (LockedSave.Processes QuotaCall QuotaService) :=
  quotaCalls.program.follow Threads.Program.anySchedule overlappingSets (quotaCalls.opened none)

theorem recordsEnd_isSome : recordsEnd.isSome := by decide

theorem setsEnd_isSome : setsEnd.isSome := by decide

theorem recordsEnd_reachable :
    (usageCalls.system none).Reachable (recordsEnd.get recordsEnd_isSome) :=
  Threads.Program.get_follow_reachable recordsEnd_isSome

theorem setsEnd_reachable : (quotaCalls.system none).Reachable (setsEnd.get setsEnd_isSome) :=
  Threads.Program.get_follow_reachable setsEnd_isSome

theorem no_lost_update_overlapping :
    UsageService.counter "pc-1" (.model "deepseek-chat")
        (recordsEnd.get recordsEnd_isSome).shared.memory = 40 ∧
      AList.lookup "pc-1" (setsEnd.get setsEnd_isSome).shared.memory = some 1000 := by
  obtain ⟨counters, -⟩ := no_lost_update.1 none _ recordsEnd_reachable (by decide)
  obtain ⟨-, limits, -⟩ := no_lost_update.2 none _ setsEnd_reachable (by decide)
  exact ⟨(counters "pc-1" (.model "deepseek-chat")).trans (by decide),
    (limits "pc-1").trans (by decide)⟩

end AiPowerGateway.Share

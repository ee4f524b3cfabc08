import AiPowerGateway.Collections.TableSum
import AiPowerGateway.Systems.LockedSave
import Mathlib.Algebra.Ring.Nat

/-!
# The member's own usage

A member counts the tokens of its calls, in total and for each leader, and saves the counts
after every call.  Calls overlap: the count is taken under the write lock, the save under the
read lock.
-/

namespace AiPowerGateway.LanClient

open Systems

variable {τ : Type} [AddCommMonoidWithOne τ]

structure PersonalUsage (τ : Type) where
  promptTokens : τ
  completionTokens : τ
  calls : τ
  /-- The tokens by the names of the leaders. -/
  leaders : HashMap τ

namespace PersonalUsage

def empty : PersonalUsage τ where
  promptTokens := 0
  completionTokens := 0
  calls := 0
  leaders := ∅

def total (usage : PersonalUsage τ) : τ := usage.promptTokens + usage.completionTokens

/-- One call, as it is counted. -/
structure Call (τ : Type) where
  leader : String
  prompt : τ
  completion : τ

def record (usage : PersonalUsage τ) (call : Call τ) : PersonalUsage τ where
  promptTokens := usage.promptTokens + call.prompt
  completionTokens := usage.completionTokens + call.completion
  calls := usage.calls + 1
  leaders := usage.leaders.upsert call.leader 0 (· + (call.prompt + call.completion))

/-- The leaders share the total among them. -/
def Reconciles (usage : PersonalUsage τ) : Prop := usage.total = usage.leaders.sum

theorem reconciles_empty : (empty : PersonalUsage τ).Reconciles := add_zero 0

theorem Reconciles.record {usage : PersonalUsage τ} (reconciles : usage.Reconciles)
    (call : Call τ) : (usage.record call).Reconciles := by
  have total : usage.promptTokens + usage.completionTokens = usage.leaders.sum := reconciles
  rw [Reconciles, PersonalUsage.total, PersonalUsage.record]
  simp only [HashMap.sum_upsert]
  rw [← total, add_add_add_comm]

/-- What a call adds under the name of a leader. -/
def Call.share (leader : String) (call : Call τ) : τ :=
  if call.leader = leader then call.prompt + call.completion else 0

/-- The tokens of a leader, and none of one who is unknown. -/
def tokensOf (leader : String) (usage : PersonalUsage τ) : τ :=
  (usage.leaders.lookup leader).getD 0

theorem tokensOf_record (leader : String) (usage : PersonalUsage τ) (call : Call τ) :
    (usage.record call).tokensOf leader = usage.tokensOf leader + call.share leader := by
  rw [tokensOf, tokensOf, record, Call.share]
  by_cases same : call.leader = leader
  · subst same
    simp
  · rw [HashMap.lookup_upsert_ne (Ne.symm same), if_neg same, add_zero]

/-! ## Counting a list of calls -/

theorem promptTokens_foldl (calls : List (Call τ)) (usage : PersonalUsage τ) :
    (calls.foldl record usage).promptTokens =
      usage.promptTokens + (calls.map Call.prompt).sum := by
  induction calls generalizing usage with
  | nil => simp
  | cons call calls ih => rw [List.foldl_cons, ih, List.map_cons, List.sum_cons, record, add_assoc]

theorem completionTokens_foldl (calls : List (Call τ)) (usage : PersonalUsage τ) :
    (calls.foldl record usage).completionTokens =
      usage.completionTokens + (calls.map Call.completion).sum := by
  induction calls generalizing usage with
  | nil => simp
  | cons call calls ih => rw [List.foldl_cons, ih, List.map_cons, List.sum_cons, record, add_assoc]

theorem calls_foldl (calls : List (Call τ)) (usage : PersonalUsage τ) :
    (calls.foldl record usage).calls = usage.calls + (calls.length : τ) := by
  induction calls generalizing usage with
  | nil => simp
  | cons call calls ih =>
      rw [List.foldl_cons, ih, List.length_cons, record, Nat.cast_succ, add_assoc,
        add_comm (1 : τ)]

theorem tokensOf_foldl (leader : String) (calls : List (Call τ)) (usage : PersonalUsage τ) :
    (calls.foldl record usage).tokensOf leader =
      usage.tokensOf leader + (calls.map (Call.share leader)).sum := by
  induction calls generalizing usage with
  | nil => simp
  | cons call calls ih =>
      rw [List.foldl_cons, ih, List.map_cons, List.sum_cons, tokensOf_record, add_assoc]

theorem Reconciles.foldl {usage : PersonalUsage τ} (reconciles : usage.Reconciles)
    (calls : List (Call τ)) : (calls.foldl PersonalUsage.record usage).Reconciles := by
  induction calls generalizing usage with
  | nil => exact reconciles
  | cons call calls ih => exact ih (reconciles.record call)

end PersonalUsage

open PersonalUsage

/-- The source's `UsageView`, over a file. -/
def usageView : LockedSave.Calls (PersonalUsage.Call τ) (PersonalUsage τ) where
  skips _ := false
  apply call usage := usage.record call
  empty := PersonalUsage.empty

theorem acting_usageView (pool : LockedSave.Processes (PersonalUsage.Call τ) (PersonalUsage τ)) :
    LockedSave.acting usageView pool = pool.threads.map LockedSave.Caller.call :=
  List.filter_eq_self.mpr fun _ _ => rfl

/--
However any number of calls overlap that all write the file, over one whose leaders share its
total: at every time
the leaders share the total among them; and once all calls have returned, each count is that
of the file plus those of all calls, and the next view of the file shows the same.
-/
theorem usage_view_reconciles {file : Option (PersonalUsage τ)}
    (reconciled : (usageView.load file).Reconciles)
    {pool : LockedSave.Processes (PersonalUsage.Call τ) (PersonalUsage τ)}
    (reached : (usageView.system file).Reachable pool) :
    pool.shared.memory.Reconciles ∧
      (LockedSave.Quiet pool →
        pool.shared.memory.promptTokens = (usageView.load file).promptTokens +
            (pool.threads.map fun caller => caller.call.prompt).sum ∧
          pool.shared.memory.completionTokens = (usageView.load file).completionTokens +
            (pool.threads.map fun caller => caller.call.completion).sum ∧
          pool.shared.memory.calls = (usageView.load file).calls + (pool.threads.length : τ) ∧
          (∀ leader, pool.shared.memory.tokensOf leader =
            (usageView.load file).tokensOf leader +
              (pool.threads.map fun caller => caller.call.share leader).sum) ∧
          usageView.load pool.shared.file = pool.shared.memory) := by
  have sound := LockedSave.sound_inductive.reachable reached
  have memory : pool.shared.memory =
      pool.shared.applied.foldl PersonalUsage.record (usageView.load file) := sound.memory
  refine ⟨memory ▸ reconciled.foldl pool.shared.applied, fun quiet => ?_⟩
  obtain ⟨applied, -, reloaded, -⟩ := LockedSave.nothing_lost reached quiet
  rw [acting_usageView] at applied
  have sums (count : PersonalUsage.Call τ → τ) : (pool.shared.applied.map count).sum =
      (pool.threads.map fun caller => count caller.call).sum := by
    rw [(applied.map count).sum_eq, List.map_map]
    rfl
  rw [memory, promptTokens_foldl, completionTokens_foldl, calls_foldl, applied.length_eq,
    List.length_map, sums, sums]
  refine ⟨rfl, rfl, rfl, fun leader => ?_, reloaded.trans memory⟩
  rw [tokensOf_foldl, sums]

/-- Two overlapping calls: the second is counted before the first is saved. -/
def overlappingCalls : List (Threads.Action Unit
    (LockedSave.Caller (PersonalUsage.Call Nat) (PersonalUsage Nat))) :=
  [.start ⟨⟨"leader1", 10, 20⟩, .waiting⟩, .start ⟨⟨"leader1", 5, 5⟩, .waiting⟩,
    .turn 0 (), .turn 1 (), .turn 1 (), .turn 0 (), .turn 0 (), .turn 0 (), .turn 1 (),
    .turn 1 ()]

def callsEnd : Option (LockedSave.Processes (PersonalUsage.Call Nat) (PersonalUsage Nat)) :=
  usageView.program.follow Threads.Program.anySchedule overlappingCalls (usageView.opened none)

theorem callsEnd_isSome : callsEnd.isSome := by decide

theorem usage_view_reconciles_overlapping :
    tokensOf "leader1" (callsEnd.get callsEnd_isSome).shared.memory = 40 := by
  have reached : (usageView.system none).Reachable (callsEnd.get callsEnd_isSome) :=
    Threads.Program.get_follow_reachable callsEnd_isSome
  have fresh : (usageView.load (none : Option (PersonalUsage Nat))).Reconciles :=
    reconciles_empty
  have counted := (usage_view_reconciles fresh reached).2 (by decide)
  rw [counted.2.2.2.1 "leader1"]
  decide

end AiPowerGateway.LanClient

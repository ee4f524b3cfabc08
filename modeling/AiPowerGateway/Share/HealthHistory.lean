import AiPowerGateway.Collections.Accumulators
import AiPowerGateway.Share.HealthMonitor

/-!
# The state of a provider after its history

The health of a provider under fixed thresholds is a function of the observations so far:
how many of the latest ones failed in a row, the latency of the last success, and the
error of the last observation.
-/

namespace AiPowerGateway.Share

open Accumulators

namespace Observation

def failed (observed : Observation) : Bool := !observed.ok

/-- The latency that a success notes, which may be none. -/
def successLatency? (observed : Observation) : Option (Option UInt64) :=
  if observed.ok then some observed.latencyMs else none

end Observation

/-- The failures in a row at the end of a history. -/
def failureRun (log : List Observation) : Nat := trailingRun Observation.failed log

/-- At no time have `2 ^ 32` observations in a row failed. -/
def ShortRuns (log : List Observation) : Prop :=
  ∀ before, before <+: log → failureRun before < 2 ^ 32

/-- Every failure comes with its reason. -/
def FailuresExplained (log : List Observation) : Prop :=
  ∀ observed ∈ log, observed.failed = true → observed.error.isSome = true

namespace ProviderState

variable (failThreshold removeThreshold : UInt32)

def noteAt (state : ProviderState) (observed : Observation) : ProviderState :=
  state.observe observed.ok observed.latencyMs observed.error failThreshold removeThreshold

/-- The state that a history leaves, from a fresh one. -/
def after (log : List Observation) : ProviderState :=
  log.foldl (noteAt failThreshold removeThreshold) fresh

end ProviderState

/-- How bad a level is. -/
def HealthLevel.severity : HealthLevel → Nat
  | .ok => 0
  | .degraded => 1
  | .removed => 2

/-- The level after a number of failures in a row. -/
def levelOf (failThreshold removeThreshold : UInt32) (failures : Nat) : HealthLevel :=
  if removeThreshold.toNat ≤ failures then .removed
  else if failThreshold.toNat ≤ failures then .degraded
  else .ok

theorem levelOf_iff (failThreshold removeThreshold : UInt32) (failures : Nat) :
    (levelOf failThreshold removeThreshold failures = .removed ↔
        removeThreshold.toNat ≤ failures) ∧
      (levelOf failThreshold removeThreshold failures = .degraded ↔
        failThreshold.toNat ≤ failures ∧ failures < removeThreshold.toNat) ∧
      (levelOf failThreshold removeThreshold failures = .ok ↔
        ¬ removeThreshold.toNat ≤ failures ∧
          ¬ (failThreshold.toNat ≤ failures ∧ failures < removeThreshold.toNat)) := by
  unfold levelOf
  by_cases removed : removeThreshold.toNat ≤ failures
  · simp [removed]
  · by_cases degraded : failThreshold.toNat ≤ failures
    · simp [removed, degraded, Nat.not_le.mp removed]
    · simp [removed, degraded]

/-- The state is the one that the history of observations asks for. -/
structure FollowsHistory (failThreshold removeThreshold : UInt32) (log : List Observation)
    (state : ProviderState) : Prop where
  failures : state.failures.toNat = failureRun log
  removed : state.level = .removed ↔ removeThreshold.toNat ≤ failureRun log
  degraded : state.level = .degraded ↔
    failThreshold.toNat ≤ failureRun log ∧ failureRun log < removeThreshold.toNat
  ok : state.level = .ok ↔ ¬ removeThreshold.toNat ≤ failureRun log ∧
    ¬ (failThreshold.toNat ≤ failureRun log ∧ failureRun log < removeThreshold.toNat)
  latency : state.latencyMs = (last Observation.successLatency? log).getD none
  lastError : FailuresExplained log →
    (state.lastError = none ↔ ∀ observed ∈ log.getLast?, observed.ok = true)

/-! ## One observation -/

section Step

variable {failThreshold removeThreshold : UInt32} (state : ProviderState) (observed : Observation)

theorem failures_noteAt :
    (state.noteAt failThreshold removeThreshold observed).failures.toNat =
      if observed.failed then (state.failures.toNat + 1) % 2 ^ 32 else 0 := by
  unfold ProviderState.noteAt ProviderState.observe Observation.failed
  cases observed.ok with
  | true => rfl
  | false => simp [UInt32.toNat_add]

theorem latencyMs_noteAt :
    (state.noteAt failThreshold removeThreshold observed).latencyMs =
      observed.successLatency?.getD state.latencyMs := by
  unfold ProviderState.noteAt ProviderState.observe Observation.successLatency?
  cases observed.ok <;> rfl

/-- The level is that of the failures counted so far, if one failure is needed at least. -/
theorem level_noteAt (fails : 0 < failThreshold) (removes : 0 < removeThreshold) :
    (state.noteAt failThreshold removeThreshold observed).level =
      levelOf failThreshold removeThreshold
        (state.noteAt failThreshold removeThreshold observed).failures.toNat := by
  have fails : 0 < failThreshold.toNat := UInt32.lt_iff_toNat_lt.mp fails
  have removes : 0 < removeThreshold.toNat := UInt32.lt_iff_toNat_lt.mp removes
  unfold ProviderState.noteAt ProviderState.observe levelOf
  cases observed.ok with
  | true =>
      simp [Nat.not_le.mpr fails, Nat.not_le.mpr removes]
  | false => simp only [UInt32.le_iff_toNat_le, Bool.false_eq_true, if_false]

theorem lastError_noteAt (explained : observed.failed = true → observed.error.isSome = true) :
    (state.noteAt failThreshold removeThreshold observed).lastError = none ↔
      observed.ok = true := by
  unfold ProviderState.noteAt ProviderState.observe
  unfold Observation.failed at explained
  cases ok : observed.ok with
  | true => simp
  | false =>
      have some : observed.error.isSome = true := explained (by rw [ok]; rfl)
      simp [Option.isSome_iff_ne_none.mp some]

end Step

/-! ## A whole history -/

section History

variable {failThreshold removeThreshold : UInt32}

theorem after_concat (log : List Observation) (observed : Observation) :
    ProviderState.after failThreshold removeThreshold (log ++ [observed]) =
      (ProviderState.after failThreshold removeThreshold log).noteAt
        failThreshold removeThreshold observed := by
  rw [ProviderState.after, List.foldl_append]
  rfl

/-- The table of the service holds these states. -/
theorem fold_eq_after (cfg : PollConfig) {log : List Observation} (nonempty : log ≠ []) :
    ProviderState.fold (log.map fun observed => (observed, cfg)) =
      some (ProviderState.after cfg.failThreshold cfg.removeThreshold log) := by
  cases log with
  | nil => exact absurd rfl nonempty
  | cons first rest =>
      show some ((rest.map fun observed => (observed, cfg)).foldl ProviderState.note
        (ProviderState.fresh.note (first, cfg))) = _
      rw [List.foldl_map]
      rfl

theorem failures_after {log : List Observation} (short : failureRun log < 2 ^ 32) :
    (ProviderState.after failThreshold removeThreshold log).failures.toNat = failureRun log := by
  have counted : (ProviderState.after failThreshold removeThreshold log).failures.toNat =
      failureRun log % 2 ^ 32 :=
    foldl_trailingRun (fun state : ProviderState => state.failures.toNat)
      (fun state observed => failures_noteAt state observed) log rfl
  rw [counted, Nat.mod_eq_of_lt short]

theorem level_after (fails : 0 < failThreshold) (removes : 0 < removeThreshold)
    (log : List Observation) :
    (ProviderState.after failThreshold removeThreshold log).level =
      levelOf failThreshold removeThreshold
        (ProviderState.after failThreshold removeThreshold log).failures.toNat := by
  induction log using List.reverseRecOn with
  | nil =>
      have fails : 0 < failThreshold.toNat := UInt32.lt_iff_toNat_lt.mp fails
      have removes : 0 < removeThreshold.toNat := UInt32.lt_iff_toNat_lt.mp removes
      simp [ProviderState.after, ProviderState.fresh, levelOf, Nat.not_le.mpr fails,
        Nat.not_le.mpr removes]
  | append_singleton log observed _ =>
      rw [after_concat]
      exact level_noteAt _ observed fails removes

theorem latencyMs_after (log : List Observation) :
    (ProviderState.after failThreshold removeThreshold log).latencyMs =
      (last Observation.successLatency? log).getD none :=
  foldl_last_getD ProviderState.latencyMs latencyMs_noteAt log ProviderState.fresh

theorem lastError_after {log : List Observation} (explained : FailuresExplained log) :
    (ProviderState.after failThreshold removeThreshold log).lastError = none ↔
      ∀ observed ∈ log.getLast?, observed.ok = true := by
  induction log using List.reverseRecOn with
  | nil => simp [ProviderState.after, ProviderState.fresh]
  | append_singleton log observed _ =>
      rw [after_concat, lastError_noteAt _ observed (explained observed (by simp))]
      simp

/-- More failures are at least as bad, in whichever order the thresholds are. -/
theorem severity_levelOf_mono {few many : Nat} (more : few ≤ many) :
    (levelOf failThreshold removeThreshold few).severity ≤
      (levelOf failThreshold removeThreshold many).severity := by
  unfold levelOf
  split
  · next removed =>
      rw [if_pos (Nat.le_trans removed more)]
  · split
    · next degraded =>
        split
        · decide
        · rw [if_pos (Nat.le_trans degraded more)]
    · exact Nat.zero_le _

theorem followsHistory_after (fails : 0 < failThreshold) (removes : 0 < removeThreshold)
    {log : List Observation} (short : failureRun log < 2 ^ 32) :
    FollowsHistory failThreshold removeThreshold log
      (ProviderState.after failThreshold removeThreshold log) := by
  have failures : (ProviderState.after failThreshold removeThreshold log).failures.toNat =
      failureRun log := failures_after short
  have level := level_after fails removes log
  rw [failures] at level
  obtain ⟨removed, degraded, ok⟩ := levelOf_iff failThreshold removeThreshold (failureRun log)
  rw [← level] at removed degraded ok
  exact ⟨failures, removed, degraded, ok, latencyMs_after log, lastError_after⟩

end History

/--
After any history without `2 ^ 32` failures in a row the state is the one that the
failures at its end, its last success and its last observation determine; a success
restores the level at once, and nothing else improves it.
-/
theorem health_follows_history {failThreshold removeThreshold : UInt32}
    (fails : 0 < failThreshold) (removes : 0 < removeThreshold) {log : List Observation}
    (short : ShortRuns log) :
    FollowsHistory failThreshold removeThreshold log
        (ProviderState.after failThreshold removeThreshold log) ∧
      (∀ observed : Observation, observed.ok = true →
        (ProviderState.after failThreshold removeThreshold (log ++ [observed])).level = .ok) ∧
      ∀ more : List Observation, (∀ observed ∈ more, observed.failed = true) →
        ShortRuns (log ++ more) →
        (ProviderState.after failThreshold removeThreshold log).level.severity ≤
          (ProviderState.after failThreshold removeThreshold (log ++ more)).level.severity := by
  refine ⟨followsHistory_after fails removes (short log List.prefix_rfl), ?_, ?_⟩
  · intro observed success
    rw [after_concat, ProviderState.noteAt, ProviderState.observe, if_pos success]
  · intro more failed shortLonger
    have longer : failureRun (log ++ more) = failureRun log + more.length :=
      trailingRun_append failed log
    rw [level_after fails removes, level_after fails removes (log ++ more),
      failures_after (short log List.prefix_rfl),
      failures_after (shortLonger _ List.prefix_rfl), longer]
    exact severity_levelOf_mono (Nat.le_add_right _ _)

/-- Three failures in a row, and no more before them, degrade a provider. -/
theorem health_follows_three_failures :
    (ProviderState.after 3 10 (List.replicate 3 ⟨false, none, some "boom"⟩)).level =
      .degraded := by
  have short : ShortRuns (List.replicate 3 ⟨false, none, some "boom"⟩) := by
    intro before leads
    have length : failureRun before ≤ 3 := by
      refine Nat.le_trans ?_ leads.length_le
      simpa [failureRun, trailingRun] using
        (List.takeWhile_prefix Observation.failed (l := before.reverse)).length_le
    exact Nat.lt_of_le_of_lt length (by decide)
  exact (health_follows_history (by decide) (by decide) short).1.degraded.mpr (by decide)

end AiPowerGateway.Share

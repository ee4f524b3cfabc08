import AiPowerGateway.Share.ConfigFiles

/-!
# Configuration files after a crash

Saving the backends and saving the rule sets replace their file through a temporary
one, and remove the old file first.  A process that ends, or fails to rename, after
the removal leaves no file, which the next start reads as an empty configuration.
-/

namespace AiPowerGateway.Share

open Systems

/-! ## Backends -/

namespace BackendStore

/-- The disk when the process ends after some of the file steps of a save. -/
def crashedSave (yaml : SerdeYaml) (outcome : SaveOutcome) (count : Nat) (store : BackendStore) :
    FileReplace.Disk String :=
  if outcome.dirReady then
    FileReplace.crashedAfter count (yaml.toString store.list) outcome.steps store.disk
  else store.disk

/-- A save that is not cut short leaves the disk of the whole protocol. -/
theorem crashedSave_of_three_le {count : Nat} (all : 3 ≤ count) (yaml : SerdeYaml)
    (outcome : SaveOutcome) (store : BackendStore) :
    store.crashedSave yaml outcome count = (store.save yaml outcome).2.disk := by
  unfold crashedSave save
  cases outcome.dirReady
  · rfl
  · exact FileReplace.crashedAfter_of_three_le all _ _ _

/-- What a new process without initial entries finds on a disk. -/
def reopen (yaml : SerdeYaml) (disk : FileReplace.Disk String) : List BackendEntry :=
  (new yaml disk []).entries

/-- The save has removed the old file, and the new one did not take its place. -/
def Interrupted (outcome : SaveOutcome) (count : Nat) : Prop :=
  outcome.dirReady = true ∧ FileReplace.Interrupted count outcome.steps

instance (outcome : SaveOutcome) (count : Nat) : Decidable (Interrupted outcome count) :=
  inferInstanceAs (Decidable (_ ∧ _))

theorem reopen_crashedSave_iff (yaml : SerdeYaml) (store : BackendStore) (outcome : SaveOutcome)
    (count : Nat) :
    (reopen yaml (store.crashedSave yaml outcome count) = reopen yaml store.disk ∨
        reopen yaml (store.crashedSave yaml outcome count) = store.list) ↔
      ¬ Interrupted outcome count ∨ reopen yaml store.disk = [] ∨ store.list = [] := by
  unfold crashedSave Interrupted
  cases outcome.dirReady with
  | false => simp
  | true =>
      have recovers := FileReplace.recovers_iff (loadEntries yaml) (yaml.toString store.list)
        store.disk count outcome.steps
      have written : loadEntries yaml (some (yaml.toString store.list)) = store.list := by
        simp [loadEntries, yaml.fromSlice_toString]
      have missing : loadEntries yaml none = [] := rfl
      rw [written, missing] at recovers
      simpa [reopen, new] using recovers

end BackendStore

/-! ## Rule sets -/

/-- The loaded rule sets, and their file with its temporary sibling. -/
structure RulesFile where
  resolver : RuleResolver
  disk : FileReplace.Disk String

namespace RulesFile

/-- Save rule sets that passed the checks: the file is tried, the memory is replaced. -/
def set (serde : SerdeRuleSets) (ruleSets : List RuleSet) (results : FileReplace.Results)
    (rules : RulesFile) : RulesFile where
  resolver := RuleResolver.load ruleSets
  disk := FileReplace.replace (serde.toString ruleSets) results rules.disk

/-- The disk when the process ends after some of the file steps. -/
def crashedSet (serde : SerdeRuleSets) (ruleSets : List RuleSet) (results : FileReplace.Results)
    (count : Nat) (rules : RulesFile) : FileReplace.Disk String :=
  FileReplace.crashedAfter count (serde.toString ruleSets) results rules.disk

theorem crashedSet_of_three_le {count : Nat} (all : 3 ≤ count) (serde : SerdeRuleSets)
    (ruleSets : List RuleSet) (results : FileReplace.Results) (rules : RulesFile) :
    rules.crashedSet serde ruleSets results count = (rules.set serde ruleSets results).disk :=
  FileReplace.crashedAfter_of_three_le all _ _ _

def reopen (serde : SerdeRuleSets) (disk : FileReplace.Disk String) : RuleResolver :=
  RuleResolver.loadFromFile serde disk.target

theorem reopen_crashedSet_iff (serde : SerdeRuleSets) (rules : RulesFile)
    (ruleSets : List RuleSet) (results : FileReplace.Results) (count : Nat) :
    (reopen serde (rules.crashedSet serde ruleSets results count) = reopen serde rules.disk ∨
        reopen serde (rules.crashedSet serde ruleSets results count) =
          RuleResolver.load ruleSets) ↔
      ¬ FileReplace.Interrupted count results ∨ reopen serde rules.disk = RuleResolver.empty ∨
        RuleResolver.load ruleSets = RuleResolver.empty := by
  have recovers := FileReplace.recovers_iff (RuleResolver.loadFromFile serde)
    (serde.toString ruleSets) rules.disk count results
  rw [RuleResolver.loadFromFile_toString] at recovers
  exact recovers

end RulesFile

/--
After a crash or a failure at any point of a save, a new process finds the old or the
new configuration, exactly when the old file was not removed without the new one taking
its place, or one of the two configurations is empty.
-/
theorem saves_crash_atomic_iff (count : Nat) :
    (∀ yaml (store : BackendStore) outcome,
      (BackendStore.reopen yaml (store.crashedSave yaml outcome count) =
            BackendStore.reopen yaml store.disk ∨
          BackendStore.reopen yaml (store.crashedSave yaml outcome count) = store.list) ↔
        ¬ BackendStore.Interrupted outcome count ∨ BackendStore.reopen yaml store.disk = [] ∨
          store.list = []) ∧
      ∀ serde (rules : RulesFile) ruleSets results,
        (RulesFile.reopen serde (rules.crashedSet serde ruleSets results count) =
              RulesFile.reopen serde rules.disk ∨
            RulesFile.reopen serde (rules.crashedSet serde ruleSets results count) =
              RuleResolver.load ruleSets) ↔
          ¬ FileReplace.Interrupted count results ∨
            RulesFile.reopen serde rules.disk = RuleResolver.empty ∨
            RuleResolver.load ruleSets = RuleResolver.empty :=
  ⟨fun yaml store outcome => BackendStore.reopen_crashedSave_iff yaml store outcome count,
    fun serde rules ruleSets results =>
      RulesFile.reopen_crashedSet_iff serde rules ruleSets results count⟩

/-- One backend is configured, and a second one is about to be saved. -/
def secondBackend : BackendStore where
  entries := [{ provider := "deepseek" }, { provider := "kimi" }]
  disk := ⟨some (SerdeYaml.compact.toString [{ provider := "deepseek" }]), none⟩

/-- A crash between the removal and the renaming loses both configurations. -/
theorem saves_not_crash_atomic :
    ¬ ((∀ yaml (store : BackendStore) outcome count,
      BackendStore.reopen yaml (store.crashedSave yaml outcome count) =
          BackendStore.reopen yaml store.disk ∨
        BackendStore.reopen yaml (store.crashedSave yaml outcome count) = store.list) ∧
      ∀ serde (rules : RulesFile) ruleSets results count,
        RulesFile.reopen serde (rules.crashedSet serde ruleSets results count) =
            RulesFile.reopen serde rules.disk ∨
          RulesFile.reopen serde (rules.crashedSet serde ruleSets results count) =
            RuleResolver.load ruleSets) := by
  rintro ⟨backends, -⟩
  have lost : BackendStore.reopen SerdeYaml.compact
      (secondBackend.crashedSave SerdeYaml.compact {} 2) = [] := by
    rw [BackendStore.reopen, BackendStore.new, BackendStore.crashedSave, if_pos rfl,
      FileReplace.target_of_interrupted (by decide)]
    rfl
  have old : BackendStore.reopen SerdeYaml.compact secondBackend.disk =
      [{ provider := "deepseek" }] := by
    simp [BackendStore.reopen, BackendStore.new, BackendStore.loadEntries, secondBackend,
      SerdeYaml.fromSlice_toString]
  rcases backends SerdeYaml.compact secondBackend {} 2 with same | new
  · rw [lost, old] at same
    cases same
  · rw [lost] at new
    exact absurd new (by decide)

end AiPowerGateway.Share

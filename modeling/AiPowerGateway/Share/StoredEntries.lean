import AiPowerGateway.Share.AdminTasks
import AiPowerGateway.Share.ConfigFiles
import AiPowerGateway.Share.StoreTable

/-!
# What is stored

A property that every posted entry has, and that no models of a probe spoil, holds of all
that is ever stored and of the file, however the tasks take turns.  That an entry can be
built is one: so the registry can always be rebuilt, and a server that has started once
always starts again.
-/

namespace AiPowerGateway.Share

open Systems Systems.Threads Systems.Threads.Program

/-- Posted entries have the property, and keep it when they get models of the right kind. -/
structure EntryRule (host : Host) (env : ProcessEnv) (admits : List String → Prop)
    (good : BackendEntry → Prop) : Prop where
  posted : ∀ entries body entry, postedEntry host env entries body = .ok entry → good entry
  filled : ∀ entry models, good entry → entry.models = [] → models ≠ [] → admits models →
    good { entry with models := models }

section Hold

variable (yaml : SerdeYaml) (good : BackendEntry → Prop)

/-- What the process holds in memory and on the disk has the property. -/
structure ConfigState.Holds (config : ConfigState) : Prop where
  entries : ∀ entry ∈ config.backendsConfig.entries, good entry
  file : ∀ entry ∈ BackendStore.loadEntries yaml config.backendsConfig.disk.target, good entry

def AdminOp.Holds : AdminOp → Prop
  | .save entry | .fill entry => good entry
  | .write content _ => ∀ entry ∈ BackendStore.loadEntries yaml (some content), good entry
  | _ => True

def CommitStage.Holds : CommitStage → Prop
  | .write entries => ∀ entry ∈ entries, good entry
  | _ => True

/-- What a task is about to store has the property. -/
def AdminTask.Holds : AdminTask → Prop
  | .post (.store entry) | .probe entry _ .test => good entry
  | .post (.commit entry _ stage) => good entry ∧ stage.Holds good
  | .probe entry _ (.check models) | .probe entry _ (.store models) =>
      good { entry with models := models }
  | .probe _ _ (.commit stage) | .delete _ (.commit stage) => stage.Holds good
  | _ => True

structure StoredHold (pool : AdminPool) : Prop where
  config : pool.shared.config.Holds yaml good
  tasks : ∀ task ∈ pool.threads, task.Holds good

end Hold

/-! ## Operations -/

theorem BackendStore.mem_upsertEntry {entry stored : BackendEntry} {entries : List BackendEntry}
    (mem : stored ∈ upsertEntry entry entries) : stored = entry ∨ stored ∈ entries := by
  unfold upsertEntry at mem
  split at mem
  · exact (List.mem_or_eq_of_mem_set mem).symm
  · simpa [or_comm] using mem

theorem BackendStore.mem_sortEntries {entry : BackendEntry} {entries : List BackendEntry} :
    entry ∈ sortEntries entries ↔ entry ∈ entries :=
  (List.perm_insertionSort _ entries).mem_iff

variable {host : Host} {env : ProcessEnv} {yaml : SerdeYaml} {admits : List String → Prop}
  {good : BackendEntry → Prop} {input : AdminInput} {state : AdminState} {config : ConfigState}
  {op : AdminOp} {task : AdminTask} {step : AdminStep}

/-- What a reader finds in a file that is being replaced: nothing, or the old or new one. -/
theorem loadEntries_crashedAfter {content : String} {disk : FileReplace.Disk String}
    (old : ∀ entry ∈ BackendStore.loadEntries yaml disk.target, good entry)
    (new : ∀ entry ∈ BackendStore.loadEntries yaml (some content), good entry)
    (count : Nat) (results : FileReplace.Results) :
    ∀ entry ∈ BackendStore.loadEntries yaml
      (FileReplace.crashedAfter count content results disk).target, good entry := by
  by_cases interrupted : FileReplace.Interrupted count results
  · rw [FileReplace.target_of_interrupted interrupted]
    exact fun entry mem => by cases mem
  · rcases FileReplace.target_of_not_interrupted interrupted content disk with same | written
    · rwa [same]
    · rwa [written]

theorem loadEntries_toString (entries : List BackendEntry) :
    BackendStore.loadEntries yaml (some (yaml.toString entries)) = entries := by
  rw [BackendStore.loadEntries, Option.bind_some, yaml.fromSlice_toString]
  rfl

theorem ConfigState.Holds.apply (holds : config.Holds yaml good) (op : AdminOp)
    (fits : op.Holds yaml good) : (op.apply config).Holds yaml good := by
  cases op with
  | save entry | fill entry =>
      refine ⟨fun stored mem => ?_, holds.file⟩
      rcases BackendStore.mem_upsertEntry mem with rfl | old
      · exact fits
      · exact holds.entries stored old
  | remove id =>
      exact ⟨fun stored mem => holds.entries stored (List.mem_of_mem_filter mem), holds.file⟩
  | write content outcome =>
      refine ⟨holds.entries, fun stored mem => ?_⟩
      simp only [AdminOp.apply] at mem
      split at mem
      · rw [← FileReplace.crashedAfter_of_three_le (Nat.le_refl 3)] at mem
        exact loadEntries_crashedAfter holds.file fits 3 outcome.steps stored mem
      · exact holds.file stored mem
  | _ => exact ⟨holds.entries, holds.file⟩

/-! ## Steps -/

theorem CommitStage.holds_step (host : Host) (env : ProcessEnv) (input : AdminInput)
    {stage : CommitStage} (holds : state.config.Holds yaml good) (own : stage.Holds good) :
    (stage.step host env yaml input state).1.Holds yaml good ∧
      ∀ next, (stage.step host env yaml input state).2 = .ok (some next) → next.Holds good := by
  cases stage with
  | save =>
      refine ⟨trivial, fun next goes => ?_⟩
      cases goes
      exact fun entry mem => holds.entries entry (BackendStore.mem_sortEntries.mp mem)
  | write entries =>
      refine ⟨fun entry mem => ?_, fun next goes => ?_⟩
      · rw [loadEntries_toString] at mem
        exact own entry mem
      · simp only [CommitStage.step] at goes
        split at goes <;> cases goes
        trivial
  | rebuild =>
      simp only [CommitStage.step]
      cases buildBackends host.serde env state.list with
      | error message => exact ⟨trivial, fun next goes => by cases goes⟩
      | ok built =>
          refine ⟨trivial, fun next goes => ?_⟩
          cases goes
          trivial
  | install built => exact ⟨trivial, fun next goes => by cases goes⟩

/-- What a step leaves behind has the property. -/
def AdminStep.Holds (yaml : SerdeYaml) (good : BackendEntry → Prop) (step : AdminStep) : Prop :=
  step.op.Holds yaml good ∧ step.next.Holds good ∧ ∀ child ∈ step.forked, child.Holds good

theorem PostStage.holds_step (rule : EntryRule host env admits good)
    (holds : state.config.Holds yaml good) {stage : PostStage}
    (own : AdminTask.Holds good (.post stage)) :
    (stage.step host env yaml input state).Holds yaml good := by
  cases stage with
  | read body =>
      rw [PostStage.step]
      cases posted : postedEntry host env state.list body with
      | error message => exact ⟨trivial, trivial, by simp⟩
      | ok entry => exact ⟨trivial, rule.posted _ body entry posted, by simp⟩
  | store entry => exact ⟨own, ⟨own, trivial⟩, by simp [PostStage.step]⟩
  | commit entry since stage =>
      obtain ⟨kept, goes⟩ := CommitStage.holds_step host env input holds own.2
      rw [PostStage.step]
      rcases commits : stage.step host env yaml input state with ⟨op, message | ⟨_ | next⟩⟩ <;>
        rw [commits] at kept goes
      · exact ⟨kept, trivial, by simp⟩
      · refine ⟨kept, trivial, fun child mem => ?_⟩
        rw [List.mem_singleton.mp mem]
        exact own.1
      · exact ⟨kept, ⟨own.1, goes next rfl⟩, by simp⟩

theorem ProbeStage.holds_tested (rule : EntryRule host env admits good) {entry : BackendEntry}
    (own : good entry) (admitted : ∀ outcome, input.probe = .ok outcome → admits outcome.models)
    (since : Nat) : (ProbeStage.tested env input entry since).Holds yaml good := by
  unfold ProbeStage.tested
  split
  · split
    next outcome probed =>
      refine ⟨trivial, ?_, by simp⟩
      by_cases finds : (outcome.models ≠ [] && entry.models = []) = true
      · rw [if_pos finds]
        obtain ⟨found, missing⟩ : outcome.models ≠ [] ∧ entry.models = [] := by simpa using finds
        exact rule.filled entry outcome.models own missing found (admitted outcome probed)
      · rw [if_neg finds]
        trivial
    · exact ⟨trivial, trivial, by simp⟩
  · exact ⟨trivial, trivial, by simp⟩
  · exact ⟨trivial, trivial, by simp⟩

theorem ProbeStage.holds_step (rule : EntryRule host env admits good)
    (holds : state.config.Holds yaml good)
    (admitted : ∀ outcome, input.probe = .ok outcome → admits outcome.models)
    {entry : BackendEntry} {since : Nat} {stage : ProbeStage}
    (own : AdminTask.Holds good (.probe entry since stage)) :
    (stage.step host env yaml input state entry since).Holds yaml good := by
  cases stage with
  | test => exact ProbeStage.holds_tested rule own admitted since
  | check models =>
      rw [ProbeStage.step]
      split
      · exact ⟨trivial, own, by simp⟩
      · exact ⟨trivial, trivial, by simp⟩
  | store models => exact ⟨own, trivial, by simp [ProbeStage.step]⟩
  | commit stage =>
      obtain ⟨kept, goes⟩ := CommitStage.holds_step host env input holds own
      rcases commits : stage.step host env yaml input state with ⟨op, message | ⟨_ | next⟩⟩ <;>
        rw [commits] at kept goes
      · cases stage <;> simp only [ProbeStage.step, commits] <;>
          exact ⟨kept, trivial, by simp⟩
      · simp only [ProbeStage.step, commits]
        exact ⟨kept, trivial, by simp⟩
      · simp only [ProbeStage.step, commits]
        exact ⟨kept, goes next rfl, by simp⟩

theorem DeleteStage.holds_step (holds : state.config.Holds yaml good) {id : String}
    {stage : DeleteStage} (own : AdminTask.Holds good (.delete id stage)) :
    (stage.step host env yaml input state id).Holds yaml good := by
  cases stage with
  | remove =>
      rw [DeleteStage.step]
      split <;> exact ⟨trivial, trivial, by simp⟩
  | commit stage =>
      obtain ⟨kept, goes⟩ := CommitStage.holds_step host env input holds own
      rw [DeleteStage.step]
      rcases commits : stage.step host env yaml input state with ⟨op, message | ⟨_ | next⟩⟩ <;>
        rw [commits] at kept goes
      · exact ⟨kept, trivial, by simp⟩
      · exact ⟨kept, trivial, by simp⟩
      · exact ⟨kept, goes next rfl, by simp⟩
  | _ => exact ⟨trivial, trivial, by simp [DeleteStage.step]⟩

/-- The other tasks store nothing and write no file. -/
theorem PutStage.holds_step (id : String) (stage : PutStage) :
    (stage.step host state id).Holds yaml good := by
  cases stage with
  | exist body =>
      rw [PutStage.step]
      split <;> exact ⟨trivial, trivial, by simp⟩
  | set cfg =>
      refine ⟨trivial, trivial, fun child mem => ?_⟩
      simp only [PutStage.step] at mem
      split at mem
      · rw [List.mem_singleton.mp mem]
        trivial
      · cases mem
  | _ => exact ⟨trivial, trivial, by simp [PutStage.step]⟩

theorem EnsureStage.holds_step (stage : EnsureStage) : (stage.step state).Holds yaml good := by
  cases stage with
  | check =>
      rw [EnsureStage.step]
      split <;> exact ⟨trivial, trivial, by simp⟩
  | scan remaining =>
      cases remaining with
      | nil => exact ⟨trivial, trivial, by simp [EnsureStage.step]⟩
      | cons entry remaining =>
          rw [EnsureStage.step]
          split
          · refine ⟨trivial, trivial, fun child mem => ?_⟩
            rw [List.mem_singleton.mp mem]
            trivial
          · exact ⟨trivial, trivial, by simp⟩
  | _ => exact ⟨trivial, trivial, by simp [EnsureStage.step]⟩

theorem PollStage.holds_step (lastPoll : List String) (stage : PollStage) :
    (stage.step env input state lastPoll).Holds yaml good := by
  cases stage with
  | filter remaining enabled =>
      cases remaining <;> exact ⟨trivial, trivial, by simp [PollStage.step]⟩
  | visit ids entries =>
      cases ids with
      | nil => exact ⟨trivial, trivial, by simp [PollStage.step]⟩
      | cons id ids =>
          simp only [PollStage.step]
          split
          · exact ⟨trivial, trivial, by simp⟩
          · split <;> exact ⟨trivial, trivial, by simp⟩
  | recheck current observed ids entries =>
      rw [PollStage.step]
      split <;> exact ⟨trivial, trivial, by simp⟩
  | _ => exact ⟨trivial, trivial, by simp [PollStage.step]⟩

theorem AdminTask.holds_step (rule : EntryRule host env admits good)
    (holds : state.config.Holds yaml good)
    (admitted : ∀ outcome, input.probe = .ok outcome → admits outcome.models)
    (own : task.Holds good) (steps : task.step host env yaml input state = some step) :
    step.Holds yaml good := by
  cases task with
  | post stage =>
      obtain rfl := Option.some.inj steps
      exact stage.holds_step rule holds own
  | probe entry since stage =>
      obtain rfl := Option.some.inj steps
      exact ProbeStage.holds_step rule holds admitted own
  | delete id stage =>
      obtain rfl := Option.some.inj steps
      exact DeleteStage.holds_step holds own
  | put id stage =>
      obtain rfl := Option.some.inj steps
      exact stage.holds_step id
  | ensure stage =>
      obtain rfl := Option.some.inj steps
      exact stage.holds_step
  | poll lastPoll stage =>
      obtain rfl := Option.some.inj steps
      exact stage.holds_step lastPoll
  | finished reply => cases steps

/-! ## Runs -/

theorem storedHold_inductive (rule : EntryRule host env admits good)
    {allowed : AdminPool → AdminAction → Prop}
    (admitted : ∀ {pool index input}, allowed pool (.turn index input) →
      ∀ outcome, input.probe = .ok outcome → admits outcome.models)
    {store : BackendStore} {backends : RegistryInner}
    (starts : ConfigState.Holds yaml good ⟨store, backends, ∅, {}⟩) :
    ((adminProgram host env yaml).system (AdminPool.serving store backends) allowed).Inductive
      (StoredHold yaml good) := by
  refine inductive_of ?_ ?_ ?_
  · refine ⟨starts, fun task mem => ?_⟩
    rw [List.mem_singleton.mp mem]
    trivial
  · intro pool task holds enters
    refine ⟨holds.config, forall_mem_start holds.tasks ?_⟩
    rcases isRequest_cases enters with ⟨body, rfl⟩ | ⟨id, rfl⟩ | ⟨id, body, rfl⟩ <;> trivial
  · intro pool index input task turn may holds found advances
    obtain ⟨step, steps, rfl⟩ := advance_adminProgram advances
    obtain ⟨fits, next, forked⟩ := AdminTask.holds_step rule holds.config (admitted may)
      (holds.tasks task (List.mem_of_getElem? found)) steps
    exact ⟨holds.config.apply step.op fits, forall_mem_afterTurn holds.tasks next forked⟩

/-! ## What can be built -/

/-- A backend can be built from the entry. -/
def BackendEntry.Builds (host : Host) (env : ProcessEnv) (entry : BackendEntry) : Prop :=
  ∃ backend, backendFromEntry host.serde env entry = .ok backend

/-- What a custom entry lacks; the environment supplies none of it. -/
def BackendEntry.complete (entry : BackendEntry) : Bool :=
  (Provider.fromStr entry.provider).isBuiltin ||
    (Text.trim (entry.baseUrl.getD "") ≠ "" && (entry.effectiveModels ≠ [] || entry.isExecutor))

theorem BackendEntry.builds_iff {entry : BackendEntry} :
    entry.Builds host env ↔ entry.complete = true := by
  unfold Builds backendFromEntry complete
  cases builtin : (Provider.fromStr entry.provider).isBuiltin with
  | true =>
      refine iff_of_true ?_ (Bool.true_or _)
      simp only
      split
      · exact ⟨_, rfl⟩
      · simp [builtin]
  | false =>
      have custom : Provider.fromStr entry.provider = .custom := by
        simpa [Provider.isBuiltin] using builtin
      have notBuiltin : Provider.custom.isBuiltin = false := rfl
      simp only [custom, notBuiltin, Bool.not_false, Bool.true_and, Bool.false_or]
      by_cases noUrl : Text.trim (entry.baseUrl.getD "") = ""
      · simp [noUrl]
      · cases none : decide (entry.effectiveModels = []) <;> cases kind : entry.isExecutor <;>
          simp_all

theorem BackendEntry.complete_filled {entry : BackendEntry} (complete : entry.complete = true)
    (missing : entry.models = []) (models : List String) :
    { entry with models := models }.complete = true := by
  have keeps : { entry with models := models }.effectiveModels = [] →
      entry.effectiveModels = [] := by
    unfold effectiveModels
    simp only [missing]
    intro none
    split at none
    · contradiction
    · simpa using none
  simp only [BackendEntry.complete, BackendEntry.isExecutor, Bool.or_eq_true, Bool.and_eq_true,
    decide_eq_true_eq] at complete ⊢
  refine complete.imp_right fun ⟨url, models⟩ => ⟨url, models.imp_left (mt keeps)⟩

theorem entryRule_builds (host : Host) (env : ProcessEnv) :
    EntryRule host env (fun _ => True) (BackendEntry.Builds host env) where
  posted entries body entry posted := by
    unfold postedEntry at posted
    split at posted
    · cases posted
    next parsed _ =>
      cases builds : backendFromEntry host.serde env (inheritKeys entries parsed) with
      | error error => simp [builds] at posted
      | ok backend =>
          simp only [builds, Except.ok.injEq] at posted
          exact ⟨backend, posted ▸ builds⟩
  filled entry models builds missing _ _ := by
    rw [BackendEntry.builds_iff] at builds ⊢
    exact BackendEntry.complete_filled builds missing models

theorem exists_buildBackends_iff {entries : List BackendEntry} :
    (∃ built, buildBackends host.serde env entries = .ok built) ↔
      ∀ entry ∈ entries, entry.Builds host env := by
  simp only [buildBackends_ok_iff]
  induction entries with
  | nil => simp
  | cons entry entries ih =>
      rw [List.forall_mem_cons, ← ih]
      constructor
      · rintro ⟨_, builds⟩
        obtain ⟨backend, built, first, rest, -⟩ := List.forall₂_cons_left_iff.mp builds
        exact ⟨⟨backend, first⟩, built, rest⟩
      · rintro ⟨⟨backend, first⟩, built, rest⟩
        exact ⟨backend :: built, .cons first rest⟩

/-! ## Processes that end and start -/

/-- The entries that a task is about to write to the file. -/
def AdminTask.writes? : AdminTask → Option (List BackendEntry)
  | .post (.commit _ _ (.write entries)) | .probe _ _ (.commit (.write entries))
  | .delete _ (.commit (.write entries)) => some entries
  | _ => none

theorem AdminTask.Holds.writes (holds : task.Holds good) {entries : List BackendEntry}
    (writes : task.writes? = some entries) : ∀ entry ∈ entries, good entry := by
  unfold AdminTask.writes? at writes
  split at writes
  · cases writes
    exact holds.2
  · cases writes
    exact holds
  · cases writes
    exact holds
  · cases writes

/-- The disk when the process ends: between two turns, or in the middle of a save. -/
inductive AdminPool.Leaves (yaml : SerdeYaml) (pool : AdminPool) :
    FileReplace.Disk String → Prop
  | between : Leaves yaml pool pool.shared.config.backendsConfig.disk
  | within (task : AdminTask) (entries : List BackendEntry) (mem : task ∈ pool.threads)
      (writes : task.writes? = some entries) (results : FileReplace.Results) (count : Nat) :
      Leaves yaml pool (FileReplace.crashedAfter count (yaml.toString entries) results
        pool.shared.config.backendsConfig.disk)

theorem StoredHold.loadEntries {pool : AdminPool} (holds : StoredHold yaml good pool)
    {disk : FileReplace.Disk String} (leaves : AdminPool.Leaves yaml pool disk) :
    ∀ entry ∈ BackendStore.loadEntries yaml disk.target, good entry := by
  cases leaves with
  | between => exact holds.config.file
  | within task entries mem writes results count =>
      refine loadEntries_crashedAfter holds.config.file ?_ count results
      rw [loadEntries_toString]
      exact (holds.tasks task mem).writes writes

theorem BackendStore.mem_new {disk : FileReplace.Disk String} {initial : List BackendEntry}
    {entry : BackendEntry} (mem : entry ∈ (new yaml disk initial).entries) :
    entry ∈ loadEntries yaml disk.target ∨ entry ∈ initial := by
  unfold new at mem
  simp only at mem
  induction initial using List.reverseRecOn with
  | nil => exact Or.inl mem
  | append_singleton others last ih =>
      rw [List.foldl_concat] at mem
      split at mem
      · exact (ih mem).imp_right (List.mem_append_left _)
      · rcases List.mem_append.mp mem with before | here
        · exact (ih before).imp_right (List.mem_append_left _)
        · exact Or.inr (List.mem_append_right _ here)

theorem withEntries_ok_iff {disk : FileReplace.Disk String} {initial : List BackendEntry} :
    (∃ config, ConfigState.withEntries host env yaml disk initial = .ok config) ↔
      ∀ entry ∈ (BackendStore.new yaml disk initial).entries, entry.Builds host env := by
  have listed : (∀ entry ∈ (BackendStore.new yaml disk initial).entries, entry.Builds host env) ↔
      ∀ entry ∈ (BackendStore.new yaml disk initial).list, entry.Builds host env := by
    simp only [BackendStore.list, BackendStore.mem_sortEntries]
  rw [listed, ← exists_buildBackends_iff, ConfigState.withEntries]
  cases buildBackends host.serde env (BackendStore.new yaml disk initial).list <;>
    simp [Except.map]

theorem store_withEntries {disk : FileReplace.Disk String} {initial : List BackendEntry}
    (started : ConfigState.withEntries host env yaml disk initial = .ok config) :
    config.backendsConfig = BackendStore.new yaml disk initial := by
  rw [ConfigState.withEntries] at started
  cases built : buildBackends host.serde env (BackendStore.new yaml disk initial).list with
  | error message =>
      simp only [built] at started
      cases started
  | ok backends =>
      simp only [built] at started
      cases started
      rfl

theorem file_subset_new (disk : FileReplace.Disk String) (initial : List BackendEntry) :
    ∀ entry ∈ BackendStore.loadEntries yaml disk.target,
      entry ∈ (BackendStore.new yaml disk initial).entries := by
  intro entry mem
  unfold BackendStore.new
  simp only
  induction initial using List.reverseRecOn with
  | nil => exact mem
  | append_singleton others last ih =>
      rw [List.foldl_concat]
      split
      · exact ih
      · exact List.mem_append_left _ ih

/--
A server that has started once always starts again.  However saves, deletions, probes, the
poller and requests for them take turns after a start, where the file steps of one save are one
turn, with any ends of their writes and any answers to their probes: the registry can be rebuilt
from what is stored; and whenever the process ends, even in the middle of a save, a new one
starts over the disk that is left, in any environment and with any entries of its command line
that can be built.
-/
theorem always_starts_again {host : Host} {env : ProcessEnv} {yaml : SerdeYaml}
    {disk : FileReplace.Disk String} {initial : List BackendEntry} {config : ConfigState}
    (started : ConfigState.withEntries host env yaml disk initial = .ok config)
    {pool : AdminPool}
    (reached : ((adminProgram host env yaml).system
      (AdminPool.serving config.backendsConfig config.backends) anySchedule).Reachable pool) :
    (∃ built, buildBackends host.serde env pool.shared.list = .ok built) ∧
      ∀ left, AdminPool.Leaves yaml pool left → ∀ otherEnv others,
        (∀ entry ∈ others, BackendEntry.Builds host otherEnv entry) →
          ∃ next, ConfigState.withEntries host otherEnv yaml left others = .ok next := by
  have builds := withEntries_ok_iff.mp ⟨config, started⟩
  have store := store_withEntries started
  have starts : ConfigState.Holds yaml (BackendEntry.Builds host env)
      ⟨config.backendsConfig, config.backends, ∅, {}⟩ := by
    rw [store]
    exact ⟨builds, fun entry mem => builds entry (file_subset_new disk initial entry mem)⟩
  have holds := (storedHold_inductive (entryRule_builds host env)
    (fun _ _ _ => trivial) starts).reachable reached
  refine ⟨exists_buildBackends_iff.mpr fun entry mem => ?_,
    fun left leaves otherEnv others can => ?_⟩
  · exact holds.config.entries entry (BackendStore.mem_sortEntries.mp mem)
  · refine withEntries_ok_iff.mpr fun entry mem => ?_
    rcases BackendStore.mem_new mem with loaded | given
    · have built := holds.loadEntries leaves entry loaded
      rw [BackendEntry.builds_iff] at built ⊢
      exact built
    · exact can entry given

/-- A server without a file and without a command line. -/
def bareConfig : ConfigState :=
  ⟨BackendStore.new .compact ⟨none, none⟩ [], .replaceAll [], ∅, {}⟩

/-- The executor is in memory, and about to be written. -/
def savingEnd : Option AdminPool :=
  (adminProgram Host.compact .none .compact).follow anySchedule
    (.start (.post (.read (pairBody "http://10.0.0.5/v1"))) :: turns 1 3)
    (AdminPool.serving bareConfig.backendsConfig bareConfig.backends)

theorem savingEnd_isSome : savingEnd.isSome := by decide

theorem always_starts_again_saving : ∃ next,
    ConfigState.withEntries Host.compact .none .compact
      (FileReplace.crashedAfter 2 (SerdeYaml.compact.toString [pairEntry]) {} ⟨none, none⟩) [] =
        .ok next := by
  have started : ConfigState.withEntries Host.compact .none .compact ⟨none, none⟩ [] =
      .ok bareConfig := rfl
  have reached : ((adminProgram Host.compact .none .compact).system
      (AdminPool.serving bareConfig.backendsConfig bareConfig.backends) anySchedule).Reachable
        (savingEnd.get savingEnd_isSome) :=
    get_follow_reachable savingEnd_isSome
  have leaves : AdminPool.Leaves .compact (savingEnd.get savingEnd_isSome)
      (FileReplace.crashedAfter 2 (SerdeYaml.compact.toString [pairEntry]) {} ⟨none, none⟩) :=
    .within (.post (.commit pairEntry 2 (.write [pairEntry]))) [pairEntry]
      (List.mem_of_getElem? (i := 1) rfl) rfl {} 2
  exact (always_starts_again started reached).2 _ leaves .none [] (by simp)

end AiPowerGateway.Share

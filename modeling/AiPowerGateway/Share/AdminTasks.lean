import AiPowerGateway.Share.BackendAdmin
import AiPowerGateway.Systems.Threads

/-!
# The tasks around the configured backends

The three handlers that change the configured backends, the probe that a saved backend
gets, `ensure_running` and the loop of the health poller, as tasks that take turns.
One turn holds one lock once.  The file steps of one save count as one turn; none of
the tasks reads the file.
-/

namespace AiPowerGateway.Share

open Systems Systems.Threads

/-! ## What a turn does to the shared state -/

inductive AdminOp where
  /-- Nothing, apart from what it reads. -/
  | look
  /-- `POST` stores its entry. -/
  | save (entry : BackendEntry)
  /-- A probe stores its entry again, with the models it found. -/
  | fill (entry : BackendEntry)
  | remove (id : String)
  | write (content : String) (outcome : SaveOutcome)
  | install (built : List Backend)
  | noteTest (id : String) (status : Json)
  | forgetTest (id : String)
  | setConfig (id : String) (cfg : PollConfig)
  | reset (id : String)
  | removeConfig (id : String)
  /-- The poller notes a probe; `since` tells when the probe started. -/
  | observe (id : String) (since : Nat) (observed : Observation × PollConfig)
  | keepHandle
  | dropHandle

namespace AdminOp

def apply (config : ConfigState) : AdminOp → ConfigState
  | .look => config
  | .save entry | .fill entry =>
      { config with backendsConfig := config.backendsConfig.upsert entry }
  | .remove id => { config with backendsConfig := (config.backendsConfig.remove id).2 }
  | .write content outcome =>
      { config with
        backendsConfig :=
          { config.backendsConfig with
            disk :=
              if outcome.dirReady then
                FileReplace.replace content outcome.steps config.backendsConfig.disk
              else config.backendsConfig.disk } }
  | .install built => { config with backends := .replaceAll built }
  | .noteTest id status => { config with testStatus := config.testStatus.insert id status }
  | .forgetTest id => { config with testStatus := config.testStatus.erase id }
  | .setConfig id cfg => { config with health := config.health.setConfig id cfg }
  | .reset id => { config with health := config.health.resetState id }
  | .removeConfig id => { config with health := config.health.removeConfig id }
  | .observe id _ observed => { config with health := config.health.observe id observed }
  | .keepHandle => { config with health := { config.health with task := some {} } }
  | .dropHandle => { config with health := { config.health with task := none } }

end AdminOp

/-- The state of the service, and all that was done to it. -/
structure AdminState where
  config : ConfigState
  history : List AdminOp := []

namespace AdminState

def entries (state : AdminState) : List BackendEntry := state.config.backendsConfig.entries

def list (state : AdminState) : List BackendEntry := state.config.backendsConfig.list

def health (state : AdminState) : HealthMonitor := state.config.health

def perform (op : AdminOp) (state : AdminState) : AdminState :=
  ⟨op.apply state.config, state.history ++ [op]⟩

/-- What was done after a point of the history. -/
def later (state : AdminState) (since : Nat) : List AdminOp := state.history.drop since

end AdminState

/-! ## The tasks -/

/-- Where `save` followed by `apply_backend_config` stands. -/
inductive CommitStage where
  | save
  | write (entries : List BackendEntry)
  | rebuild
  | install (built : List Backend)

inductive PostStage where
  | read (body : Json)
  | store (entry : BackendEntry)
  | commit (entry : BackendEntry) (since : Nat) (stage : CommitStage)

inductive ProbeStage where
  | test
  | check (models : List String)
  | store (models : List String)
  | commit (stage : CommitStage)

inductive DeleteStage where
  | remove
  | commit (stage : CommitStage)
  | forgetTest
  | resetState
  | removeConfig

inductive PutStage where
  | exist (body : Json)
  | kind (body : Json)
  | config (body : Json) (isExecutor : Bool)
  | set (cfg : PollConfig)
  | resetState (cfg : PollConfig)

inductive EnsureStage where
  | check
  | list
  | scan (remaining : List BackendEntry)
  | keep

/-- A probe of the poller: the entry as it was read, its configuration, and when it began. -/
structure PollProbe where
  id : String
  entry : BackendEntry
  cfg : PollConfig
  since : Nat

inductive PollStage where
  | collect
  | filter (remaining : List BackendEntry) (enabled : List String)
  | leave
  | snapshot (enabled : List String)
  | visit (ids : List String) (entries : List BackendEntry)
  | probe (current : PollProbe) (ids : List String) (entries : List BackendEntry)
  | recheck (current : PollProbe) (observed : Observation) (ids : List String)
      (entries : List BackendEntry)
  | write (current : PollProbe) (observed : Observation) (ids : List String)
      (entries : List BackendEntry)

inductive AdminTask where
  | post (stage : PostStage)
  /-- The probe of a saved entry; `since` is the length of the history after the save. -/
  | probe (entry : BackendEntry) (since : Nat) (stage : ProbeStage)
  | delete (id : String) (stage : DeleteStage)
  | put (id : String) (stage : PutStage)
  | ensure (stage : EnsureStage)
  | poll (lastPoll : List String) (stage : PollStage)
  | finished (reply : Option Reply)

/-- What the environment decides in one turn. -/
structure AdminInput where
  outcome : SaveOutcome := {}
  probe : Except String ProbeOutcome := .error ""
  /-- The polling interval of the visited backend is over. -/
  elapsed : Bool := false

structure AdminStep where
  op : AdminOp
  next : AdminTask
  forked : List AdminTask := []

section

variable (host : Host) (env : ProcessEnv) (yaml : SerdeYaml) (input : AdminInput)
  (state : AdminState)

/-- One turn of saving and rebuilding; at the end there is no next stage. -/
def CommitStage.step : CommitStage → AdminOp × Except String (Option CommitStage)
  | .save => (.look, .ok (some (.write state.list)))
  | .write entries =>
      (.write (yaml.toString entries) input.outcome,
        if input.outcome.succeeds then .ok (some .rebuild)
        else .error ("save backends.yaml: " ++ input.outcome.error))
  | .rebuild =>
      match buildBackends host.serde env state.list with
      | .ok built => (.look, .ok (some (.install built)))
      | .error error => (.look, .error ("rebuild backends: " ++ error))
  | .install built => (.install built, .ok none)

def PostStage.step : PostStage → AdminStep
  | .read body =>
      match postedEntry host env state.list body with
      | .error message => ⟨.look, .finished (some (errorReply host 400 message)), []⟩
      | .ok entry => ⟨.look, .post (.store entry), []⟩
  | .store entry => ⟨.save entry, .post (.commit entry (state.history.length + 1) .save), []⟩
  | .commit entry since stage =>
      match stage.step host env yaml input state with
      | (op, .ok (some stage)) => ⟨op, .post (.commit entry since stage), []⟩
      | (op, .ok none) =>
          ⟨op, .finished (some (jsonReply host 200 (.obj [("ok", .bool true), ("backend", .obj [
            ("id", .str entry.backendId), ("provider", .str entry.provider)])]))),
            [.probe entry since .test]⟩
      | (op, .error message) => ⟨op, .finished (some (errorReply host 500 message)), []⟩

/-- The turn ends in an error. -/
def CommitStage.fails : CommitStage → Bool
  | .write _ => !input.outcome.succeeds
  | .rebuild => (buildBackends host.serde env state.list).toOption.isNone
  | _ => false

/-- What the panel shows of a test. -/
def testPassed (latencyMs : UInt64) : Json :=
  .obj [("ok", .bool true), ("latencyMs", .num (.posInt latencyMs))]

def testFailed (error : String) : Json := .obj [("ok", .bool false), ("error", .str error)]

/-- The outcome of a test; models are only taken over by an entry that was saved without. -/
def ProbeStage.tested (entry : BackendEntry) (since : Nat) : AdminStep :=
  match testTarget env entry with
  | .ok (some _) =>
      match input.probe with
      | .ok outcome =>
          ⟨.noteTest entry.backendId (testPassed outcome.latencyMs),
            if outcome.models ≠ [] && entry.models = [] then
              .probe entry since (.check outcome.models)
            else .finished none, []⟩
      | .error message => ⟨.noteTest entry.backendId (testFailed message), .finished none, []⟩
  | .ok none => ⟨.noteTest entry.backendId (testPassed 0), .finished none, []⟩
  | .error message => ⟨.noteTest entry.backendId (testFailed message), .finished none, []⟩

/-- A test comes back with models for an entry that has none. -/
def ProbeStage.findsModels (entry : BackendEntry) : Bool :=
  match testTarget env entry, input.probe with
  | .ok (some _), .ok outcome => outcome.models ≠ [] && entry.models = []
  | _, _ => false

def ProbeStage.step (entry : BackendEntry) (since : Nat) : ProbeStage → AdminStep
  | .test => ProbeStage.tested env input entry since
  | .check models =>
      if BackendStore.hasId state.list entry.backendId then
        ⟨.look, .probe entry since (.store models), []⟩
      else ⟨.look, .finished none, []⟩
  | .store models =>
      ⟨.fill { entry with models := models }, .probe entry since (.commit .save), []⟩
  | .commit stage =>
      -- Errors are ignored: a failed save is still followed by the rebuild.
      match stage.step host env yaml input state, stage with
      | (op, .ok (some stage)), _ => ⟨op, .probe entry since (.commit stage), []⟩
      | (op, .error _), .write _ => ⟨op, .probe entry since (.commit .rebuild), []⟩
      | (op, _), _ => ⟨op, .finished none, []⟩

def DeleteStage.step (id : String) : DeleteStage → AdminStep
  | .remove =>
      if BackendStore.hasId state.entries id then ⟨.remove id, .delete id (.commit .save), []⟩
      else ⟨.look, .finished (some (errorReply host 404 ("backend not found: " ++ id))), []⟩
  | .commit stage =>
      match stage.step host env yaml input state with
      | (op, .ok (some stage)) => ⟨op, .delete id (.commit stage), []⟩
      | (op, .ok none) => ⟨op, .delete id .forgetTest, []⟩
      | (op, .error message) => ⟨op, .finished (some (errorReply host 500 message)), []⟩
  | .forgetTest => ⟨.forgetTest id, .delete id .resetState, []⟩
  | .resetState => ⟨.reset id, .delete id .removeConfig, []⟩
  | .removeConfig =>
      ⟨.removeConfig id, .finished (some (jsonReply host 200 (.obj [
        ("ok", .bool true), ("removed", .str id)]))), []⟩

def PutStage.step (id : String) : PutStage → AdminStep
  | .exist body =>
      if BackendStore.hasId state.list id then ⟨.look, .put id (.kind body), []⟩
      else ⟨.look, .finished (some (errorReply host 404 ("backend not found: " ++ id))), []⟩
  | .kind body =>
      let isExecutor :=
        ((BackendStore.find? state.list id).map BackendEntry.isExecutor).getD false
      ⟨.look, .put id (.config body isExecutor), []⟩
  | .config body isExecutor =>
      ⟨.look, .put id (.set (.ofBody body (state.health.config id isExecutor))), []⟩
  | .set cfg =>
      ⟨.setConfig id cfg, .put id (.resetState cfg), if cfg.enabled then [.ensure .check] else []⟩
  | .resetState cfg =>
      ⟨.reset id, .finished (some (jsonReply host 200 (.obj [("ok", .bool true), ("id", .str id),
        ("polling", .obj [
          ("enabled", .bool cfg.enabled),
          ("pollIntervalSecs", .num (.posInt cfg.pollIntervalSecs)),
          ("failThreshold", .num (.posInt cfg.failThreshold.toUInt64)),
          ("removeThreshold", .num (.posInt cfg.removeThreshold.toUInt64))])]))), []⟩

def EnsureStage.step : EnsureStage → AdminStep
  | .check =>
      if state.health.task.isSome then ⟨.look, .finished none, []⟩
      else ⟨.look, .ensure .list, []⟩
  | .list => ⟨.look, .ensure (.scan state.list), []⟩
  | .scan [] => ⟨.look, .finished none, []⟩
  | .scan (entry :: remaining) =>
      if state.health.enabled entry then ⟨.look, .ensure .keep, [.poll [] .collect]⟩
      else ⟨.look, .ensure (.scan remaining), []⟩
  | .keep => ⟨.keepHandle, .finished none, []⟩

def PollStage.step (lastPoll : List String) : PollStage → AdminStep
  | .collect => ⟨.look, .poll lastPoll (.filter state.list []), []⟩
  | .filter [] enabled =>
      ⟨.look, .poll lastPoll (if enabled = [] then .leave else .snapshot enabled), []⟩
  | .filter (entry :: remaining) enabled =>
      ⟨.look, .poll lastPoll (.filter remaining
        (if state.health.enabled entry then enabled ++ [entry.backendId] else enabled)), []⟩
  | .leave => ⟨.dropHandle, .finished none, []⟩
  | .snapshot enabled => ⟨.look, .poll lastPoll (.visit enabled state.list), []⟩
  | .visit [] _ => ⟨.look, .poll lastPoll .collect, []⟩
  | .visit (id :: ids) entries =>
      match BackendStore.find? entries id with
      | none => ⟨.look, .poll lastPoll (.visit ids entries), []⟩
      | some entry =>
          let cfg := state.health.config id entry.isExecutor
          if id ∉ lastPoll || input.elapsed then
            ⟨.look, .poll (id :: lastPoll)
              (.probe ⟨id, entry, cfg, state.history.length⟩ ids entries), []⟩
          else ⟨.look, .poll lastPoll (.visit ids entries), []⟩
  | .probe current ids entries =>
      ⟨.look, .poll lastPoll
        (.recheck current (observation (testTarget env current.entry) input.probe) ids entries), []⟩
  | .recheck current observed ids entries =>
      if (state.health.config current.id current.entry.isExecutor).enabled then
        ⟨.look, .poll lastPoll (.write current observed ids entries), []⟩
      else ⟨.look, .poll lastPoll (.visit ids entries), []⟩
  | .write current observed ids entries =>
      ⟨.observe current.id current.since (observed, current.cfg),
        .poll lastPoll (.visit ids entries), []⟩

def AdminTask.step : AdminTask → Option AdminStep
  | .post stage => some (stage.step host env yaml input state)
  | .probe entry since stage => some (stage.step host env yaml input state entry since)
  | .delete id stage => some (stage.step host env yaml input state id)
  | .put id stage => some (stage.step host state id)
  | .ensure stage => some (stage.step state)
  | .poll lastPoll stage => some (stage.step env input state lastPoll)
  | .finished _ => none

end

/-- A request that has just come in. -/
def AdminTask.isRequest : AdminTask → Bool
  | .post (.read _) | .delete _ .remove | .put _ (.exist _) => true
  | _ => false

/-- A step as a turn on the shared state. -/
def AdminStep.turn (state : AdminState) (step : AdminStep) : Turn AdminState AdminTask :=
  ⟨state.perform step.op, step.next, step.forked⟩

abbrev AdminPool := Pool AdminState AdminTask

abbrev AdminAction := Action AdminInput AdminTask

def adminProgram (host : Host) (env : ProcessEnv) (yaml : SerdeYaml) :
    Program AdminInput AdminState AdminTask where
  entry := AdminTask.isRequest
  advance input state task := (task.step host env yaml input state).map fun step => step.turn state

/-- A server that has just been started: its first task looks after the poller. -/
def AdminPool.serving (store : BackendStore) (backends : RegistryInner) : AdminPool :=
  ⟨⟨⟨store, backends, ∅, {}⟩, []⟩, [.ensure .check]⟩

/-! ## What one turn changes -/

variable {host : Host} {env : ProcessEnv} {yaml : SerdeYaml} {input : AdminInput}
  {state : AdminState} {op : AdminOp} {task : AdminTask}

theorem advance_adminProgram {turn : Turn AdminState AdminTask}
    (advances : (adminProgram host env yaml).advance input state task = some turn) :
    ∃ step, task.step host env yaml input state = some step ∧ turn = step.turn state := by
  obtain ⟨step, steps, rfl⟩ := Option.map_eq_some_iff.mp advances
  exact ⟨step, steps, rfl⟩

theorem isRequest_cases (requests : task.isRequest = true) :
    (∃ body, task = .post (.read body)) ∨ (∃ id, task = .delete id .remove) ∨
      ∃ id body, task = .put id (.exist body) := by
  unfold AdminTask.isRequest at requests
  split at requests
  · exact Or.inl ⟨_, rfl⟩
  · exact Or.inr (Or.inl ⟨_, rfl⟩)
  · exact Or.inr (Or.inr ⟨_, _, rfl⟩)
  · cases requests

namespace AdminOp

/-- The operation stores or removes an entry. -/
def onEntries : AdminOp → Bool
  | .save _ | .fill _ | .remove _ => true
  | _ => false

/-- The operation changes the health monitor. -/
def onHealth : AdminOp → Bool
  | .setConfig _ _ | .reset _ | .removeConfig _ | .observe _ _ _ | .keepHandle | .dropHandle => true
  | _ => false

end AdminOp

theorem AdminState.entries_perform (quiet : op.onEntries = false) :
    (state.perform op).entries = state.entries := by
  cases op with
  | save | fill | remove => cases quiet
  | _ => rfl

theorem AdminState.health_perform (quiet : op.onHealth = false) :
    (state.perform op).health = state.health := by
  cases op with
  | setConfig | reset | removeConfig | observe | keepHandle | dropHandle => cases quiet
  | _ => rfl

/-- Saving and rebuilding touch neither the entries nor the health monitor. -/
theorem CommitStage.step_quiet (host : Host) (env : ProcessEnv) (yaml : SerdeYaml)
    (input : AdminInput) (state : AdminState) (stage : CommitStage) :
    (stage.step host env yaml input state).1.onEntries = false ∧
      (stage.step host env yaml input state).1.onHealth = false := by
  cases stage with
  | rebuild =>
      unfold CommitStage.step
      cases buildBackends host.serde env state.list <;> exact ⟨rfl, rfl⟩
  | _ => exact ⟨rfl, rfl⟩

/-- The tasks that work on the stored entries; the others only read them. -/
def AdminTask.onStore : AdminTask → Bool
  | .post _ | .probe _ _ _ | .delete _ _ => true
  | _ => false

theorem PutStage.step_reads (host : Host) (state : AdminState) (id : String) (stage : PutStage) :
    (stage.step host state id).op.onEntries = false ∧
      ∀ task ∈ (stage.step host state id).next :: (stage.step host state id).forked,
        task.onStore = false := by
  cases stage with
  | exist body =>
      by_cases listed : BackendStore.hasId state.list id <;>
        simp [PutStage.step, listed, AdminOp.onEntries, AdminTask.onStore]
  | set cfg =>
      cases enabled : cfg.enabled <;>
        simp [PutStage.step, enabled, AdminOp.onEntries, AdminTask.onStore]
  | _ => simp [PutStage.step, AdminOp.onEntries, AdminTask.onStore]

theorem EnsureStage.step_reads (state : AdminState) (stage : EnsureStage) :
    (stage.step state).op.onEntries = false ∧
      ∀ task ∈ (stage.step state).next :: (stage.step state).forked, task.onStore = false := by
  cases stage with
  | check =>
      cases running : state.health.task.isSome <;>
        simp [EnsureStage.step, running, AdminOp.onEntries, AdminTask.onStore]
  | scan remaining =>
      cases remaining with
      | nil => simp [EnsureStage.step, AdminOp.onEntries, AdminTask.onStore]
      | cons entry remaining =>
          cases enabled : state.health.enabled entry <;>
            simp [EnsureStage.step, enabled, AdminOp.onEntries, AdminTask.onStore]
  | _ => simp [EnsureStage.step, AdminOp.onEntries, AdminTask.onStore]

theorem PollStage.step_reads (env : ProcessEnv) (input : AdminInput) (state : AdminState)
    (lastPoll : List String) (stage : PollStage) :
    (stage.step env input state lastPoll).op.onEntries = false ∧
      ∀ task ∈ (stage.step env input state lastPoll).next ::
        (stage.step env input state lastPoll).forked, task.onStore = false := by
  cases stage with
  | filter remaining enabled =>
      cases remaining <;> simp [PollStage.step, AdminOp.onEntries, AdminTask.onStore]
  | visit ids entries =>
      cases ids with
      | nil => simp [PollStage.step, AdminOp.onEntries, AdminTask.onStore]
      | cons id ids =>
          cases found : BackendStore.find? entries id with
          | none => simp [PollStage.step, found, AdminOp.onEntries, AdminTask.onStore]
          | some entry =>
              simp only [PollStage.step, found]
              split <;> simp [AdminOp.onEntries, AdminTask.onStore]
  | recheck current observed ids entries =>
      simp only [PollStage.step]
      split <;> simp [AdminOp.onEntries, AdminTask.onStore]
  | _ => simp [PollStage.step, AdminOp.onEntries, AdminTask.onStore]

/-- The tasks that only read the entries stay among themselves. -/
theorem AdminTask.step_reads {step : AdminStep} (reads : task.onStore = false)
    (steps : task.step host env yaml input state = some step) :
    step.op.onEntries = false ∧ ∀ other ∈ step.next :: step.forked, other.onStore = false := by
  cases task with
  | post | probe | delete => cases reads
  | put id stage =>
      obtain rfl := Option.some.inj steps
      exact stage.step_reads host state id
  | ensure stage =>
      obtain rfl := Option.some.inj steps
      exact stage.step_reads state
  | poll lastPoll stage =>
      obtain rfl := Option.some.inj steps
      exact stage.step_reads env input state lastPoll
  | finished reply => cases steps

variable {step : AdminStep}

section Pool

variable {pool : AdminPool} {index : Nat}

/-- A step settles or keeps what its task owes. -/
theorem owed_step {goal : AdminState → Prop} {owes : AdminTask → Prop}
    (owed : Program.Owed goal owes pool) (found : pool.threads[index]? = some task)
    (kept : goal pool.shared ∨ owes task →
      goal (pool.shared.perform step.op) ∨ owes step.next ∨ ∃ child ∈ step.forked, owes child) :
    Program.Owed goal owes ⟨pool.shared.perform step.op,
      Program.afterTurn pool.threads index (step.turn pool.shared)⟩ := by
  have turned : Program.Owed goal owes ⟨(step.turn pool.shared).shared,
      Program.afterTurn pool.threads index (step.turn pool.shared)⟩ := owed.turn found kept
  exact turned

/-- A step among tasks that are not counted. -/
theorem countP_step_same {test : AdminTask → Bool} (found : pool.threads[index]? = some task)
    (own : test task = false) (rest : ∀ other ∈ step.next :: step.forked, test other = false) :
    (Program.afterTurn pool.threads index (step.turn pool.shared)).countP test =
      pool.threads.countP test := by
  refine Program.countP_afterTurn_same found own ?_ ?_
  · exact rest step.next (List.mem_cons_self ..)
  · exact fun child mem => rest child (List.mem_cons_of_mem _ mem)

end Pool

/-- A test is noted, and goes on when it has found models for an entry without. -/
theorem tested_cases (env : ProcessEnv) (input : AdminInput) (entry : BackendEntry) (since : Nat) :
    ∃ status next, ProbeStage.tested env input entry since =
        ⟨.noteTest entry.backendId status, next, []⟩ ∧
      (next = .finished none ∨ ProbeStage.findsModels env input entry = true ∧
        ∃ models, next = .probe entry since (.check models) ∧ models ≠ [] ∧ entry.models = []) := by
  unfold ProbeStage.tested ProbeStage.findsModels
  cases testTarget env entry with
  | error message => exact ⟨_, _, rfl, Or.inl rfl⟩
  | ok target =>
      cases target with
      | none => exact ⟨_, _, rfl, Or.inl rfl⟩
      | some target =>
          cases input.probe with
          | error message => exact ⟨_, _, rfl, Or.inl rfl⟩
          | ok outcome =>
              refine ⟨_, _, rfl, ?_⟩
              by_cases finds : (outcome.models ≠ [] && entry.models = []) = true
              · obtain ⟨found, missing⟩ : outcome.models ≠ [] ∧ entry.models = [] := by
                  simpa using finds
                exact Or.inr ⟨finds, outcome.models, if_pos finds, found, missing⟩
              · exact Or.inl (if_neg finds)

/-- The operation touches neither the entries nor the health monitor. -/
def AdminOp.Quiet (op : AdminOp) : Prop := op.onEntries = false ∧ op.onHealth = false

/-- All that a step of a task on the store can be. -/
inductive StoreStep (env : ProcessEnv) (input : AdminInput) (state : AdminState) :
    AdminTask → AdminStep → Prop
  | ends (task : AdminTask) {op : AdminOp} (quiet : op.Quiet) (reply : Option Reply) :
      StoreStep env input state task ⟨op, .finished reply, []⟩
  | posted (body : Json) (entry : BackendEntry) :
      StoreStep env input state (.post (.read body)) ⟨.look, .post (.store entry), []⟩
  | saved (entry : BackendEntry) :
      StoreStep env input state (.post (.store entry))
        ⟨.save entry, .post (.commit entry (state.history.length + 1) .save), []⟩
  | posting (entry : BackendEntry) (since : Nat) (stage next : CommitStage) {op : AdminOp}
      (quiet : op.Quiet) :
      StoreStep env input state (.post (.commit entry since stage))
        ⟨op, .post (.commit entry since next), []⟩
  | answered (entry : BackendEntry) (since : Nat) (stage : CommitStage) {op : AdminOp}
      (quiet : op.Quiet) (reply : Option Reply) :
      StoreStep env input state (.post (.commit entry since stage))
        ⟨op, .finished reply, [.probe entry since .test]⟩
  | tested (entry : BackendEntry) (since : Nat) (status : Json) {models : List String}
      (finds : ProbeStage.findsModels env input entry = true) (found : models ≠ [])
      (missing : entry.models = []) :
      StoreStep env input state (.probe entry since .test)
        ⟨.noteTest entry.backendId status, .probe entry since (.check models), []⟩
  | checked (entry : BackendEntry) (since : Nat) (models : List String)
      (listed : BackendStore.hasId state.list entry.backendId = true) :
      StoreStep env input state (.probe entry since (.check models))
        ⟨.look, .probe entry since (.store models), []⟩
  | filled (entry : BackendEntry) (since : Nat) (models : List String) :
      StoreStep env input state (.probe entry since (.store models))
        ⟨.fill { entry with models := models }, .probe entry since (.commit .save), []⟩
  | probing (entry : BackendEntry) (since : Nat) (stage next : CommitStage) {op : AdminOp}
      (quiet : op.Quiet) :
      StoreStep env input state (.probe entry since (.commit stage))
        ⟨op, .probe entry since (.commit next), []⟩
  | removed (id : String) :
      StoreStep env input state (.delete id .remove)
        ⟨.remove id, .delete id (.commit .save), []⟩
  | deleting (id : String) (stage next : CommitStage) {op : AdminOp} (quiet : op.Quiet) :
      StoreStep env input state (.delete id (.commit stage)) ⟨op, .delete id (.commit next), []⟩
  | committed (id : String) (stage : CommitStage) {op : AdminOp} (quiet : op.Quiet) :
      StoreStep env input state (.delete id (.commit stage)) ⟨op, .delete id .forgetTest, []⟩
  | forgotten (id : String) :
      StoreStep env input state (.delete id .forgetTest)
        ⟨.forgetTest id, .delete id .resetState, []⟩
  | reset (id : String) :
      StoreStep env input state (.delete id .resetState)
        ⟨.reset id, .delete id .removeConfig, []⟩
  | unconfigured (id : String) (reply : Option Reply) :
      StoreStep env input state (.delete id .removeConfig)
        ⟨.removeConfig id, .finished reply, []⟩

theorem AdminOp.quiet_look : AdminOp.look.Quiet := ⟨rfl, rfl⟩

theorem PostStage.storeStep (stage : PostStage) :
    StoreStep env input state (.post stage) (stage.step host env yaml input state) := by
  cases stage with
  | read body =>
      rw [PostStage.step]
      cases postedEntry host env state.list body with
      | error message => exact .ends _ AdminOp.quiet_look _
      | ok entry => exact .posted body entry
  | store entry => exact .saved entry
  | commit entry since stage =>
      have quiet : AdminOp.Quiet _ := stage.step_quiet host env yaml input state
      rw [PostStage.step]
      rcases commits : stage.step host env yaml input state with ⟨op, message | ⟨_ | next⟩⟩ <;>
        rw [commits] at quiet
      · exact .ends _ quiet _
      · exact .answered entry since stage quiet _
      · exact .posting entry since stage next quiet

theorem ProbeStage.storeStep (entry : BackendEntry) (since : Nat) (stage : ProbeStage) :
    StoreStep env input state (.probe entry since stage)
      (stage.step host env yaml input state entry since) := by
  cases stage with
  | test =>
      obtain ⟨status, next, tested, rfl | ⟨finds, models, rfl, found, missing⟩⟩ :=
        tested_cases env input entry since
      · rw [ProbeStage.step, tested]
        exact .ends _ ⟨rfl, rfl⟩ _
      · rw [ProbeStage.step, tested]
        exact .tested entry since status finds found missing
  | check models =>
      rw [ProbeStage.step]
      split
      · exact .checked entry since models (by assumption)
      · exact .ends _ AdminOp.quiet_look _
  | store models => exact .filled entry since models
  | commit stage =>
      have quiet : AdminOp.Quiet _ := stage.step_quiet host env yaml input state
      rcases commits : stage.step host env yaml input state with ⟨op, message | ⟨_ | next⟩⟩ <;>
        rw [commits] at quiet
      · -- Only the error of a failed write is passed over.
        cases stage with
        | write entries =>
            simp only [ProbeStage.step, commits]
            exact .probing entry since _ .rebuild quiet
        | _ =>
            simp only [ProbeStage.step, commits]
            exact .ends _ quiet _
      · cases stage <;> simp only [ProbeStage.step, commits] <;> exact .ends _ quiet _
      · simp only [ProbeStage.step, commits]
        exact .probing entry since stage next quiet

theorem DeleteStage.storeStep (id : String) (stage : DeleteStage) :
    StoreStep env input state (.delete id stage)
      (stage.step host env yaml input state id) := by
  cases stage with
  | remove =>
      rw [DeleteStage.step]
      split
      · exact .removed id
      · exact .ends _ AdminOp.quiet_look _
  | commit stage =>
      have quiet : AdminOp.Quiet _ := stage.step_quiet host env yaml input state
      rw [DeleteStage.step]
      rcases commits : stage.step host env yaml input state with ⟨op, message | ⟨_ | next⟩⟩ <;>
        rw [commits] at quiet
      · exact .ends _ quiet _
      · exact .committed id stage quiet
      · exact .deleting id stage next quiet
  | forgetTest => exact .forgotten id
  | resetState => exact .reset id
  | removeConfig => exact .unconfigured id _

theorem AdminTask.storeStep (onStore : task.onStore = true)
    (steps : task.step host env yaml input state = some step) :
    StoreStep env input state task step := by
  cases task with
  | post stage =>
      obtain rfl := Option.some.inj steps
      exact stage.storeStep
  | probe entry since stage =>
      obtain rfl := Option.some.inj steps
      exact stage.storeStep entry since
  | delete id stage =>
      obtain rfl := Option.some.inj steps
      exact stage.storeStep id
  | put | ensure | poll | finished => cases onStore

/-- The three steps that store or remove an entry. -/
theorem onEntries_cases (steps : task.step host env yaml input state = some step)
    (stores : step.op.onEntries = true) :
    (∃ entry, task = .post (.store entry) ∧
        step = ⟨.save entry, .post (.commit entry (state.history.length + 1) .save), []⟩) ∨
      (∃ entry since models, task = .probe entry since (.store models) ∧
        step = ⟨.fill { entry with models := models }, .probe entry since (.commit .save), []⟩) ∨
      ∃ id, task = .delete id .remove ∧ step = ⟨.remove id, .delete id (.commit .save), []⟩ := by
  cases kind : task.onStore with
  | false =>
      rw [(AdminTask.step_reads kind steps).1] at stores
      cases stores
  | true =>
      cases AdminTask.storeStep kind steps with
      | saved entry => exact Or.inl ⟨entry, rfl, rfl⟩
      | filled entry since models => exact Or.inr (Or.inl ⟨entry, since, models, rfl, rfl⟩)
      | removed id => exact Or.inr (Or.inr ⟨id, rfl, rfl⟩)
      | ends _ quiet | posting _ _ _ _ quiet | answered _ _ _ quiet | probing _ _ _ _ quiet
      | deleting _ _ _ quiet | committed _ _ quiet =>
          rw [quiet.1] at stores
          cases stores
      | _ => cases stores

theorem PutStage.onHealth_cases {id : String} {stage : PutStage}
    (changes : (stage.step host state id).op.onHealth = true) :
    (∃ cfg, stage = .set cfg) ∨ ∃ cfg, stage = .resetState cfg := by
  cases stage with
  | exist body =>
      simp only [PutStage.step] at changes
      split at changes <;> cases changes
  | set cfg => exact Or.inl ⟨cfg, rfl⟩
  | resetState cfg => exact Or.inr ⟨cfg, rfl⟩
  | _ => cases changes

theorem EnsureStage.eq_keep_of_onHealth {stage : EnsureStage}
    (changes : (stage.step state).op.onHealth = true) : stage = .keep := by
  cases stage with
  | check =>
      simp only [EnsureStage.step] at changes
      split at changes <;> cases changes
  | list => cases changes
  | scan remaining =>
      cases remaining with
      | nil => cases changes
      | cons entry remaining =>
          simp only [EnsureStage.step] at changes
          split at changes <;> cases changes
  | keep => rfl

theorem PollStage.onHealth_cases {lastPoll : List String} {stage : PollStage}
    (changes : (stage.step env input state lastPoll).op.onHealth = true) :
    stage = .leave ∨
      ∃ current observed ids entries, stage = .write current observed ids entries := by
  cases stage with
  | filter remaining enabled => cases remaining <;> cases changes
  | leave => exact Or.inl rfl
  | visit ids entries =>
      cases ids with
      | nil => cases changes
      | cons id ids =>
          cases found : BackendStore.find? entries id with
          | none =>
              simp only [PollStage.step, found] at changes
              cases changes
          | some entry =>
              simp only [PollStage.step, found] at changes
              split at changes <;> cases changes
  | recheck current observed ids entries =>
      simp only [PollStage.step] at changes
      split at changes <;> cases changes
  | write current observed ids entries => exact Or.inr ⟨current, observed, ids, entries, rfl⟩
  | _ => cases changes

/-- The steps that change the health monitor. -/
theorem onHealth_cases (steps : task.step host env yaml input state = some step)
    (changes : step.op.onHealth = true) :
    (∃ id, task = .delete id .resetState ∧ step.op = .reset id) ∨
      (∃ id, task = .delete id .removeConfig ∧ step.op = .removeConfig id) ∨
      (∃ id cfg, task = .put id (.set cfg) ∧ step.op = .setConfig id cfg) ∨
      (∃ id cfg, task = .put id (.resetState cfg) ∧ step.op = .reset id) ∨
      task = .ensure .keep ∨
      (∃ lastPoll, task = .poll lastPoll .leave) ∨
      ∃ lastPoll current observed ids entries,
        task = .poll lastPoll (.write current observed ids entries) := by
  by_cases kind : task.onStore = true
  · cases AdminTask.storeStep kind steps with
    | reset id => exact Or.inl ⟨id, rfl, rfl⟩
    | unconfigured id => exact Or.inr (Or.inl ⟨id, rfl, rfl⟩)
    | ends _ quiet | posting _ _ _ _ quiet | answered _ _ _ quiet | probing _ _ _ _ quiet
    | deleting _ _ _ quiet | committed _ _ quiet =>
        rw [quiet.2] at changes
        cases changes
    | _ => cases changes
  refine Or.inr (Or.inr ?_)
  cases task with
  | post | probe | delete => exact absurd rfl kind
  | put id stage =>
      obtain rfl := Option.some.inj steps
      rcases PutStage.onHealth_cases changes with ⟨cfg, rfl⟩ | ⟨cfg, rfl⟩
      · exact Or.inl ⟨id, cfg, rfl, rfl⟩
      · exact Or.inr (Or.inl ⟨id, cfg, rfl, rfl⟩)
  | ensure stage =>
      obtain rfl := Option.some.inj steps
      obtain rfl := EnsureStage.eq_keep_of_onHealth changes
      exact Or.inr (Or.inr (Or.inl rfl))
  | poll lastPoll stage =>
      obtain rfl := Option.some.inj steps
      rcases PollStage.onHealth_cases changes with rfl | ⟨current, observed, ids, entries, rfl⟩
      · exact Or.inr (Or.inr (Or.inr (Or.inl ⟨lastPoll, rfl⟩)))
      · exact Or.inr (Or.inr (Or.inr (Or.inr ⟨lastPoll, current, observed, ids, entries, rfl⟩)))
  | finished reply => cases steps

/-! ## Parts of runs -/

/-- A home executor without models, at some address. -/
def pairBody (baseUrl : String) : Json :=
  .obj [("preset", .str "pair"), ("baseUrl", .str baseUrl)]

/-- A task takes this many turns. -/
def turns (index count : Nat) : List AdminAction := List.replicate count (.turn index {})

def emptyServer : AdminPool := .serving ⟨[], ⟨none, none⟩⟩ .empty

/-- A probe comes back with one model. -/
def probeAnswer (index : Nat) : AdminAction :=
  .turn index { probe := .ok { latencyMs := 3, models := ["qwen3"] } }

/-- A home executor, which is polled by default. -/
def pairEntry : BackendEntry :=
  { provider := "pair", id := some "pair-home-1", baseUrl := some "http://10.0.0.5/v1" }

def pairServer : AdminPool := .serving ⟨[pairEntry], ⟨none, none⟩⟩ .empty

end AiPowerGateway.Share

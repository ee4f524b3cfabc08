import AiPowerGateway.Share.BackendStore
import AiPowerGateway.Share.Health

/-!
# The health monitor

The polling configuration of a backend with its defaults, the tables of the monitor,
and what the poller writes down after a probe.
-/

namespace AiPowerGateway.Share

structure PollConfig where
  enabled : Bool := true
  pollIntervalSecs : UInt64 := 15
  failThreshold : UInt32 := 3
  removeThreshold : UInt32 := 10
  deriving DecidableEq, Repr

namespace PollConfig

/-- Without a configuration of their own, only executors are polled. -/
def fallback (isExecutor : Bool) : PollConfig := { enabled := isExecutor }

/-- The signed number under a key of a body, else the fallback; at least one. -/
def bodyNumber (body : Json) (key : String) (fallback : Int) : Int :=
  max 1 (((body.get? key).bind Json.asI64?).getD fallback)

/-- A new configuration: what the body leaves out stays, thresholds lose their high bits. -/
def ofBody (body : Json) (current : PollConfig) : PollConfig where
  enabled := ((body.get? "enabled").bind Json.asBool?).getD current.enabled
  pollIntervalSecs :=
    (bodyNumber body "pollIntervalSecs" current.pollIntervalSecs.toInt64.toInt).toNat.toUInt64
  failThreshold := (bodyNumber body "failThreshold" current.failThreshold.toNat).toNat.toUInt32
  removeThreshold :=
    (bodyNumber body "removeThreshold" current.removeThreshold.toNat).toNat.toUInt32

end PollConfig

/-- The handle of a spawned task; nothing ever joins it. -/
structure JoinHandle where
  deriving DecidableEq, Repr

structure HealthMonitor where
  states : HashMap ProviderState := ∅
  configs : HashMap PollConfig := ∅
  /-- The scheduling loop, when one was started and has not left. -/
  task : Option JoinHandle := none
  deriving DecidableEq

namespace HealthMonitor

/-- The configuration of a backend, else the default of its kind. -/
def config (monitor : HealthMonitor) (id : String) (isExecutor : Bool) : PollConfig :=
  (monitor.configs.lookup id).getD (.fallback isExecutor)

def setConfig (id : String) (cfg : PollConfig) (monitor : HealthMonitor) : HealthMonitor :=
  { monitor with configs := monitor.configs.insert id cfg }

/-- Forget the state of a backend. -/
def resetState (id : String) (monitor : HealthMonitor) : HealthMonitor :=
  { monitor with states := monitor.states.erase id }

def removeConfig (id : String) (monitor : HealthMonitor) : HealthMonitor :=
  { monitor with configs := monitor.configs.erase id }

/-- Forget a deleted backend: its state, then its configuration. -/
def remove (id : String) (monitor : HealthMonitor) : HealthMonitor :=
  (monitor.resetState id).removeConfig id

/-- An entry is polled. -/
def enabled (monitor : HealthMonitor) (entry : BackendEntry) : Bool :=
  (monitor.config entry.backendId entry.isExecutor).enabled

def hasEnabled (monitor : HealthMonitor) (entries : List BackendEntry) : Bool :=
  entries.any monitor.enabled

@[simp] theorem config_setConfig_self (id : String) (cfg : PollConfig)
    (monitor : HealthMonitor) (isExecutor : Bool) :
    (monitor.setConfig id cfg).config id isExecutor = cfg := by
  simp [setConfig, HealthMonitor.config]

theorem config_setConfig_ne {id other : String} (differ : other ≠ id) (cfg : PollConfig)
    (monitor : HealthMonitor) (isExecutor : Bool) :
    (monitor.setConfig id cfg).config other isExecutor = monitor.config other isExecutor := by
  simp [setConfig, HealthMonitor.config, AList.lookup_insert_ne differ]

@[simp] theorem config_removeConfig_self (id : String) (monitor : HealthMonitor)
    (isExecutor : Bool) :
    (monitor.removeConfig id).config id isExecutor = .fallback isExecutor := by
  simp [removeConfig, HealthMonitor.config]

theorem config_removeConfig_ne {id other : String} (differ : other ≠ id)
    (monitor : HealthMonitor) (isExecutor : Bool) :
    (monitor.removeConfig id).config other isExecutor = monitor.config other isExecutor := by
  simp [removeConfig, HealthMonitor.config, AList.lookup_erase_ne differ]

end HealthMonitor

/-! ## Probes -/

structure ProbeOutcome where
  latencyMs : UInt64
  /-- The models that the endpoint lists. -/
  models : List String
  deriving DecidableEq, Repr

/-- What the poller makes of a probe. -/
structure Observation where
  ok : Bool
  latencyMs : Option UInt64
  error : Option String
  deriving DecidableEq, Repr

/-- The mock counts as healthy, an entry without a target as failed. -/
def observation (target : Except String (Option TestTarget))
    (probe : Except String ProbeOutcome) : Observation :=
  match target with
  | .ok (some _) =>
      match probe with
      | .ok outcome => ⟨true, some outcome.latencyMs, none⟩
      | .error message => ⟨false, none, some message⟩
  | .ok none => ⟨true, none, none⟩
  | .error message => ⟨false, none, some message⟩

namespace ProviderState

def fresh : ProviderState := ⟨.ok, 0, none, none⟩

/-- One observation under the thresholds of a configuration. -/
def note (state : ProviderState) (observed : Observation × PollConfig) : ProviderState :=
  state.observe observed.1.ok observed.1.latencyMs observed.1.error observed.2.failThreshold
    observed.2.removeThreshold

/-- The state after a row of observations, none of them for no state. -/
def fold : List (Observation × PollConfig) → Option ProviderState
  | [] => none
  | observed => some (observed.foldl note fresh)

theorem fold_concat (log : List (Observation × PollConfig)) (observed : Observation × PollConfig) :
    fold (log ++ [observed]) = some (((fold log).getD fresh).note observed) := by
  cases log <;> simp [fold]

end ProviderState

namespace HealthMonitor

/-- Note an observation in the state of a backend. -/
def observe (id : String) (observed : Observation × PollConfig) (monitor : HealthMonitor) :
    HealthMonitor :=
  { monitor with
    states := monitor.states.upsert id .fresh fun state => state.note observed }

end HealthMonitor

end AiPowerGateway.Share

import AiPowerGateway.Collections.HashMap

/-!
# Provider health

The health of one backend as the poller records it, and the table of it that the
registry reads.
-/

namespace AiPowerGateway.Share

inductive HealthLevel where
  | ok
  | degraded
  | removed
  deriving DecidableEq, Repr

structure ProviderState where
  level : HealthLevel
  /-- Failures in a row. -/
  failures : UInt32
  latencyMs : Option UInt64
  lastError : Option String
  deriving DecidableEq, Repr

/-- One probe result: a success resets the state, a failure counts. -/
def ProviderState.observe (state : ProviderState) (ok : Bool) (latencyMs : Option UInt64)
    (error : Option String) (failThreshold removeThreshold : UInt32) : ProviderState :=
  if ok then
    { level := .ok, failures := 0, latencyMs := latencyMs, lastError := none }
  else
    let failures := state.failures + 1
    { state with
      failures := failures
      level :=
        if removeThreshold ≤ failures then .removed
        else if failThreshold ≤ failures then .degraded
        else .ok
      lastError := error }

/-- The table that was attached to the registry, if one was. -/
abbrev HealthTable := Option (HashMap ProviderState)

namespace HealthTable

def level? (health : HealthTable) (name : String) : Option HealthLevel :=
  health.bind fun table => (table.lookup name).map ProviderState.level

def isRemoved (health : HealthTable) (name : String) : Bool :=
  health.level? name = some .removed

/-- Degraded backends rank behind the others. -/
def routeRank (health : HealthTable) (name : String) : Nat :=
  if health.level? name = some .degraded then 1 else 0

end HealthTable

end AiPowerGateway.Share

import AiPowerGateway.Share.Api
import AiPowerGateway.Share.HealthMonitor

/-!
# Changing the configured backends

The handlers behind `POST /api/backends` and `DELETE /api/backends/{id}`: memory first,
then the file, then the registry is rebuilt from the whole list.
-/

namespace AiPowerGateway.Share

/-- What the handlers of the panel change. -/
structure ConfigState where
  backendsConfig : BackendStore
  backends : RegistryInner
  testStatus : HashMap Json := ∅
  health : HealthMonitor := {}

variable (host : Host) (env : ProcessEnv) (yaml : SerdeYaml)

namespace ConfigState

/-- A server that starts from its file and the entries of the command line. -/
def withEntries (disk : Systems.FileReplace.Disk String) (initial : List BackendEntry) :
    Except String ConfigState :=
  let store := BackendStore.new yaml disk initial
  (buildBackends host.serde env store.list).map fun built => ⟨store, .replaceAll built, ∅, {}⟩

/-- Rebuild the registry from all entries, or leave it. -/
def applyBackendConfig (state : ConfigState) : Except String Unit × ConfigState :=
  match buildBackends host.serde env state.backendsConfig.list with
  | .ok built => (.ok (), { state with backends := .replaceAll built })
  | .error error => (.error ("rebuild backends: " ++ error), state)

/-- Save the list, then rebuild. -/
def saveAndApply (outcome : SaveOutcome) (state : ConfigState) :
    Except String Unit × ConfigState :=
  match state.backendsConfig.save yaml outcome with
  | (.error error, store) =>
      (.error ("save backends.yaml: " ++ error), { state with backendsConfig := store })
  | (.ok (), store) => applyBackendConfig host env { state with backendsConfig := store }

end ConfigState

/-- A body without a key keeps the stored one. -/
def inheritKeys (entries : List BackendEntry) (entry : BackendEntry) : BackendEntry :=
  if entry.apiKey.isSome || entry.apiKeyEnv.isSome then entry
  else match BackendStore.find? entries entry.backendId with
    | some old => { entry with apiKey := old.apiKey, apiKeyEnv := old.apiKeyEnv }
    | none => entry

/-- The entry that a body asks to store, or why it is refused. -/
def postedEntry (entries : List BackendEntry) (body : Json) : Except String BackendEntry :=
  match entryFromBody body with
  | .error message => .error message
  | .ok parsed =>
      let entry := inheritKeys entries parsed
      match backendFromEntry host.serde env entry with
      | .error error => .error ("invalid backend: " ++ error)
      | .ok _ => .ok entry

def apiBackendsSet (outcome : SaveOutcome) (body : Json) (state : ConfigState) :
    Reply × ConfigState :=
  match postedEntry host env state.backendsConfig.list body with
  | .error message => (errorReply host 400 message, state)
  | .ok entry =>
      let upserted := { state with backendsConfig := state.backendsConfig.upsert entry }
      match upserted.saveAndApply host env yaml outcome with
      | (.error message, state) => (errorReply host 500 message, state)
      | (.ok (), state) =>
          (jsonReply host 200 (.obj [("ok", .bool true), ("backend", .obj [
            ("id", .str entry.backendId), ("provider", .str entry.provider)])]), state)

def apiBackendsDelete (outcome : SaveOutcome) (id : String) (state : ConfigState) :
    Reply × ConfigState :=
  match state.backendsConfig.remove id with
  | (false, _) => (errorReply host 404 ("backend not found: " ++ id), state)
  | (true, store) =>
      match { state with backendsConfig := store }.saveAndApply host env yaml outcome with
      | (.error message, state) => (errorReply host 500 message, state)
      | (.ok (), state) =>
          (jsonReply host 200 (.obj [("ok", .bool true), ("removed", .str id)]),
            { state with
              testStatus := state.testStatus.erase id
              health := state.health.remove id })

end AiPowerGateway.Share

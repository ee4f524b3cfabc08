import AiPowerGateway.Collections.HashMap
import AiPowerGateway.Graphs.TopoSort
import AiPowerGateway.Json.Value

/-!
# Booting the modules of a role

A runtime holds the registered modules and the host that they set up.  Booting a role
sorts the modules it wants by their dependencies and applies them in turn; an optional
module that fails is skipped, any other failure ends the boot.
-/

namespace AiPowerGateway.Runtime

inductive RuntimeError where
  | duplicateModule (name : String)
  | missingModule (name : String)
  | dependencyCycle (text : String)
  | moduleError (text : String)
  | configError (text : String)
  | roleError (text : String)
  | auth (text : String)
  | other (text : String)
  deriving DecidableEq, Repr

def RuntimeError.display : RuntimeError → String
  | .duplicateModule name => "duplicate module: " ++ name
  | .missingModule name => "missing required module: " ++ name
  | .dependencyCycle text => "dependency cycle: " ++ text
  | .moduleError text => "module error: " ++ text
  | .configError text => "config error: " ++ text
  | .roleError text => "role error: " ++ text
  | .auth text => "auth: " ++ text
  | .other text => text

/-! ## Modules -/

/-- A `dyn Module`.  Its `apply` gets the name and the configuration, and changes the
host whether or not it succeeds. -/
structure Module (η : Type) where
  name : String
  requires : List String := []
  optional : Bool := false
  defaultConfig : Json := .obj []
  apply : String → Json → η → Except RuntimeError Unit × η

variable {η : Type}

/-- The registered modules, each under its own name. -/
structure Registry (η : Type) where
  modules : HashMap (Module η)
  named {name : String} {module : Module η} :
    modules.lookup name = some module → module.name = name

namespace Registry

def new : Registry η where
  modules := ∅
  named found := by simp at found

def store (registry : Registry η) (module : Module η) : Registry η where
  modules := registry.modules.insert module.name module
  named := by
    intro name stored found
    by_cases same : name = module.name
    · subst same
      rw [AList.lookup_insert] at found
      rw [← Option.some.inj found]
    · exact registry.named (by simpa [AList.lookup_insert_ne same] using found)

def get (registry : Registry η) (name : String) : Option (Module η) :=
  registry.modules.lookup name

def names (registry : Registry η) : List String := registry.modules.keys

/-- A name is registered once. -/
def register (registry : Registry η) (module : Module η) : Except RuntimeError (Registry η) :=
  if (registry.get module.name).isSome then .error (.duplicateModule module.name)
  else .ok (registry.store module)

theorem mem_names {registry : Registry η} {name : String} :
    name ∈ registry.names ↔ ∃ module, registry.get name = some module := by
  rw [← Option.isSome_iff_exists]
  exact AList.lookup_isSome.symm

/-- What a registered module requires; nobody asks for the requirements of another name. -/
def requiresOf (registry : Registry η) (name : String) : List String :=
  ((registry.get name).map Module.requires).getD []

def isOptional (registry : Registry η) (name : String) : Bool :=
  ((registry.get name).map Module.optional).getD false

end Registry

/-! ## Configuration -/

mutual

/-- Merge two objects; a target or an override that is no object changes nothing. -/
def deepMerge : (target overrides : Json) → Json
  | .obj target, .obj overrides => .obj (mergeFields target overrides)
  | target, _ => target

/-- Objects under one key are merged, any other override replaces what is there. -/
def mergeFields (target : Json.Fields) : (overrides : Json.Fields) → Json.Fields
  | [] => target
  | (key, value) :: rest =>
      let merged := match Json.lookupField key target with
        | some existing =>
            if existing.asObject?.isSome && value.asObject?.isSome then deepMerge existing value
            else value
        | none => value
      mergeFields (Json.insertField key merged target) rest

end

/-- The defaults of a module under the overrides for its name. -/
def mergeModuleConfig (default overrides : Json) (module : String) : Json :=
  deepMerge default ((overrides.get? module).getD (.obj []))

/-! ## Roles -/

inductive Role where
  | server
  | client
  | custom (id : String)
  deriving DecidableEq, Repr

def Role.defaultModules : Role → List String
  | .server => ["lan-share-server", "lan-auth", "lan-member-registry", "lan-usage",
      "lan-discovery-broadcast", "lan-web-console", "coord-client"]
  | .client => ["lan-discovery-client", "lan-share-client", "lan-identity", "lan-usage-view",
      "coord-client"]
  | .custom _ => []

/-- A custom role lists its modules in the overrides. -/
def wantedModules (role : Role) (overrides : Json) : Except RuntimeError (List String) :=
  match role with
  | .custom id =>
      match (overrides.get? "modules").bind Json.asArray? with
      | none => .error (.configError ("custom role " ++ id ++ ": missing modules list"))
      | some list => .ok (list.filterMap Json.asStr?)
  | role => .ok role.defaultModules

/-- The wanted modules in the order in which they are applied. -/
def bootOrder (registry : Registry η) (role : Role) (overrides : Json) :
    Except RuntimeError (List String) :=
  match wantedModules role overrides with
  | .error e => .error e
  | .ok want =>
      match want.find? (· ∉ registry.names) with
      | some name => .error (.missingModule name)
      | none =>
          match Graphs.topoSort want registry.requiresOf with
          | .error name => .error (.dependencyCycle ("cycle at " ++ name))
          | .ok order => .ok order

/-! ## Applying the modules -/

/-- One call of `Module::apply`, and the modules that were booted by then. -/
structure ApplyCall where
  name : String
  booted : List String

structure Assembly (η : Type) where
  host : η
  booted : List String := []
  skipped : List (String × String) := []
  calls : List ApplyCall := []

inductive AssemblyEnd where
  | finished
  | failed (error : RuntimeError)
  /-- A module of the order is not registered. -/
  | panicked

/-- What `apply` does to the host under the merged configuration. -/
def Module.run (module : Module η) (overrides : Json) (name : String) (host : η) :
    Except RuntimeError Unit × η :=
  module.apply name (mergeModuleConfig module.defaultConfig overrides name) host

/-- The apply loop of a boot. -/
def applyAll (registry : Registry η) (overrides : Json) :
    List String → Assembly η → AssemblyEnd × Assembly η
  | [], assembly => (.finished, assembly)
  | name :: rest, assembly =>
      match registry.get name with
      | none => (.panicked, assembly)
      | some module =>
          let result := module.run overrides name assembly.host
          let called := { assembly with
            host := result.2, calls := assembly.calls ++ [⟨name, assembly.booted⟩] }
          match result.1 with
          | .ok () =>
              applyAll registry overrides rest { called with booted := called.booted ++ [name] }
          | .error e =>
              if module.optional then
                applyAll registry overrides rest
                  { called with skipped := called.skipped ++ [(name, e.display)] }
              else (.failed e, called)

structure BootResult (η : Type) where
  host : η
  booted : List String
  skipped : List (String × String)

/-- What a boot did; a result that is missing is a panic. -/
structure Booting (η : Type) where
  assembly : Assembly η
  result : Option (Except RuntimeError (BootResult η))

def AssemblyEnd.result (assembly : Assembly η) :
    AssemblyEnd → Option (Except RuntimeError (BootResult η))
  | .finished => some (.ok ⟨assembly.host, assembly.booted, assembly.skipped⟩)
  | .failed e => some (.error e)
  | .panicked => none

def boot (registry : Registry η) (host : η) (role : Role) (overrides : Json) : Booting η :=
  match bootOrder registry role overrides with
  | .error e => ⟨{ host := host }, some (.error e)⟩
  | .ok order =>
      let run := applyAll registry overrides order { host := host }
      ⟨run.2, run.1.result run.2⟩

end AiPowerGateway.Runtime

import AiPowerGateway.Json.Compact
import AiPowerGateway.Json.Schema
import AiPowerGateway.Runtime.Roles

/-!
# The text of `role.json`

Its reader takes missing fields as defaults.  One concrete text stands for the file:
compact JSON, which `serde_json` would only print on more lines.
-/

namespace AiPowerGateway.Runtime

open Json (field? record? member? ofOption toOption?)

namespace ModuleEntry

def toJson (entry : ModuleEntry) : Json :=
  .obj [("enabled", .bool entry.enabled), ("config", entry.config)]

def ofJson? (value : Json) : Option ModuleEntry := do
  let record ← record? 2 value
  some
    { enabled := ← member? record 0 "enabled" (some true) Json.asBool?
      config := ← member? record 1 "config" (some .null) some }

theorem ofJson?_toJson (entry : ModuleEntry) : ofJson? entry.toJson = some entry := rfl

end ModuleEntry

/-! ## Tables of modules -/

/-- The last entry of a name is the one that counts. -/
def modulesOfList : List (String × ModuleEntry) → HashMap ModuleEntry
  | [] => ∅
  | (name, entry) :: rest =>
      let later := modulesOfList rest
      if name ∈ later then later else later.insert name entry

def modulesToJson (modules : HashMap ModuleEntry) : Json :=
  .obj (modules.entries.map fun entry => (entry.1, entry.2.toJson))

def modulesOfJson? (value : Json) : Option (HashMap ModuleEntry) := do
  let fields ← value.asObject?
  let entries ← fields.mapM fun field => (ModuleEntry.ofJson? field.2).map (field.1, ·)
  some (modulesOfList entries)

theorem modulesOfList_entries (modules : HashMap ModuleEntry) :
    modulesOfList (modules.entries.map fun entry => (entry.1, entry.2)) = modules := by
  obtain ⟨entries, distinct⟩ := modules
  induction entries with
  | nil => rfl
  | cons first rest ih =>
      obtain ⟨fresh, others⟩ := List.nodupKeys_cons.mp distinct
      have absent : first.1 ∉ (⟨rest, others⟩ : HashMap ModuleEntry) := fresh
      rw [List.map_cons, modulesOfList, ih others, if_neg absent]
      exact (AList.mk_cons_eq_insert first rest distinct).symm

theorem modulesOfJson?_modulesToJson (modules : HashMap ModuleEntry) :
    modulesOfJson? (modulesToJson modules) = some modules := by
  have reads (entries : List (Sigma fun _ : String => ModuleEntry)) :
      (entries.map fun entry => (entry.1, entry.2.toJson)).mapM
        (fun field => (ModuleEntry.ofJson? field.2).map (field.1, ·)) =
      some (entries.map fun entry => (entry.1, entry.2)) := by
    induction entries with
    | nil => rfl
    | cons first rest ih =>
        rw [List.map_cons, List.mapM_cons, ih, ModuleEntry.ofJson?_toJson]
        rfl
  rw [modulesOfJson?, modulesToJson]
  simp only [Json.asObject?, Option.bind_eq_bind, Option.bind_some, reads,
    modulesOfList_entries]

/-! ## Profiles -/

namespace RoleProfile

def toJson (profile : RoleProfile) : Json :=
  .obj [
    ("id", .str profile.id),
    ("name", ofOption .str profile.name),
    ("modules", modulesToJson profile.modules),
    ("base", ofOption .str profile.base)]

def ofJson? (value : Json) : Option RoleProfile := do
  let record ← record? 4 value
  some
    { id := ← member? record 0 "id" none Json.asStr?
      name := ← member? record 1 "name" (some none) (toOption? Json.asStr?)
      modules := ← member? record 2 "modules" (some ∅) modulesOfJson?
      base := ← member? record 3 "base" (some none) (toOption? Json.asStr?) }

theorem ofJson?_toJson (profile : RoleProfile) : ofJson? profile.toJson = some profile := by
  simp [ofJson?, toJson, field?, Json.get?, Json.lookupField, Json.toOption?_ofOption_str,
    modulesOfJson?_modulesToJson]

end RoleProfile

/-- Profiles as compact JSON. -/
def SerdeRole.compact : SerdeRole where
  toText profile := Json.Compact.toText profile.toJson
  fromText text := (Json.Compact.ofText text).bind RoleProfile.ofJson?
  fromText_toText profile := by
    rw [Json.Compact.ofText_toText, Option.bind_some]
    exact RoleProfile.ofJson?_toJson profile

/-- The roles of the data directory `/data`. -/
def RoleManager.dataRoles : RoleManager := ⟨["data", "roles"], by decide⟩

end AiPowerGateway.Runtime

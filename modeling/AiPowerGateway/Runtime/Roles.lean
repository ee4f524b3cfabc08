import AiPowerGateway.Files.Paths
import AiPowerGateway.Runtime.Boot
import Mathlib.Data.List.Sort

/-!
# Role profiles

A role names the modules of a boot.  Two roles are built in; the others are directories
with a `role.json`, in the user roles directory.  A directory whose file is missing or
does not parse counts as a role of its name without modules.
-/

namespace AiPowerGateway.Runtime

open Files

inductive Trust where
  | system
  | user
  deriving DecidableEq, Repr

structure ModuleEntry where
  enabled : Bool := true
  config : Json := .null
  deriving Repr

structure RoleProfile where
  id : String
  name : Option String := none
  modules : HashMap ModuleEntry := ∅
  base : Option String := none

namespace RoleProfile

def builtinModules (role : Role) : HashMap ModuleEntry :=
  role.defaultModules.foldl (fun table name => table.insert name { config := .obj [] }) ∅

def builtinServer : RoleProfile :=
  { id := "server", name := some "内置组长", modules := builtinModules .server }

def builtinClient : RoleProfile :=
  { id := "client", name := some "内置组员", modules := builtinModules .client }

def isLowerOrDigit (c : Char) : Bool := c.isLower || c.isDigit

/-- The check of `regex_lite`, which is that of `roleIdRe` without the expression. -/
def validateId (id : String) : Bool :=
  match id.toList with
  | [] => false
  | first :: rest =>
      isLowerOrDigit first && (first :: rest).all fun c => isLowerOrDigit c || c = '-'

theorem nameChar_of_valid {id : String} (valid : validateId id = true) :
    id ≠ "" ∧ ∀ c ∈ id.toList, (isLowerOrDigit c || c = '-') = true := by
  rw [validateId] at valid
  split at valid
  · cases valid
  · next first rest chars =>
      rw [Bool.and_eq_true, List.all_eq_true] at valid
      refine ⟨?_, chars ▸ valid.2⟩
      rintro rfl
      cases chars

/-- A valid id is a name of its own, without a slash. -/
theorem plain_of_valid {id : String} (valid : validateId id = true) :
    Plain id ∧ '/' ∉ id.toList := by
  obtain ⟨notEmpty, chars⟩ := nameChar_of_valid valid
  refine ⟨⟨notEmpty, ?_, ?_⟩, fun slash => absurd (chars '/' slash) (by decide)⟩
  · rintro rfl
    exact absurd (chars '.' (by decide)) (by decide)
  · rintro rfl
    exact absurd (chars '.' (by decide)) (by decide)

end RoleProfile

def roleIdRe : String := "^[a-z0-9][a-z0-9-]*$"

/-- How `serde_json` prints a profile and reads it back. -/
structure SerdeRole where
  toText : RoleProfile → String
  fromText : String → Option RoleProfile
  fromText_toText (profile : RoleProfile) : fromText (toText profile) = some profile

/-- The user roles directory, by the names on the way to it. -/
structure RoleManager where
  userRolesDir : Location
  plain : ∀ name ∈ userRolesDir, Plain name

namespace RoleManager

variable (manager : RoleManager) (serde : SerdeRole) (tree : FileTree String)

/-! ## Looking roles up -/

def builtinRoles : List RoleProfile := [.builtinServer, .builtinClient]

/-- The directory of the user role in a subdirectory of the user roles directory. -/
def roleDir (name : String) : Location := manager.userRolesDir ++ [name]

def roleFile (name : String) : Location := manager.roleDir name ++ ["role.json"]

/-- The profile of a subdirectory. -/
def profileIn (name : String) : RoleProfile :=
  match tree.get (manager.roleFile name) with
  | some (.file text) => (serde.fromText text).getD { id := name }
  | _ => { id := name }

def userRoles : List RoleProfile :=
  ((tree.subdirectories manager.userRolesDir).map (manager.profileIn serde tree)).insertionSort
    fun first second => first.id ≤ second.id

def all : List (RoleProfile × Trust) :=
  builtinRoles.map (·, .system) ++ (manager.userRoles serde tree).map (·, .user)

def find (id : String) : Option (RoleProfile × Trust) :=
  (manager.all serde tree).find? (·.1.id = id)

/-! ## Changing roles -/

def saveUserRole (profile : RoleProfile) : Except RuntimeError Unit × FileTree String :=
  match tree.createDirAll (Path.join manager.userRolesDir profile.id) with
  | (.error e, tree) => (.error (.other ("role dir: " ++ e.display)), tree)
  | (.ok dir, tree) =>
      match tree.writeFile dir "role.json" (serde.toText profile) with
      | (.error e, tree) => (.error (.other ("role write: " ++ e.display)), tree)
      | (.ok (), tree) => (.ok (), tree)

/-- Save a profile and return it. -/
def saveAndReturn (profile : RoleProfile) : Except RuntimeError RoleProfile × FileTree String :=
  let saved := manager.saveUserRole serde tree profile
  (saved.1.map fun _ => profile, saved.2)

def invalidRoleId (id : String) : RuntimeError :=
  .roleError ("invalid role id: " ++ id ++ " (must match " ++ roleIdRe ++ ")")

def builtinReadOnly (id : String) : RuntimeError :=
  .roleError ("builtin role " ++ id ++ " is read-only; clone it to customize")

/-- The profile that a clone of another one gets. -/
def cloned (profile : RoleProfile) (source target : String) : RoleProfile where
  id := target
  name := some (
    if source = "server" then "自定义组长"
    else if source = "client" then "自定义组员"
    else target)
  modules := profile.modules
  base := some source

def cloneRole (source target : String) : Except RuntimeError RoleProfile × FileTree String :=
  if ! RoleProfile.validateId target then (.error (invalidRoleId target), tree)
  else
    match manager.find serde tree source with
    | none => (.error (.roleError ("source role not found: " ++ source)), tree)
    | some (profile, _) => manager.saveAndReturn serde tree (cloned profile source target)

def newRole (id : String) : Except RuntimeError RoleProfile × FileTree String :=
  if ! RoleProfile.validateId id then (.error (invalidRoleId id), tree)
  else if (manager.find serde tree id).isSome then
    (.error (.roleError ("role already exists: " ++ id)), tree)
  else manager.saveAndReturn serde tree { id := id, name := some id }

def deleteRole (id : String) : Except RuntimeError Unit × FileTree String :=
  match manager.find serde tree id with
  | some (_, .system) => (.error (builtinReadOnly id), tree)
  | _ =>
      let path := Path.join manager.userRolesDir id
      if (tree.resolve path).isSome then
        let removed := tree.removeDirAll path
        (removed.1.mapError fun e => .other ("role rm: " ++ e.display), removed.2)
      else (.ok (), tree)

def editRole (id : String) (modules : HashMap ModuleEntry) :
    Except RuntimeError RoleProfile × FileTree String :=
  match manager.find serde tree id with
  | none => (.error (.roleError ("role not found: " ++ id)), tree)
  | some (_, .system) => (.error (builtinReadOnly id), tree)
  | some (profile, .user) => manager.saveAndReturn serde tree { profile with modules := modules }

/-! ## What is found -/

section Found

variable {manager : RoleManager} {serde : SerdeRole} {tree : FileTree String} {id : String}

def Builtin (id : String) : Prop := id = "server" ∨ id = "client"

instance (id : String) : Decidable (Builtin id) := inferInstanceAs (Decidable (_ ∨ _))

theorem mem_userRoles {profile : RoleProfile} :
    profile ∈ manager.userRoles serde tree ↔
      ∃ name, tree.get (manager.roleDir name) = some .dir ∧
        manager.profileIn serde tree name = profile := by
  rw [userRoles, List.mem_insertionSort, List.mem_map]
  exact exists_congr fun name => and_congr_left fun _ => FileTree.mem_subdirectories

variable (manager serde tree) in
/-- A builtin role hides a user role of its id. -/
theorem find_builtin (builtin : Builtin id) :
    ∃ profile, manager.find serde tree id = some (profile, .system) := by
  rcases builtin with rfl | rfl
  · exact ⟨.builtinServer, rfl⟩
  · exact ⟨.builtinClient, rfl⟩

theorem find_user (custom : ¬ Builtin id) :
    manager.find serde tree id =
      ((manager.userRoles serde tree).find? (·.id = id)).map (·, .user) := by
  have differ := not_or.mp custom
  have builtins : (builtinRoles.map (·, Trust.system)).find? (·.1.id = id) = none := by
    simp [builtinRoles, RoleProfile.builtinServer, RoleProfile.builtinClient,
      Ne.symm differ.1, Ne.symm differ.2]
  rw [find, all, List.find?_append, builtins, Option.none_or, List.find?_map]
  rfl

theorem deleteRole_builtin (builtin : Builtin id) :
    manager.deleteRole serde tree id = (.error (builtinReadOnly id), tree) := by
  obtain ⟨profile, found⟩ := find_builtin manager serde tree builtin
  rw [deleteRole, found]

theorem deleteRole_custom (custom : ¬ Builtin id) :
    manager.deleteRole serde tree id =
      if (tree.resolve (Path.join manager.userRolesDir id)).isSome then
        let removed := tree.removeDirAll (Path.join manager.userRolesDir id)
        (removed.1.mapError fun e => .other ("role rm: " ++ e.display), removed.2)
      else (.ok (), tree) := by
  rw [deleteRole, find_user custom]
  cases (manager.userRoles serde tree).find? (·.id = id) with
  | none => rfl
  | some profile => rfl

theorem get_deleteRole_eq_or {location : Location} :
    (manager.deleteRole serde tree id).2.get location = tree.get location ∨
      (manager.deleteRole serde tree id).2.get location = none := by
  by_cases builtin : Builtin id
  · rw [deleteRole_builtin builtin]
    exact Or.inl rfl
  · rw [deleteRole_custom builtin]
    split
    · exact FileTree.get_removeDirAll_eq_or
    · exact Or.inl rfl

/-- What a deletion takes away. -/
theorem lost_deleteRole_iff {location : Location} :
    FileTree.Lost tree (manager.deleteRole serde tree id).2 location ↔
      ¬ Builtin id ∧ (tree.get location).isSome ∧
        ∃ top ∈ tree.doomed (Path.join manager.userRolesDir id), top <+: location := by
  by_cases builtin : Builtin id
  · rw [deleteRole_builtin builtin]
    simp [builtin, FileTree.not_lost_self]
  · rw [deleteRole_custom builtin, and_iff_right builtin, ← FileTree.lost_removeDirAll_iff]
    split
    · exact Iff.rfl
    · next missing =>
        rw [Option.not_isSome_iff_eq_none] at missing
        rw [FileTree.removeDirAll, missing]

theorem join_of_valid (valid : RoleProfile.validateId id = true) :
    Path.join manager.userRolesDir id = manager.roleDir id :=
  Path.join_name (RoleProfile.plain_of_valid valid).2 _

theorem plain_roleDir (valid : RoleProfile.validateId id = true) :
    ∀ name ∈ manager.roleDir id, Plain name := by
  intro name mem
  rcases List.mem_append.mp mem with above | last
  · exact manager.plain name above
  · rw [List.mem_singleton.mp last]
    exact (RoleProfile.plain_of_valid valid).1

/-- A valid id leads to the subdirectory of its name. -/
theorem doomed_of_valid (valid : RoleProfile.validateId id = true) :
    ∀ top ∈ tree.doomed (Path.join manager.userRolesDir id),
      top = manager.roleDir id ∧ tree.get (manager.roleDir id) = some .dir := by
  rw [join_of_valid valid, FileTree.forall_doomed_iff, FileTree.resolve,
    FileTree.walk_plain (plain_roleDir valid), List.nil_append]
  intro location leads isDir
  split at leads
  · cases leads
    have unlinks : tree.unlinks (manager.roleDir id) (manager.roleDir id) = true :=
      FileTree.unlinks_plain (plain_roleDir valid) (Option.isSome_iff_exists.mpr ⟨_, isDir⟩)
    rw [if_pos unlinks]
    exact ⟨rfl, isDir⟩
  · cases leads

end Found

end RoleManager

end AiPowerGateway.Runtime

import AiPowerGateway.Runtime.RoleFiles

/-!
# What deleting a role removes

`delete_role` joins its argument to the user roles directory without a check, and removes
the directory that the path leads to, whichever it is.
-/

namespace AiPowerGateway.Runtime.RoleManager

open Files

variable {manager : RoleManager} {serde : SerdeRole} {tree : FileTree String} {id : String}

/-- The subdirectory of a user role with an id. -/
def BelongsTo (manager : RoleManager) (serde : SerdeRole) (tree : FileTree String)
    (id name : String) : Prop :=
  tree.get (manager.roleDir name) = some .dir ∧ (manager.profileIn serde tree name).id = id

/-- Within the directory of a user role with the id. -/
def WithinRole (manager : RoleManager) (serde : SerdeRole) (tree : FileTree String) (id : String)
    (location : Location) : Prop :=
  ∃ name, BelongsTo manager serde tree id name ∧ manager.roleDir name <+: location

/-- All that a deletion removes belongs to the role that it names. -/
def DeletesOnlyRole (manager : RoleManager) (serde : SerdeRole) (tree : FileTree String)
    (id : String) : Prop :=
  ∀ location, FileTree.Lost tree (manager.deleteRole serde tree id).2 location →
    WithinRole manager serde tree id location

/-- The id is that of a builtin role, or its path leads to no directory, or else to one
within the directory of a role with the id.  A path that does not end in a name, such as
one that ends in `..`, or that leads through the directory itself, stands for what is in it. -/
def NamesOwnDirectory (manager : RoleManager) (serde : SerdeRole) (tree : FileTree String)
    (id : String) : Prop :=
  Builtin id ∨
    let path := Path.join manager.userRolesDir id
    ∀ location, tree.resolve path = some location → tree.get location = some .dir →
      if tree.unlinks path location then WithinRole manager serde tree id location
      else ∀ name, (tree.get (location ++ [name])).isSome →
        WithinRole manager serde tree id (location ++ [name])

theorem WithinRole.below {location lower : Location}
    (within : WithinRole manager serde tree id location) (leads : location <+: lower) :
    WithinRole manager serde tree id lower := by
  obtain ⟨name, belongs, above⟩ := within
  exact ⟨name, belongs, above.trans leads⟩

/--
A deletion removes only the directory of the role that it names if and only if the path
of the id leads nowhere else.
-/
theorem deletes_only_role_iff (manager : RoleManager) (serde : SerdeRole) (tree : FileTree String)
    (id : String) :
    DeletesOnlyRole manager serde tree id ↔ NamesOwnDirectory manager serde tree id := by
  rw [NamesOwnDirectory, ← FileTree.forall_doomed_iff]
  constructor
  · intro confined
    by_cases builtin : Builtin id
    · exact Or.inl builtin
    · refine Or.inr fun top mem => confined top ?_
      have there := (FileTree.isSome_of_mem_doomed mem).1
      exact lost_deleteRole_iff.mpr ⟨builtin, there, top, mem, List.prefix_rfl⟩
  · intro named location lost
    obtain ⟨custom, -, top, mem, leads⟩ := lost_deleteRole_iff.mp lost
    rcases named with builtin | own
    · exact absurd builtin custom
    · exact (own top mem).below leads

/-- A data directory with one user role and the file of the backends. -/
def dataDisk : FileTree String :=
  ((((FileTree.empty.put [] "data" .dir).put ["data"] "backends.yaml" (.file "")).put
    ["data"] "roles" .dir).put ["data", "roles"] "a" .dir)

/-- Deleting the role `..` empties the data directory. -/
theorem not_deletesOnlyRole_parent :
    ¬ DeletesOnlyRole dataRoles SerdeRole.compact dataDisk ".." := by
  intro confined
  have lost : FileTree.Lost dataDisk (dataRoles.deleteRole SerdeRole.compact dataDisk "..").2
      ["data", "backends.yaml"] :=
    lost_deleteRole_iff.mpr
      ⟨by decide, by decide, ["data", "backends.yaml"], by decide, List.prefix_rfl⟩
  obtain ⟨name, -, leads⟩ := confined _ lost
  exact absurd leads.length_le (by simp [roleDir, dataRoles])

/-- The check of an id that creating a role makes would keep a deletion to the role of
the id, where roles carry the names of their directories. -/
theorem deletesOnlyRole_of_valid (valid : RoleProfile.validateId id = true)
    (keyed : (manager.profileIn serde tree id).id = id) :
    DeletesOnlyRole manager serde tree id := by
  intro location lost
  obtain ⟨custom, -, top, mem, leads⟩ := lost_deleteRole_iff.mp lost
  obtain ⟨rfl, isDir⟩ := doomed_of_valid valid top mem
  exact ⟨id, ⟨isDir, keyed⟩, leads⟩

end AiPowerGateway.Runtime.RoleManager

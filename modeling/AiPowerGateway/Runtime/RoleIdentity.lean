import AiPowerGateway.Runtime.RoleFiles
import AiPowerGateway.Systems.EventRuns

/-!
# Who answers to a role id

The user roles keep the names of their directories, and no two roles share an id, as long
as nobody clones a role under an id that is taken, saves a builtin role as a user role or
deletes a path that leads into another role.
-/

namespace AiPowerGateway.Runtime.RoleManager

open Files Systems EventRuns

variable {manager : RoleManager} {serde : SerdeRole} {tree after : FileTree String}
  {id : String}

/-! ## Roles under their own names -/

/-- Every user role is in a directory that has its id, which no builtin role has. -/
structure Keyed (manager : RoleManager) (serde : SerdeRole) (tree : FileTree String) : Prop where
  named {name : String} : tree.get (manager.roleDir name) = some .dir →
    (manager.profileIn serde tree name).id = name
  valid {name : String} : tree.get (manager.roleDir name) = some .dir →
    RoleProfile.validateId name = true
  custom {name : String} : tree.get (manager.roleDir name) = some .dir → ¬ Builtin name

/-- The ids of all roles are distinct, and those of user roles name their directories. -/
structure Identified (manager : RoleManager) (serde : SerdeRole) (tree : FileTree String) :
    Prop where
  distinct : ((manager.all serde tree).map (·.1.id)).Nodup
  named {name : String} : tree.get (manager.roleDir name) = some .dir →
    (manager.profileIn serde tree name).id = name

/-- The ids of the user roles are the names of their directories. -/
theorem Keyed.ids_perm (keyed : Keyed manager serde tree) :
    ((manager.userRoles serde tree).map (·.id)).Perm
      (tree.subdirectories manager.userRolesDir) := by
  have sorted := List.perm_insertionSort
    (fun first second : RoleProfile => first.id ≤ second.id)
    ((tree.subdirectories manager.userRolesDir).map (manager.profileIn serde tree))
  have own : ((tree.subdirectories manager.userRolesDir).map (manager.profileIn serde tree)).map
      (·.id) = tree.subdirectories manager.userRolesDir := by
    rw [List.map_map]
    conv_rhs => rw [← List.map_id (tree.subdirectories manager.userRolesDir)]
    exact List.map_congr_left fun name mem => keyed.named (FileTree.mem_subdirectories.mp mem)
  have renamed := sorted.map (·.id)
  rwa [own] at renamed

theorem ids_all (manager : RoleManager) (serde : SerdeRole) (tree : FileTree String) :
    (manager.all serde tree).map (·.1.id) =
      ["server", "client"] ++ (manager.userRoles serde tree).map (·.id) := by
  rw [all, List.map_append, List.map_map, List.map_map]
  rfl

theorem Keyed.identified (keyed : Keyed manager serde tree) : Identified manager serde tree := by
  refine ⟨?_, keyed.named⟩
  have users : ((manager.userRoles serde tree).map (·.id)).Nodup :=
    keyed.ids_perm.nodup_iff.mpr (tree.nodup_subdirectories _)
  have apart : ∀ id ∈ (manager.userRoles serde tree).map (·.id), ¬ Builtin id := fun id mem =>
    keyed.custom (FileTree.mem_subdirectories.mp (keyed.ids_perm.mem_iff.mp mem))
  rw [ids_all]
  refine List.Nodup.append (by decide) users fun id builtin mem => apart id mem ?_
  simpa [Builtin] using builtin

/-- The user role of an id is the one in its directory. -/
theorem Keyed.find_eq (keyed : Keyed manager serde tree) (custom : ¬ Builtin id) :
    manager.find serde tree id =
      if tree.isDir (manager.roleDir id) then some (manager.profileIn serde tree id, .user)
      else none := by
  rw [find_user custom]
  cases found : (manager.userRoles serde tree).find? (·.id = id) with
  | none =>
      rw [if_neg]
      · rfl
      · intro isDir
        have there := FileTree.isDir_iff.mp isDir
        have listed := List.find?_eq_none.mp found _ (mem_userRoles.mpr ⟨id, there, rfl⟩)
        exact listed (by simpa using keyed.named there)
  | some profile =>
      obtain ⟨name, there, rfl⟩ := mem_userRoles.mp (List.mem_of_find?_eq_some found)
      have same : (manager.profileIn serde tree name).id = id := by
        simpa using List.find?_some found
      rw [keyed.named there] at same
      subst same
      rw [if_pos (FileTree.isDir_iff.mpr there)]
      rfl

theorem profileIn_congr {name : String}
    (file : after.get (manager.roleFile name) = tree.get (manager.roleFile name)) :
    manager.profileIn serde after name = manager.profileIn serde tree name := by
  rw [profileIn, profileIn, file]

/-- Roles are found again where their directories and files are as before. -/
theorem find_congr (before : Keyed manager serde tree) (now : Keyed manager serde after)
    (dir : after.get (manager.roleDir id) = tree.get (manager.roleDir id))
    (file : after.get (manager.roleFile id) = tree.get (manager.roleFile id)) :
    manager.find serde after id = manager.find serde tree id := by
  by_cases builtin : Builtin id
  · rcases builtin with rfl | rfl
    · rfl
    · rfl
  · rw [before.find_eq builtin, now.find_eq builtin, FileTree.isDir, FileTree.isDir, dir,
      profileIn_congr file]

/-! ## What saving does -/

/-- What saving a profile in the directory of its id does. -/
structure Saved (manager : RoleManager) (serde : SerdeRole) (tree after : FileTree String)
    (profile : RoleProfile) : Prop where
  others {name : String} : name ≠ profile.id →
    after.get (manager.roleDir name) = tree.get (manager.roleDir name) ∧
      after.get (manager.roleFile name) = tree.get (manager.roleFile name)
  stays : tree.get (manager.roleDir profile.id) = some .dir →
    after.get (manager.roleDir profile.id) = some .dir
  own : manager.profileIn serde after profile.id = profile ∨
    manager.profileIn serde after profile.id = manager.profileIn serde tree profile.id

theorem roleDir_injective {name other : String}
    (same : manager.roleDir name = manager.roleDir other) : name = other := by
  simpa [roleDir] using same

/-- Creating the directory of a role changes no other role, and no file. -/
theorem saved_createDir {profile : RoleProfile}
    {result : Except IoError Location × FileTree String}
    (made : FileTree.MadeDirs tree (manager.roleDir profile.id) result) :
    Saved manager serde tree result.2 profile := by
  have files (name : String) :
      result.2.get (manager.roleFile name) = tree.get (manager.roleFile name) := by
    rcases made.grows (manager.roleFile name) with kept | ⟨-, -, leads⟩
    · exact kept
    · exact absurd leads.length_le (by simp [roleFile, roleDir])
  refine ⟨fun {name} differ => ⟨?_, files name⟩, fun there => ?_,
    Or.inr (profileIn_congr (files _))⟩
  · rcases made.grows (manager.roleDir name) with kept | ⟨-, -, leads⟩
    · exact kept
    · have same := leads.eq_of_length (by simp [roleDir])
      exact absurd (roleDir_injective same) differ
  · rcases made.grows (manager.roleDir profile.id) with kept | ⟨-, now, -⟩
    · exact kept.trans there
    · exact now

/-- Writing the file of a role whose directory is there. -/
theorem Saved.writeFile {profile : RoleProfile} (saved : Saved manager serde tree after profile)
    (dir : after.get (manager.roleDir profile.id) = some .dir) :
    Saved manager serde tree
      (after.writeFile (manager.roleDir profile.id) "role.json" (serde.toText profile)).2
      profile := by
  rw [FileTree.writeFile]
  split
  · exact saved
  · next file =>
      rw [if_pos (FileTree.isDir_iff.mpr dir)]
      have notDir (name : String) :
          manager.roleDir name ≠ manager.roleDir profile.id ++ ["role.json"] := fun same => by
        simpa [roleDir] using congrArg List.length same
      have content : (after.put (manager.roleDir profile.id) "role.json"
          (.file (serde.toText profile))).get (manager.roleDir profile.id ++ ["role.json"]) =
            some (.file (serde.toText profile)) :=
        FileTree.get_put_self dir (mt FileTree.isDir_iff.mpr file)
      refine ⟨fun {name} differ => ⟨?_, ?_⟩, fun there => ?_, Or.inl ?_⟩
      · exact (FileTree.get_put_ne (notDir name)).trans (saved.others differ).1
      · have other : manager.roleFile name ≠ manager.roleDir profile.id ++ ["role.json"] :=
          fun same => differ (roleDir_injective (List.append_inj' same rfl).1)
        exact (FileTree.get_put_ne other).trans (saved.others differ).2
      · exact (FileTree.get_put_ne (notDir _)).trans dir
      · rw [profileIn, roleFile, content]
        simp only [serde.fromText_toText, Option.getD_some]

theorem saveUserRole_saved {profile : RoleProfile}
    (valid : RoleProfile.validateId profile.id = true) :
    Saved manager serde tree (manager.saveUserRole serde tree profile).2 profile := by
  have plain : ∀ name ∈ manager.roleDir profile.id, Plain name := plain_roleDir valid
  have made := FileTree.madeDirs plain (FileTree.get_nil tree)
  rw [List.nil_append] at made
  rw [saveUserRole, join_of_valid valid, FileTree.createDirAll]
  generalize tree.makeDirs [] (manager.roleDir profile.id) = result at made ⊢
  obtain ⟨result, created⟩ := result
  have saved : Saved manager serde tree created profile := saved_createDir made
  cases result with
  | error e => exact saved
  | ok dir =>
      obtain ⟨rfl, isDir⟩ := made.reaches rfl
      have written := saved.writeFile isDir
      simp only
      generalize created.writeFile (manager.roleDir profile.id) "role.json"
        (serde.toText profile) = result at written ⊢
      obtain ⟨result, tree⟩ := result
      cases result with
      | error e => exact written
      | ok => exact written

/-- Where there is no directory, the profile is the one of a missing file. -/
theorem Keyed.profileIn_id (keyed : Keyed manager serde tree) (name : String) :
    (manager.profileIn serde tree name).id = name := by
  cases file : tree.get (manager.roleFile name) with
  | none => rw [profileIn, file]
  | some entry =>
      have there : (tree.get (manager.roleDir name ++ ["role.json"])).isSome := by
        rw [← roleFile, file]
        rfl
      exact keyed.named (FileTree.get_parent there)

/-- Saving a profile under a valid id of its own keeps the names. -/
theorem Keyed.saved (keyed : Keyed manager serde tree) {profile : RoleProfile}
    (valid : RoleProfile.validateId profile.id = true) (custom : ¬ Builtin profile.id)
    (saved : Saved manager serde tree after profile) : Keyed manager serde after where
  named {name} there := by
    by_cases same : name = profile.id
    · subst same
      rcases saved.own with new | kept
      · rw [new]
      · rw [kept]
        exact keyed.profileIn_id profile.id
    · obtain ⟨dir, file⟩ := saved.others same
      rw [profileIn_congr file]
      exact keyed.named (dir ▸ there)
  valid {name} there := by
    by_cases same : name = profile.id
    · exact same ▸ valid
    · exact keyed.valid ((saved.others same).1 ▸ there)
  custom {name} there := by
    by_cases same : name = profile.id
    · exact same ▸ custom
    · exact keyed.custom ((saved.others same).1 ▸ there)

/-- Saving a profile changes no other role. -/
theorem Saved.find_eq {profile : RoleProfile} (saved : Saved manager serde tree after profile)
    (before : Keyed manager serde tree) (now : Keyed manager serde after)
    (differ : id ≠ profile.id) :
    manager.find serde after id = manager.find serde tree id :=
  find_congr before now (saved.others differ).1 (saved.others differ).2

/-! ## What deleting does -/

/-- A deletion leaves everything as it is, except for what it takes away. -/
theorem get_deleteRole {location : Location}
    (keeps : ¬ FileTree.Lost tree (manager.deleteRole serde tree id).2 location) :
    (manager.deleteRole serde tree id).2.get location = tree.get location := by
  rcases get_deleteRole_eq_or with same | gone
  · exact same
  · cases there : tree.get location with
    | none => exact gone
    | some entry => exact absurd ⟨there ▸ rfl, gone⟩ keeps

/-- A directory that stays without its file is a role of its name. -/
theorem Keyed.deleted (keyed : Keyed manager serde tree) (id : String) :
    Keyed manager serde (manager.deleteRole serde tree id).2 := by
  have before {name : String}
      (there : (manager.deleteRole serde tree id).2.get (manager.roleDir name) = some .dir) :
      tree.get (manager.roleDir name) = some .dir := by
    rcases get_deleteRole_eq_or with same | gone
    · exact same.symm.trans there
    · rw [gone] at there
      cases there
  refine ⟨fun {name} there => ?_, fun there => keyed.valid (before there),
    fun there => keyed.custom (before there)⟩
  rcases get_deleteRole_eq_or with same | gone
  · rw [profileIn_congr same]
    exact keyed.named (before there)
  · rw [profileIn, gone]

/-! ## Calls -/

inductive RoleCall where
  | newRole (id : String)
  | cloneRole (source target : String)
  | editRole (id : String) (modules : HashMap ModuleEntry)
  | saveUserRole (profile : RoleProfile)
  | deleteRole (id : String)

namespace RoleCall

def perform (manager : RoleManager) (serde : SerdeRole) (call : RoleCall) (tree : FileTree String) :
    FileTree String :=
  match call with
  | newRole id => (manager.newRole serde tree id).2
  | cloneRole source target => (manager.cloneRole serde tree source target).2
  | editRole id modules => (manager.editRole serde tree id modules).2
  | saveUserRole profile => (manager.saveUserRole serde tree profile).2
  | deleteRole id => (manager.deleteRole serde tree id).2

/-- Only a profile that is listed at the moment is saved. -/
def Admissible (manager : RoleManager) (serde : SerdeRole) (call : RoleCall)
    (tree : FileTree String) : Prop :=
  match call with
  | saveUserRole profile => ∃ trust, (profile, trust) ∈ manager.all serde tree
  | _ => True

/-- No clone takes an id that a role has, no builtin role is saved as a user role, and no
deletion takes away the directory or the file of a user role with another id. -/
def Careful (manager : RoleManager) (serde : SerdeRole) (call : RoleCall)
    (tree : FileTree String) : Prop :=
  match call with
  | cloneRole source target =>
      RoleProfile.validateId target = true → (manager.find serde tree source).isSome →
        manager.find serde tree target = none
  | saveUserRole profile => ¬ Builtin profile.id
  | deleteRole id => ¬ Builtin id → ∀ other, other ≠ id →
      tree.get (manager.roleDir other) = some .dir →
        ∀ top ∈ tree.doomed (Path.join manager.userRolesDir id),
          ¬ top <+: manager.roleFile other
  | _ => True

def Changes (call : RoleCall) (id : String) : Prop :=
  call = deleteRole id ∨ ∃ modules, call = editRole id modules

/-- A clone gets a free id, and every other role is found as before. -/
structure LeavesOthers (manager : RoleManager) (serde : SerdeRole) (call : RoleCall)
    (tree : FileTree String) : Prop where
  fresh {source target : String} {profile : RoleProfile} : call = cloneRole source target →
    (manager.cloneRole serde tree source target).1 = .ok profile →
      manager.find serde tree target = none
  kept {id : String} : (manager.find serde tree id).isSome → ¬ call.Changes id →
    manager.find serde (call.perform manager serde tree) id = manager.find serde tree id

end RoleCall

/-! ## One call -/

open RoleCall

theorem newRole_cases (manager : RoleManager) (serde : SerdeRole) (tree : FileTree String)
    (id : String) :
    (manager.newRole serde tree id).2 = tree ∨
      RoleProfile.validateId id = true ∧ manager.find serde tree id = none ∧
        (manager.newRole serde tree id).2 =
          (manager.saveUserRole serde tree { id := id, name := some id }).2 := by
  rw [newRole]
  split
  · exact Or.inl rfl
  · next valid =>
      split
      · exact Or.inl rfl
      · next free =>
          rw [Option.not_isSome_iff_eq_none] at free
          exact Or.inr ⟨by simpa using valid, free, rfl⟩

theorem cloneRole_cases (manager : RoleManager) (serde : SerdeRole) (tree : FileTree String)
    (source target : String) :
    ((manager.cloneRole serde tree source target).2 = tree ∧
        ∃ error, (manager.cloneRole serde tree source target).1 = .error error) ∨
      RoleProfile.validateId target = true ∧
        ∃ profile trust, manager.find serde tree source = some (profile, trust) ∧
          (manager.cloneRole serde tree source target).2 =
            (manager.saveUserRole serde tree (cloned profile source target)).2 := by
  rw [cloneRole]
  split
  · exact Or.inl ⟨rfl, _, rfl⟩
  · next valid =>
      cases found : manager.find serde tree source with
      | none => exact Or.inl ⟨rfl, _, rfl⟩
      | some role => exact Or.inr ⟨by simpa using valid, role.1, role.2, rfl, rfl⟩

theorem editRole_cases (manager : RoleManager) (serde : SerdeRole) (tree : FileTree String)
    (id : String) (modules : HashMap ModuleEntry) :
    (manager.editRole serde tree id modules).2 = tree ∨
      ∃ profile, manager.find serde tree id = some (profile, .user) ∧
        (manager.editRole serde tree id modules).2 =
          (manager.saveUserRole serde tree { profile with modules := modules }).2 := by
  rw [editRole]
  cases found : manager.find serde tree id with
  | none => exact Or.inl rfl
  | some role =>
      obtain ⟨profile, trust⟩ := role
      cases trust with
      | system => exact Or.inl rfl
      | user => exact Or.inr ⟨profile, rfl, rfl⟩

/-- Saving keeps the names and changes no other role. -/
theorem Keyed.step_save (keyed : Keyed manager serde tree) (profile : RoleProfile)
    (valid : RoleProfile.validateId profile.id = true) (custom : ¬ Builtin profile.id) :
    Keyed manager serde (manager.saveUserRole serde tree profile).2 ∧
      ∀ id, id ≠ profile.id →
        manager.find serde (manager.saveUserRole serde tree profile).2 id =
          manager.find serde tree id := by
  have saved : Saved manager serde tree (manager.saveUserRole serde tree profile).2 profile :=
    saveUserRole_saved valid
  have now := keyed.saved valid custom saved
  exact ⟨now, fun id differ => saved.find_eq keyed now differ⟩

theorem custom_of_find_none (free : manager.find serde tree id = none) : ¬ Builtin id := by
  intro builtin
  obtain ⟨profile, found⟩ := find_builtin manager serde tree builtin
  rw [found] at free
  cases free

/-- Roles under a new id take no id away. -/
theorem Keyed.step_new (keyed : Keyed manager serde tree) (profile : RoleProfile)
    (valid : RoleProfile.validateId profile.id = true)
    (free : manager.find serde tree profile.id = none) :
    Keyed manager serde (manager.saveUserRole serde tree profile).2 ∧
      ∀ id, (manager.find serde tree id).isSome →
        manager.find serde (manager.saveUserRole serde tree profile).2 id =
          manager.find serde tree id := by
  obtain ⟨now, others⟩ := keyed.step_save profile valid (custom_of_find_none free)
  refine ⟨now, fun id there => others id ?_⟩
  rintro rfl
  rw [free] at there
  cases there

/-- A user role that is found is the one in the directory of its id. -/
theorem Keyed.user_of_find (keyed : Keyed manager serde tree) {profile : RoleProfile}
    (found : manager.find serde tree id = some (profile, .user)) :
    ¬ Builtin id ∧ tree.get (manager.roleDir id) = some .dir ∧ profile.id = id := by
  have custom : ¬ Builtin id := by
    intro builtin
    obtain ⟨other, first⟩ := find_builtin manager serde tree builtin
    rw [first] at found
    cases found
  rw [keyed.find_eq custom] at found
  split at found
  · next isDir =>
      cases found
      exact ⟨custom, FileTree.isDir_iff.mp isDir, keyed.profileIn_id id⟩
  · cases found

/-- A profile of a user role is the one in the directory of its id. -/
theorem Keyed.user_of_mem (keyed : Keyed manager serde tree) {profile : RoleProfile} {trust : Trust}
    (mem : (profile, trust) ∈ manager.all serde tree) (custom : ¬ Builtin profile.id) :
    tree.get (manager.roleDir profile.id) = some .dir ∧
      manager.profileIn serde tree profile.id = profile := by
  rcases List.mem_append.mp mem with builtin | listed
  · simp only [builtinRoles, List.map_cons, List.map_nil, List.mem_cons, Prod.mk.injEq,
      List.not_mem_nil, or_false] at builtin
    rcases builtin with ⟨rfl, -⟩ | ⟨rfl, -⟩
    · exact absurd (Or.inl rfl) custom
    · exact absurd (Or.inr rfl) custom
  · obtain ⟨_, user, ⟨⟩⟩ := List.mem_map.mp listed
    obtain ⟨name, there, same⟩ := mem_userRoles.mp user
    have own := keyed.named there
    rw [same] at own
    rw [own]
    exact ⟨there, same⟩

/-- What a call has to keep. -/
def KeepsRoles (manager : RoleManager) (serde : SerdeRole) (call : RoleCall)
    (tree : FileTree String) : Prop :=
  Keyed manager serde (call.perform manager serde tree) ∧ call.LeavesOthers manager serde tree

theorem Keyed.unchanged (keyed : Keyed manager serde tree) {call : RoleCall}
    (same : call.perform manager serde tree = tree)
    (fresh : ∀ {source target profile}, call = .cloneRole source target →
      (manager.cloneRole serde tree source target).1 = .ok profile →
        manager.find serde tree target = none) :
    KeepsRoles manager serde call tree :=
  ⟨same.symm ▸ keyed, fresh, fun _ _ => by rw [same]⟩

theorem Keyed.step_newRole (keyed : Keyed manager serde tree) (id : String) :
    KeepsRoles manager serde (.newRole id) tree := by
  rcases newRole_cases manager serde tree id with same | ⟨valid, free, saves⟩
  · exact keyed.unchanged same nofun
  · obtain ⟨now, others⟩ := keyed.step_new { id := id, name := some id } valid free
    rw [← saves] at now others
    exact ⟨now, nofun, fun there _ => others _ there⟩

theorem Keyed.step_cloneRole (keyed : Keyed manager serde tree) {source target : String}
    (careful : (RoleCall.cloneRole source target).Careful manager serde tree) :
    KeepsRoles manager serde (.cloneRole source target) tree := by
  rcases cloneRole_cases manager serde tree source target with
    ⟨same, error, fails⟩ | ⟨valid, profile, trust, found, saves⟩
  · refine keyed.unchanged same fun sameCall succeeds => ?_
    cases sameCall
    rw [fails] at succeeds
    cases succeeds
  · have free := careful valid (found ▸ rfl)
    obtain ⟨now, others⟩ := keyed.step_new (cloned profile source target) valid free
    rw [← saves] at now others
    refine ⟨now, fun sameCall _ => ?_, fun there _ => others _ there⟩
    cases sameCall
    exact free

theorem Keyed.step_editRole (keyed : Keyed manager serde tree) (id : String)
    (modules : HashMap ModuleEntry) : KeepsRoles manager serde (.editRole id modules) tree := by
  rcases editRole_cases manager serde tree id modules with same | ⟨profile, found, saves⟩
  · exact keyed.unchanged same nofun
  · obtain ⟨custom, there, rfl⟩ := keyed.user_of_find found
    obtain ⟨now, others⟩ :=
      keyed.step_save { profile with modules := modules } (keyed.valid there) custom
    rw [← saves] at now others
    refine ⟨now, nofun, fun {id} _ edits => others id ?_⟩
    rintro rfl
    exact edits (Or.inr ⟨modules, rfl⟩)

theorem Keyed.step_saveUserRole (keyed : Keyed manager serde tree) {profile : RoleProfile}
    (admissible : (RoleCall.saveUserRole profile).Admissible manager serde tree)
    (careful : (RoleCall.saveUserRole profile).Careful manager serde tree) :
    KeepsRoles manager serde (.saveUserRole profile) tree := by
  obtain ⟨trust, mem⟩ := admissible
  obtain ⟨there, own⟩ := keyed.user_of_mem mem careful
  have saved : Saved manager serde tree (manager.saveUserRole serde tree profile).2 profile :=
    saveUserRole_saved (keyed.valid there)
  have now := keyed.saved (keyed.valid there) careful saved
  have sameProfile :
      manager.profileIn serde (manager.saveUserRole serde tree profile).2 profile.id =
        manager.profileIn serde tree profile.id := by
    rcases saved.own with new | kept
    · exact new.trans own.symm
    · exact kept
  refine ⟨now, nofun, fun {id} _ _ => ?_⟩
  by_cases same : id = profile.id
  · rw [same, perform, keyed.find_eq careful, now.find_eq careful, sameProfile,
      if_pos (FileTree.isDir_iff.mpr there), if_pos (FileTree.isDir_iff.mpr (saved.stays there))]
  · exact saved.find_eq keyed now same

theorem Keyed.step_deleteRole (keyed : Keyed manager serde tree) {id : String}
    (careful : (RoleCall.deleteRole id).Careful manager serde tree) :
    KeepsRoles manager serde (.deleteRole id) tree := by
  have now := keyed.deleted id
  refine ⟨now, nofun, fun {other} found deletes => ?_⟩
  have differ : other ≠ id := fun same => deletes (Or.inl (same ▸ rfl))
  by_cases builtin : Builtin other
  · rcases builtin with rfl | rfl
    · rfl
    · rfl
  · rw [keyed.find_eq builtin] at found
    split at found
    · next isDir =>
        have there := FileTree.isDir_iff.mp isDir
        have kept {location : Location} (leads : location <+: manager.roleFile other) :
            (manager.deleteRole serde tree id).2.get location = tree.get location := by
          refine get_deleteRole fun lost => ?_
          obtain ⟨custom, -, top, mem, above⟩ := lost_deleteRole_iff.mp lost
          exact careful custom other differ there top mem (above.trans leads)
        exact find_congr keyed now (kept (List.prefix_append _ _)) (kept List.prefix_rfl)
    · cases found

theorem Keyed.step (keyed : Keyed manager serde tree) {call : RoleCall}
    (admissible : call.Admissible manager serde tree)
    (careful : call.Careful manager serde tree) : KeepsRoles manager serde call tree := by
  cases call with
  | newRole id => exact keyed.step_newRole id
  | cloneRole source target => exact keyed.step_cloneRole careful
  | editRole id modules => exact keyed.step_editRole id modules
  | saveUserRole profile => exact keyed.step_saveUserRole admissible careful
  | deleteRole id => exact keyed.step_deleteRole careful

/-! ## Every run -/

/-- There is no user role. -/
def NoUserRoles (manager : RoleManager) (tree : FileTree String) : Prop :=
  ∀ name, tree.get (manager.roleDir name) ≠ some .dir

theorem NoUserRoles.keyed (none : NoUserRoles manager tree) (serde : SerdeRole) :
    Keyed manager serde tree where
  named {name} there := absurd there (none name)
  valid {name} there := absurd there (none name)
  custom {name} there := absurd there (none name)

theorem NoUserRoles.find_eq_none (none : NoUserRoles manager tree) (serde : SerdeRole)
    (custom : ¬ Builtin id) : manager.find serde tree id = .none := by
  rw [(none.keyed serde).find_eq custom, if_neg (mt FileTree.isDir_iff.mp (none id))]

/--
In every run of careful calls the ids of the roles are distinct, user roles are in the
directories of their ids, clones get free ids, and only editing or deleting a role changes
what its id finds.
-/
theorem role_identity (manager : RoleManager) (serde : SerdeRole) (tree : FileTree String)
    (none : NoUserRoles manager tree) (calls : List RoleCall)
    (admissible : Fitting (perform manager serde) (Admissible manager serde) calls tree)
    (careful : Fitting (perform manager serde) (Careful manager serde) calls tree) :
    Throughout (perform manager serde) (Identified manager serde) calls tree ∧
      Fitting (perform manager serde) (LeavesOthers manager serde) calls tree := by
  have keyed := none.keyed serde
  clear none
  induction calls generalizing tree with
  | nil => exact ⟨keyed.identified, trivial⟩
  | cons call calls ih =>
      obtain ⟨now, leaves⟩ := keyed.step admissible.1 careful.1
      obtain ⟨always, later⟩ := ih _ admissible.2 careful.2 now
      exact ⟨⟨keyed.identified, always⟩, leaves, later⟩

/-- A data directory without user roles. -/
def rolesDisk : FileTree String := (FileTree.empty.put [] "data" .dir).put ["data"] "roles" .dir

theorem noUserRoles_rolesDisk : NoUserRoles dataRoles rolesDisk := by
  intro name there
  have listed : name ∈ rolesDisk.subdirectories dataRoles.userRolesDir :=
    FileTree.mem_subdirectories.mpr there
  have empty : rolesDisk.subdirectories dataRoles.userRolesDir = [] := by decide
  rw [empty] at listed
  cases listed

theorem role_identity_clone_delete :
    Throughout (perform dataRoles .compact) (Identified dataRoles .compact)
        [.cloneRole "server" "my-server", .deleteRole "x"] rolesDisk ∧
      Fitting (perform dataRoles .compact) (LeavesOthers dataRoles .compact)
        [.cloneRole "server" "my-server", .deleteRole "x"] rolesDisk := by
  refine role_identity dataRoles .compact rolesDisk noUserRoles_rolesDisk
    [.cloneRole "server" "my-server", .deleteRole "x"] ⟨trivial, trivial, trivial⟩
    ⟨fun _ _ => ?_, ?_, trivial⟩
  · exact noUserRoles_rolesDisk.find_eq_none _ (by decide)
  · intro _ other _ _ top mem
    have nothing : (perform dataRoles .compact (.cloneRole "server" "my-server") rolesDisk).doomed
        (Path.join dataRoles.userRolesDir "x") = [] := by decide
    rw [nothing] at mem
    cases mem

/-- A clone of the builtin server role under its own id. -/
theorem not_identified_clone_server :
    NoUserRoles dataRoles rolesDisk ∧
      Fitting (perform dataRoles .compact) (Admissible dataRoles .compact)
        [.cloneRole "server" "server"] rolesDisk ∧
      ¬ Throughout (perform dataRoles .compact) (Identified dataRoles .compact)
        [.cloneRole "server" "server"] rolesDisk := by
  refine ⟨noUserRoles_rolesDisk, ⟨trivial, trivial⟩, fun always => ?_⟩
  have dir : (perform dataRoles .compact (.cloneRole "server" "server") rolesDisk).get
      (dataRoles.roleDir "server") = some .dir := by decide
  have distinct := always.2.distinct
  rw [ids_all] at distinct
  refine List.disjoint_of_nodup_append distinct List.mem_cons_self ?_
  exact List.mem_map.mpr ⟨_, mem_userRoles.mpr ⟨"server", dir, rfl⟩, always.2.named dir⟩

end AiPowerGateway.Runtime.RoleManager

import AiPowerGateway.Collections.StableOrder
import AiPowerGateway.Runtime.RoleIdentity

/-!
# The modules of a role

A role enables the modules of its own table, and those of the table of its base that its
own one does not list.  The base of the base is not asked, so a clone, whose base is the
role it was cloned from, can lack modules that this role has from its base.
-/

namespace AiPowerGateway.Runtime.RoleManager

open Files StableOrder

/-! ## Enabled modules -/

/-- Put the flags of a table over those that are there. -/
def withFlags (flags : HashMap Bool) (modules : HashMap ModuleEntry) : HashMap Bool :=
  modules.entries.foldl (fun flags entry => flags.insert entry.1 entry.2.enabled) flags

def enabledNames (flags : HashMap Bool) : List String :=
  ((flags.entries.filter (·.2)).map (·.1)).insertionSort (· ≤ ·)

section Model

variable (manager : RoleManager) (serde : SerdeRole) (tree : FileTree String)

/-- The flags that a role has from its base. -/
def inherited (profile : RoleProfile) : HashMap Bool :=
  match profile.base.bind (manager.find serde tree) with
  | some (base, _) => withFlags ∅ base.modules
  | none => ∅

def enabledModules (id : String) : Except RuntimeError (List String) :=
  match manager.find serde tree id with
  | none => .error (.roleError ("role not found: " ++ id))
  | some (profile, trust) =>
      let merged := withFlags (manager.inherited serde tree profile) profile.modules
      let out := enabledNames merged
      if out.isEmpty ∧ trust = .system then
        .ok (if id = "server" then Role.server.defaultModules else Role.client.defaultModules)
      else .ok out

end Model

theorem lookup_withFlags (flags : HashMap Bool) (modules : HashMap ModuleEntry) (name : String) :
    (withFlags flags modules).lookup name =
      ((modules.lookup name).map (·.enabled)).or (flags.lookup name) := by
  obtain ⟨entries, distinct⟩ := modules
  rw [withFlags]
  induction entries generalizing flags with
  | nil => rfl
  | cons entry rest ih =>
      obtain ⟨fresh, others⟩ := List.nodupKeys_cons.mp distinct
      have later := ih (flags.insert entry.1 entry.2.enabled) others
      rw [List.foldl_cons, later]
      by_cases same : name = entry.1
      · subst same
        have gone : (⟨rest, others⟩ : HashMap ModuleEntry).lookup entry.1 = none :=
          AList.lookup_eq_none.mpr fresh
        have here : (⟨entry :: rest, distinct⟩ : HashMap ModuleEntry).lookup entry.1 =
            some entry.2 := List.dlookup_cons_eq rest entry.1 entry.2
        rw [gone, here, AList.lookup_insert]
        rfl
      · have here : (⟨entry :: rest, distinct⟩ : HashMap ModuleEntry).lookup name =
            (⟨rest, others⟩ : HashMap ModuleEntry).lookup name :=
          List.dlookup_cons_ne rest entry same
        rw [here, AList.lookup_insert_ne same]

theorem mem_enabledNames {flags : HashMap Bool} {name : String} :
    name ∈ enabledNames flags ↔ flags.lookup name = some true := by
  rw [enabledNames, List.mem_insertionSort, List.mem_map, ← Option.mem_def, AList.mem_lookup_iff]
  constructor
  · rintro ⟨⟨key, flag⟩, mem, rfl⟩
    obtain ⟨listed, enabled⟩ := List.mem_filter.mp mem
    obtain rfl : flag = true := enabled
    exact listed
  · intro listed
    exact ⟨⟨name, true⟩, List.mem_filter.mpr ⟨listed, rfl⟩, rfl⟩

theorem nodup_enabledNames (flags : HashMap Bool) : (enabledNames flags).Nodup := by
  have filtered : ((flags.entries.filter (·.2)).map (·.1)).Nodup :=
    flags.keys_nodup.sublist (List.filter_sublist.map _)
  exact (List.perm_insertionSort _ _).nodup_iff.mpr filtered

/-- The list of the enabled modules is determined by which modules are enabled. -/
theorem enabledNames_eq_iff {one other : HashMap Bool} :
    enabledNames one = enabledNames other ↔
      ∀ name, one.lookup name = some true ↔ other.lookup name = some true := by
  constructor
  · intro same name
    rw [← mem_enabledNames, ← mem_enabledNames, same]
  · intro same
    have perm : (enabledNames one).Perm (enabledNames other) := by
      rw [List.perm_ext_iff_of_nodup (nodup_enabledNames one) (nodup_enabledNames other)]
      intro name
      rw [mem_enabledNames, mem_enabledNames, same name]
    exact perm.eq_of_pairwise (fun _ _ _ _ => String.le_antisymm)
      (List.pairwise_insertionSort (· ≤ ·) _) (List.pairwise_insertionSort (· ≤ ·) _)

/-! ## A role that is new -/

section Fresh

variable {manager : RoleManager} {serde : SerdeRole} {tree : FileTree String} {id : String}

/-- Nothing has an id: no role is found under it, and nothing is where it would be stored. -/
structure Fresh (manager : RoleManager) (serde : SerdeRole) (tree : FileTree String)
    (id : String) : Prop where
  noRole : manager.find serde tree id = none
  noEntry : tree.get (manager.roleDir id) = none

/-- What saving a role in a new directory does. -/
structure SavedNew (manager : RoleManager) (serde : SerdeRole) (tree after : FileTree String)
    (profile : RoleProfile) : Prop where
  listed : after.list manager.userRolesDir = profile.id :: tree.list manager.userRolesDir
  isDir : after.get (manager.roleDir profile.id) = some .dir
  stored : manager.profileIn serde after profile.id = profile
  others {name : String} : name ≠ profile.id →
    after.get (manager.roleDir name) = tree.get (manager.roleDir name) ∧
      after.get (manager.roleFile name) = tree.get (manager.roleFile name)

/-- Writing the file of a role whose directory was just made. -/
theorem savedNew_writeFile {profile : RoleProfile} {made after : FileTree String}
    (listed : made.list manager.userRolesDir = profile.id :: tree.list manager.userRolesDir)
    (isDir : made.get (manager.roleDir profile.id) = some .dir)
    (noFile : made.get (manager.roleFile profile.id) = none)
    (saved : Saved manager serde tree after profile)
    (written : after = made.put (manager.roleDir profile.id) "role.json"
      (.file (serde.toText profile))) :
    SavedNew manager serde tree after profile := by
  have above : manager.roleDir profile.id ≠ manager.userRolesDir := by simp [roleDir]
  have below : manager.roleDir profile.id ≠ manager.roleDir profile.id ++ ["role.json"] := by simp
  have content : after.get (manager.roleFile profile.id) = some (.file (serde.toText profile)) := by
    rw [written]
    refine FileTree.get_put_self isDir ?_
    rw [← roleFile, noFile]
    exact (Option.some_ne_none _).symm
  refine ⟨?_, ?_, ?_, saved.others⟩
  · rw [written, FileTree.list_put isDir noFile, if_neg above, listed]
  · rw [written, FileTree.get_put_ne below, isDir]
  · rw [profileIn, content]
    simp only [serde.fromText_toText, Option.getD_some]

theorem saveUserRole_new {profile : RoleProfile}
    (valid : RoleProfile.validateId profile.id = true)
    (free : tree.get (manager.roleDir profile.id) = none)
    (saves : (manager.saveUserRole serde tree profile).1 = .ok ()) :
    SavedNew manager serde tree (manager.saveUserRole serde tree profile).2 profile := by
  have plain : ∀ name ∈ manager.roleDir profile.id, Plain name := plain_roleDir valid
  have saved : Saved manager serde tree (manager.saveUserRole serde tree profile).2 profile :=
    saveUserRole_saved valid
  have made := FileTree.madeDirs plain (FileTree.get_nil tree)
  have first {reached : Location}
      (reaches : (tree.makeDirs [] (manager.roleDir profile.id)).1 = .ok reached) :
      (tree.makeDirs [] (manager.roleDir profile.id)).2.list manager.userRolesDir =
        profile.id :: tree.list manager.userRolesDir :=
    FileTree.list_makeDirs plain (FileTree.get_nil tree) free (List.nil_append _) reaches
  have unused : tree.get (manager.roleFile profile.id) = none := by
    rw [← Option.not_isSome_iff_eq_none]
    intro there
    have parent := FileTree.isSome_of_prefix there (List.prefix_append _ _)
    rw [free] at parent
    cases parent
  rw [List.nil_append] at made
  rw [saveUserRole, join_of_valid valid, FileTree.createDirAll] at saves saved ⊢
  generalize tree.makeDirs [] (manager.roleDir profile.id) = result at made first saves saved ⊢
  obtain ⟨result, created⟩ := result
  cases result with
  | error e => cases saves
  | ok dir =>
      obtain ⟨rfl, isDir⟩ := made.reaches rfl
      have noFile : created.get (manager.roleFile profile.id) = none := by
        rcases made.grows (manager.roleFile profile.id) with kept | ⟨-, -, leads⟩
        · exact kept.trans unused
        · exact absurd leads.length_le (by simp [roleFile, roleDir])
      have noDir : created.isDir (manager.roleDir profile.id ++ ["role.json"]) = false := by
        rw [FileTree.isDir, ← roleFile, noFile]
      have there : created.isDir (manager.roleDir profile.id) = true := FileTree.isDir_iff.mpr isDir
      have written : created.writeFile (manager.roleDir profile.id) "role.json"
          (serde.toText profile) = (.ok (), created.put (manager.roleDir profile.id) "role.json"
            (.file (serde.toText profile))) := by
        rw [FileTree.writeFile, noDir, there]
        rfl
      simp only [written] at saved ⊢
      exact savedNew_writeFile (first rfl) isDir noFile saved rfl

namespace SavedNew

variable {after : FileTree String} {profile : RoleProfile}

theorem subdirectories_eq (saved : SavedNew manager serde tree after profile)
    (free : tree.get (manager.roleDir profile.id) = none) :
    after.subdirectories manager.userRolesDir =
      profile.id :: tree.subdirectories manager.userRolesDir := by
  have own : after.isDir (manager.userRolesDir ++ [profile.id]) = true :=
    FileTree.isDir_iff.mpr saved.isDir
  rw [FileTree.subdirectories, saved.listed, List.filter_cons, if_pos own]
  refine congrArg (profile.id :: ·) (List.filter_congr fun name mem => ?_)
  have differ : name ≠ profile.id := by
    rintro rfl
    have there := FileTree.mem_list.mp mem
    rw [← roleDir, free] at there
    cases there
  rw [FileTree.isDir, FileTree.isDir, ← roleDir, (saved.others differ).1]

/-- The new role joins the others. -/
theorem userRoles_eq (saved : SavedNew manager serde tree after profile)
    (free : tree.get (manager.roleDir profile.id) = none) :
    manager.userRoles serde after = (manager.userRoles serde tree).orderedInsert
      (fun first second => first.id ≤ second.id) profile := by
  have others : ∀ name ∈ tree.subdirectories manager.userRolesDir,
      manager.profileIn serde after name = manager.profileIn serde tree name := by
    intro name mem
    refine profileIn_congr (saved.others ?_).2
    rintro rfl
    have there := FileTree.mem_subdirectories.mp mem
    rw [← roleDir, free] at there
    cases there
  rw [userRoles, userRoles, saved.subdirectories_eq free, List.map_cons, saved.stored,
    List.insertionSort_cons, List.map_congr_left others]

theorem find_other (saved : SavedNew manager serde tree after profile)
    (free : tree.get (manager.roleDir profile.id) = none) (differ : id ≠ profile.id) :
    manager.find serde after id = manager.find serde tree id := by
  by_cases builtin : Builtin id
  · rcases builtin with rfl | rfl
    · rfl
    · rfl
  · have notWanted : decide (profile.id = id) = false := decide_eq_false (Ne.symm differ)
    rw [find_user builtin, find_user builtin, saved.userRoles_eq free,
      find?_orderedInsert_of_neg (p := fun role : RoleProfile => decide (role.id = id)) notWanted]

theorem find_self (saved : SavedNew manager serde tree after profile)
    (fresh : Fresh manager serde tree profile.id) :
    manager.find serde after profile.id = some (profile, .user) := by
  have custom := custom_of_find_none fresh.noRole
  have only := fresh.noRole
  rw [find_user custom, Option.map_eq_none_iff] at only
  rw [find_user custom, saved.userRoles_eq fresh.noEntry,
    find?_orderedInsert_of_pos (p := fun role : RoleProfile => decide (role.id = profile.id))
      (decide_eq_true rfl) only]
  rfl

end SavedNew

end Fresh

/-! ## Cloning -/

section Clone

variable {manager : RoleManager} {serde : SerdeRole} {tree after : FileTree String}
  {id source target : String} {profile : RoleProfile} {trust : Trust}

/-- A role lists every module itself that its base enables. -/
def OwnsInherited (manager : RoleManager) (serde : SerdeRole) (tree : FileTree String)
    (id : String) : Prop :=
  ∀ role ∈ manager.find serde tree id, ∀ base ∈ role.1.base.bind (manager.find serde tree),
    ∀ name, ∀ entry ∈ base.1.modules.lookup name, entry.enabled = true → name ∈ role.1.modules

theorem lookup_inherited (name : String) :
    (manager.inherited serde tree profile).lookup name =
      (profile.base.bind (manager.find serde tree)).bind fun base =>
        (base.1.modules.lookup name).map (·.enabled) := by
  rw [inherited]
  cases profile.base.bind (manager.find serde tree) with
  | none => rfl
  | some base =>
      rw [lookup_withFlags, AList.lookup_empty, Option.or_none]
      rfl

theorem ownsInherited_iff (found : manager.find serde tree id = some (profile, trust)) :
    OwnsInherited manager serde tree id ↔
      ∀ name, (manager.inherited serde tree profile).lookup name = some true →
        name ∈ profile.modules := by
  constructor
  · intro owns name inherits
    rw [lookup_inherited, Option.bind_eq_some_iff] at inherits
    obtain ⟨base, based, lists⟩ := inherits
    obtain ⟨entry, listed, enabled⟩ := Option.map_eq_some_iff.mp lists
    exact owns (profile, trust) found base based name entry listed enabled
  · intro owns role here base based name entry listed enabled
    obtain rfl : (profile, trust) = role := Option.some.inj (found.symm.trans here)
    refine owns name ?_
    rw [lookup_inherited, Option.bind_eq_some_iff]
    exact ⟨base, based, Option.map_eq_some_iff.mpr ⟨entry, listed, enabled⟩⟩

theorem builtin_of_system (found : manager.find serde tree id = some (profile, .system)) :
    profile ∈ builtinRoles := by
  have mem := List.mem_of_find?_eq_some found
  rcases List.mem_append.mp mem with builtin | user
  · obtain ⟨_, mem, ⟨⟩⟩ := List.mem_map.mp builtin
    exact mem
  · obtain ⟨_, -, ⟨⟩⟩ := List.mem_map.mp user

/-- The builtin roles have modules, so that none of them needs the default ones. -/
theorem enabledModules_of_find (found : manager.find serde tree id = some (profile, trust)) :
    manager.enabledModules serde tree id =
      .ok (enabledNames (withFlags (manager.inherited serde tree profile) profile.modules)) := by
  rw [enabledModules, found]
  refine if_neg ?_
  rintro ⟨empty, rfl⟩
  have shows (name : String) (lists : (profile.modules.lookup name).map (·.enabled) = some true) :
      False := by
    have mem : name ∈ enabledNames
        (withFlags (manager.inherited serde tree profile) profile.modules) := by
      rw [mem_enabledNames, lookup_withFlags, lists, Option.some_or]
    rw [List.isEmpty_iff.mp empty] at mem
    cases mem
  rcases List.mem_pair.mp (builtin_of_system found) with rfl | rfl
  · exact shows "lan-share-server" rfl
  · exact shows "lan-share-client" rfl

/-- A clone that succeeds saves its profile in a new directory. -/
theorem cloneRole_savedNew {result : RoleProfile} (fresh : Fresh manager serde tree target)
    (succeeds : (manager.cloneRole serde tree source target).1 = .ok result) :
    ∃ profile trust, manager.find serde tree source = some (profile, trust) ∧
      SavedNew manager serde tree (manager.cloneRole serde tree source target).2
        (cloned profile source target) := by
  rcases cloneRole_cases manager serde tree source target with
    ⟨-, error, fails⟩ | ⟨valid, profile, trust, found, changed⟩
  · rw [fails] at succeeds
    cases succeeds
  · refine ⟨profile, trust, found, ?_⟩
    rw [changed]
    refine saveUserRole_new valid fresh.noEntry ?_
    rw [cloneRole, valid, found] at succeeds
    have returned : (manager.saveUserRole serde tree (cloned profile source target)).1.map
        (fun _ => cloned profile source target) = .ok result := succeeds
    cases saves : (manager.saveUserRole serde tree (cloned profile source target)).1 with
    | ok => rfl
    | error e =>
        rw [saves] at returned
        cases returned

theorem editRole_of_find (found : manager.find serde tree id = some (profile, .user))
    (modules : HashMap ModuleEntry) :
    (manager.editRole serde tree id modules).2 =
      (manager.saveUserRole serde tree { profile with modules := modules }).2 := by
  rw [editRole, found]
  rfl

theorem same_flag_iff (own other : Option Bool) :
    (own = some true ↔ own.or other = some true) ↔ (other = some true → own.isSome) := by
  cases own with
  | none => simp
  | some flag => simp

/-- A clone has the modules that its source lists, so only those of its base can be lost. -/
theorem same_modules_iff (fresh : Fresh manager serde tree target)
    (found : manager.find serde tree source = some (profile, trust))
    (saved : SavedNew manager serde tree after (cloned profile source target)) :
    manager.enabledModules serde after target = manager.enabledModules serde after source ↔
      OwnsInherited manager serde tree source := by
  have differ : source ≠ target := by
    rintro rfl
    rw [fresh.noRole] at found
    cases found
  have foundAfter := (saved.find_other fresh.noEntry differ).trans found
  have clonedAfter : manager.find serde after target = some (cloned profile source target, .user) :=
    saved.find_self fresh
  have ofClone (name : String) :
      (withFlags (manager.inherited serde after (cloned profile source target))
        (cloned profile source target).modules).lookup name =
          (profile.modules.lookup name).map (·.enabled) := by
    rw [lookup_withFlags, lookup_inherited, cloned, Option.bind_some, foundAfter, Option.bind_some,
      Option.or_self]
  rw [enabledModules_of_find foundAfter, enabledModules_of_find clonedAfter, Except.ok.injEq,
    enabledNames_eq_iff]
  simp only [ofClone, lookup_withFlags, same_flag_iff, Option.isSome_map, AList.lookup_isSome]
  rw [ownsInherited_iff found]
  by_cases toClone : profile.base = some target
  · -- The base did not exist, and now it is the clone, which has the modules of the role.
    constructor
    · intro _ name inherits
      rw [lookup_inherited, toClone, Option.bind_some, fresh.noRole] at inherits
      cases inherits
    · intro _ name inherits
      rw [lookup_inherited, toClone, Option.bind_some, clonedAfter, Option.bind_some] at inherits
      obtain ⟨entry, listed, -⟩ := Option.map_eq_some_iff.mp inherits
      exact AList.lookup_isSome.mp (Option.isSome_of_mem listed)
  · have sameBase : profile.base.bind (manager.find serde after) =
        profile.base.bind (manager.find serde tree) := by
      cases based : profile.base with
      | none => rfl
      | some base =>
          refine saved.find_other fresh.noEntry ?_
          rintro rfl
          exact toClone based
    simp only [lookup_inherited, sameBase]

/--
A clone enables the modules of its source exactly when the source lists the modules itself
that its base enables.
-/
theorem clone_preserves_modules_iff {result : RoleProfile} (fresh : Fresh manager serde tree target)
    (succeeds : (manager.cloneRole serde tree source target).1 = .ok result) :
    manager.enabledModules serde (manager.cloneRole serde tree source target).2 target =
        manager.enabledModules serde (manager.cloneRole serde tree source target).2 source ↔
      OwnsInherited manager serde tree source := by
  obtain ⟨profile, trust, found, saved⟩ := cloneRole_savedNew fresh succeeds
  exact same_modules_iff fresh found saved

theorem Keyed.cloneRole (keyed : Keyed manager serde tree)
    (free : manager.find serde tree target = none) :
    Keyed manager serde (manager.cloneRole serde tree source target).2 :=
  (keyed.step_cloneRole fun _ _ => free).1

theorem Keyed.editRole (keyed : Keyed manager serde tree) (id : String)
    (modules : HashMap ModuleEntry) :
    Keyed manager serde (manager.editRole serde tree id modules).2 :=
  (keyed.step_editRole id modules).1

end Clone

theorem fresh_light : Fresh dataRoles .compact rolesDisk "light" :=
  ⟨noUserRoles_rolesDisk.find_eq_none _ (by decide), rfl⟩

theorem clone_preserves_modules_server :
    dataRoles.enabledModules .compact
        (dataRoles.cloneRole .compact rolesDisk "server" "light").2 "light" =
      dataRoles.enabledModules .compact
        (dataRoles.cloneRole .compact rolesDisk "server" "light").2 "server" := by
  have succeeds : (dataRoles.cloneRole .compact rolesDisk "server" "light").1 =
      .ok (cloned .builtinServer "server" "light") := rfl
  refine (clone_preserves_modules_iff fresh_light succeeds).mpr ?_
  rintro _ ⟨⟩ base based
  cases based

/-- A clone of the server role without modules of its own. -/
def bare : RoleProfile := { cloned .builtinServer "server" "light" with modules := ∅ }

/-- The server role is cloned, and then the modules of the clone are edited away. -/
def bareTree (manager : RoleManager) (serde : SerdeRole) (tree : FileTree String) :
    FileTree String :=
  (manager.editRole serde (manager.cloneRole serde tree "server" "light").2 "light" ∅).2

def bareDisk : FileTree String := bareTree dataRoles .compact rolesDisk

theorem find_light : dataRoles.find .compact
    (dataRoles.cloneRole .compact rolesDisk "server" "light").2 "light" =
      some (cloned .builtinServer "server" "light", .user) := by
  have succeeds : (dataRoles.cloneRole .compact rolesDisk "server" "light").1 =
      .ok (cloned .builtinServer "server" "light") := rfl
  obtain ⟨profile, trust, found, saved⟩ := cloneRole_savedNew fresh_light succeeds
  have server : dataRoles.find .compact rolesDisk "server" = some (.builtinServer, .system) := rfl
  obtain rfl : RoleProfile.builtinServer = profile :=
    congrArg Prod.fst (Option.some.inj (server.symm.trans found))
  exact saved.find_self fresh_light

theorem bareDisk_eq : bareDisk =
    (dataRoles.saveUserRole .compact
      (dataRoles.cloneRole .compact rolesDisk "server" "light").2 bare).2 := by
  rw [bareDisk, bareTree, bare]
  exact editRole_of_find find_light ∅

theorem keyed_bareDisk : Keyed dataRoles .compact bareDisk := by
  rw [bareDisk, bareTree]
  exact ((noUserRoles_rolesDisk.keyed .compact).cloneRole fresh_light.noRole).editRole "light" ∅

theorem find_bareDisk : dataRoles.find .compact bareDisk "light" = some (bare, .user) := by
  have isDir : bareDisk.isDir (dataRoles.roleDir "light") = true := by
    rw [bareDisk_eq]
    rfl
  have file : bareDisk.get (dataRoles.roleFile "light") =
      some (.file (SerdeRole.compact.toText bare)) := by
    rw [bareDisk_eq]
    rfl
  rw [keyed_bareDisk.find_eq (by decide), if_pos isDir, profileIn, file]
  simp only [SerdeRole.fromText_toText, Option.getD_some]

/-- A clone of that role has no modules, while the role has those of the server role. -/
theorem clone_loses_modules :
    Fresh dataRoles .compact bareDisk "copy" ∧
      (dataRoles.cloneRole .compact bareDisk "light" "copy").1 =
        .ok (cloned bare "light" "copy") ∧
      dataRoles.enabledModules .compact
          (dataRoles.cloneRole .compact bareDisk "light" "copy").2 "copy" ≠
        dataRoles.enabledModules .compact
          (dataRoles.cloneRole .compact bareDisk "light" "copy").2 "light" := by
  have noEntry : bareDisk.get (dataRoles.roleDir "copy") = none := by
    rw [bareDisk_eq]
    rfl
  have noRole : dataRoles.find .compact bareDisk "copy" = none := by
    rw [keyed_bareDisk.find_eq (by decide), FileTree.isDir, noEntry]
    rfl
  have fresh : Fresh dataRoles .compact bareDisk "copy" := ⟨noRole, noEntry⟩
  have succeeds : (dataRoles.cloneRole .compact bareDisk "light" "copy").1 =
      .ok (cloned bare "light" "copy") := by
    rw [cloneRole, find_bareDisk, bareDisk_eq]
    rfl
  refine ⟨fresh, succeeds, fun same => ?_⟩
  obtain ⟨profile, trust, found, saved⟩ := cloneRole_savedNew fresh succeeds
  rw [same_modules_iff fresh found saved] at same
  have listed := same (bare, .user) find_bareDisk (.builtinServer, .system) rfl "lan-auth" _ rfl rfl
  cases listed

end AiPowerGateway.Runtime.RoleManager

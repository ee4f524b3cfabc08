import AiPowerGateway.Files.Tree

/-!
# Paths and the calls that take them

A path is followed from the root, name by name: `.` and an empty name stay, `..` goes to
the directory above, and every name but the last has to lead to a directory.
-/

namespace AiPowerGateway.Files

variable {β : Type}

inductive IoError where
  | notFound
  | exists
  | notDirectory
  | isDirectory
  | invalidArgument
  | notEmpty
  | busy
  deriving DecidableEq, Repr

def IoError.display : IoError → String
  | .notFound => "No such file or directory (os error 2)"
  | .exists => "File exists (os error 17)"
  | .notDirectory => "Not a directory (os error 20)"
  | .isDirectory => "Is a directory (os error 21)"
  | .invalidArgument => "Invalid argument (os error 22)"
  | .notEmpty => "Directory not empty (os error 39)"
  | .busy => "Device or resource busy (os error 16)"

/-! ## Paths -/

/-- The names between the slashes of a text. -/
abbrev Path := List String

def Path.ofText (text : String) : Path := (text.toList.splitOn '/').map String.ofList

/-- A text that starts with a slash replaces the path that it is joined to. -/
def Path.join (base : Path) (text : String) : Path :=
  if text.toList.head? = some '/' then .ofText text else base ++ .ofText text

theorem Path.join_name {text : String} (name : '/' ∉ text.toList) (base : Path) :
    Path.join base text = base ++ [text] := by
  have relative : text.toList.head? ≠ some '/' := fun starts => name (List.mem_of_head? starts)
  rw [Path.join, if_neg relative, Path.ofText, List.splitOn_eq_singleton name, List.map_singleton,
    String.ofList_toList]

example : Path.join ["data", "roles"] "../a//b/" = ["data", "roles", "..", "a", "", "b", ""] := by
  decide

/-- A name that leads to an entry of its own. -/
def Plain (name : String) : Prop := name ≠ "" ∧ name ≠ "." ∧ name ≠ ".."

instance (name : String) : Decidable (Plain name) := inferInstanceAs (Decidable (_ ∧ _))

/-- The path ends in the name of what it leads to, but for slashes. -/
def Path.named (path : Path) : Bool :=
  match path.reverse.find? (· ≠ "") with
  | none => false
  | some name => Plain name

/-- Why a directory cannot be removed under a path that does not name it. -/
def Path.unnamed (path : Path) : IoError :=
  match path.reverse.find? (· ≠ "") with
  | none => .busy
  | some name => if name = "." then .invalidArgument else .notEmpty

theorem Path.named_concat {name : String} (plain : Plain name) (front : Path) :
    Path.named (front ++ [name]) = true := by
  simp [Path.named, plain.1, plain]

/-- Where one name of a path leads. -/
def follow (location : Location) (name : String) : Location :=
  if name = "" ∨ name = "." then location
  else if name = ".." then location.dropLast
  else location ++ [name]

theorem follow_plain {name : String} (plain : Plain name) (location : Location) :
    follow location name = location ++ [name] := by
  rw [follow, if_neg (by simp [plain.1, plain.2.1]), if_neg plain.2.2]

namespace FileTree

/-- Where the rest of a path leads from a location. -/
def walk (tree : FileTree β) : Location → Path → Option Location
  | location, [] => if (tree.get location).isSome then some location else none
  | location, name :: rest =>
      if tree.isDir location then tree.walk (follow location name) rest else none

def resolve (tree : FileTree β) (path : Path) : Option Location := tree.walk [] path

theorem isSome_of_walk {tree : FileTree β} {path : Path} {start location : Location}
    (leads : tree.walk start path = some location) : (tree.get location).isSome := by
  induction path generalizing start with
  | nil =>
      rw [walk] at leads
      split at leads
      · next there =>
          cases leads
          exact there
      · cases leads
  | cons name rest ih =>
      rw [walk] at leads
      split at leads
      · exact ih leads
      · cases leads

theorem walk_plain {names : List String} (plain : ∀ name ∈ names, Plain name) {tree : FileTree β}
    {location : Location} :
    tree.walk location names =
      if (tree.get (location ++ names)).isSome then some (location ++ names) else none := by
  induction names generalizing location with
  | nil => rw [walk, List.append_nil]
  | cons name rest ih =>
      have path : location ++ name :: rest = (location ++ [name]) ++ rest := by simp
      rw [walk, follow_plain (plain name List.mem_cons_self), path]
      split
      · exact ih fun other mem => plain other (List.mem_cons_of_mem _ mem)
      · next noDir =>
          refine (if_neg fun there => noDir ?_).symm
          have next := isSome_of_prefix there (List.prefix_append _ _)
          exact isDir_iff.mpr (get_parent next)

/-! ## Creating directories and writing files -/

/-- Go on along a path and create what is missing; the directory that is reached. -/
def makeDirs (tree : FileTree β) (location : Location) : Path → Except IoError Location × FileTree β
  | [] => (.ok location, tree)
  | name :: rest =>
      match tree.get (follow location name) with
      | some .dir => makeDirs tree (follow location name) rest
      | some (.file _) => (.error (if rest.all (· = "") then .exists else .notDirectory), tree)
      | none => makeDirs (tree.put location name .dir) (follow location name) rest

def createDirAll (tree : FileTree β) (path : Path) : Except IoError Location × FileTree β :=
  tree.makeDirs [] path

/-- Write a file in the directory at a location. -/
def writeFile (tree : FileTree β) (location : Location) (name : String) (content : β) :
    Except IoError Unit × FileTree β :=
  if tree.isDir (location ++ [name]) then (.error .isDirectory, tree)
  else if tree.isDir location then (.ok (), tree.put location name (.file content))
  else (.error .notDirectory, tree)

/-- What creating the directories on the way to a location does. -/
structure MadeDirs (before : FileTree β) (target : Location)
    (result : Except IoError Location × FileTree β) : Prop where
  grows (other : Location) : result.2.get other = before.get other ∨
    before.get other = none ∧ result.2.get other = some .dir ∧ other <+: target
  reaches {reached : Location} : result.1 = .ok reached →
    reached = target ∧ result.2.get reached = some .dir

theorem madeDirs {names : List String} (plain : ∀ name ∈ names, Plain name) {tree : FileTree β}
    {location : Location} (isDir : tree.get location = some .dir) :
    MadeDirs tree (location ++ names) (tree.makeDirs location names) := by
  induction names generalizing tree location with
  | nil =>
      refine ⟨fun _ => Or.inl rfl, ?_⟩
      rintro _ ⟨⟩
      exact ⟨(List.append_nil _).symm, isDir⟩
  | cons name rest ih =>
      have next := follow_plain (plain name List.mem_cons_self) location
      have later := fun other mem => plain other (List.mem_cons_of_mem _ mem)
      have path : location ++ name :: rest = (location ++ [name]) ++ rest := by simp
      rw [makeDirs, next, path]
      split
      · next there => exact ih later there
      · exact ⟨fun _ => Or.inl rfl, nofun⟩
      · next missing =>
          have made : (tree.put location name .dir).get (location ++ [name]) = some .dir :=
            get_put_self isDir (by simp [missing])
          obtain ⟨grows, reaches⟩ := ih later made
          refine ⟨fun other => ?_, reaches⟩
          by_cases same : other = location ++ [name]
          · subst same
            have leads : location ++ [name] <+: location ++ [name] ++ rest :=
              List.prefix_append _ _
            rcases grows (location ++ [name]) with kept | ⟨absent, -, -⟩
            · exact Or.inr ⟨missing, kept.trans made, leads⟩
            · rw [made] at absent
              cases absent
          · have kept := grows other
            rwa [get_put_ne same] at kept

/-- A directory that is made is listed first where it is. -/
theorem list_makeDirs {names : List String} (plain : ∀ name ∈ names, Plain name)
    {tree : FileTree β} {location above : Location} {last : String}
    (isDir : tree.get location = some .dir) (free : tree.get (above ++ [last]) = none)
    (leads : location ++ names = above ++ [last]) {reached : Location}
    (made : (tree.makeDirs location names).1 = .ok reached) :
    (tree.makeDirs location names).2.list above = last :: tree.list above := by
  induction names generalizing tree location with
  | nil =>
      rw [List.append_nil] at leads
      rw [leads, free] at isDir
      cases isDir
  | cons name rest ih =>
      have next := follow_plain (plain name List.mem_cons_self) location
      have later := fun other mem => plain other (List.mem_cons_of_mem _ mem)
      have path : (location ++ [name]) ++ rest = above ++ [last] := by simpa using leads
      rw [makeDirs, next] at made ⊢
      split at made
      · next there => exact ih later there free path made
      · cases made
      · next missing =>
          have put : (tree.put location name .dir).get (location ++ [name]) = some .dir :=
            get_put_self isDir (by simp [missing])
          rcases List.eq_nil_or_concat rest with rfl | ⟨front, final, rfl⟩
          · rw [List.append_nil] at path
            obtain ⟨rfl, same⟩ := List.append_inj' path rfl
            rw [makeDirs, list_put isDir missing, if_pos rfl, List.singleton_inj.mp same]
          · have apart : location ≠ above := by
              rintro rfl
              simpa using congrArg List.length path
            have stillFree : (tree.put location name .dir).get (above ++ [last]) = none := by
              rw [get_put_ne, free]
              intro same
              exact apart (List.append_inj' same rfl).1.symm
            rw [ih later put stillFree path made, list_put isDir missing, if_neg apart]

/-! ## Removing directories -/

/-- The tree without what is in a directory. -/
def emptied (tree : FileTree β) (location : Location) : FileTree β :=
  tree.remove ((tree.list location).map fun name => location ++ [name])

/-- The path names the directory, and still leads to it when it is empty. -/
def unlinks (tree : FileTree β) (path : Path) (location : Location) : Bool :=
  path.named && location ≠ [] && ((tree.emptied location).resolve path).isSome

/-- The entries whose removal, with all below them, is what `removeDirAll` does.  A
directory that the path does not unlink is emptied and stays. -/
def doomed (tree : FileTree β) (path : Path) : List Location :=
  match tree.resolve path with
  | none => []
  | some location =>
      if tree.isDir location then
        if tree.unlinks path location then [location]
        else (tree.list location).map fun name => location ++ [name]
      else []

/-- Remove a directory with everything in it, and the directory last; that its path leads
nowhere by then is no failure. -/
def removeDirAll (tree : FileTree β) (path : Path) : Except IoError Unit × FileTree β :=
  match tree.resolve path with
  | none => (.error .notFound, tree)
  | some location =>
      if tree.isDir location then
        (if tree.unlinks path location || ((tree.emptied location).resolve path).isNone then .ok ()
          else .error path.unnamed,
          tree.remove (tree.doomed path))
      else (.error .notDirectory, tree)

/-- Emptying a directory leaves what is not in it. -/
theorem get_emptied {tree : FileTree β} {location other : Location}
    (outside : ∀ name, ¬ location ++ [name] <+: other) :
    (tree.emptied location).get other = tree.get other := by
  cases other with
  | nil => rfl
  | cons first rest =>
      rw [emptied, get_remove (by simp), if_neg]
      intro goes
      obtain ⟨top, mem, leads⟩ := goesWith_iff.mp goes
      obtain ⟨name, -, rfl⟩ := List.mem_map.mp mem
      exact outside name leads

/-- A path of plain names leads to a directory that is empty as before. -/
theorem unlinks_plain {tree : FileTree β} {front : Path} {name : String}
    (plain : ∀ part ∈ front ++ [name], Plain part)
    (there : (tree.get (front ++ [name])).isSome) :
    tree.unlinks (front ++ [name]) (front ++ [name]) = true := by
  have named := Path.named_concat (plain name (by simp)) front
  have kept : (tree.emptied (front ++ [name])).get (front ++ [name]) =
      tree.get (front ++ [name]) := by
    refine get_emptied fun child leads => ?_
    have longer := leads.length_le
    simp at longer
  rw [unlinks, resolve, walk_plain plain, List.nil_append, kept, if_pos there, named]
  simp

theorem forall_doomed_iff {tree : FileTree β} {path : Path} {property : Location → Prop} :
    (∀ top ∈ tree.doomed path, property top) ↔
      ∀ location, tree.resolve path = some location → tree.get location = some .dir →
        if tree.unlinks path location then property location
        else ∀ name, (tree.get (location ++ [name])).isSome → property (location ++ [name]) := by
  simp only [← mem_list, ← isDir_iff]
  rw [doomed]
  cases tree.resolve path with
  | none => simp
  | some location =>
      simp only [Option.some.injEq, forall_eq']
      split
      · next isDir =>
          rw [forall_prop_of_true isDir]
          split
          · exact List.forall_mem_singleton
          · exact List.forall_mem_map
      · next file => simp [file]

theorem isSome_of_mem_doomed {tree : FileTree β} {path : Path} {top : Location}
    (mem : top ∈ tree.doomed path) : (tree.get top).isSome ∧ top ≠ [] := by
  rw [doomed] at mem
  split at mem
  · cases mem
  · next location leads =>
      split at mem
      · split at mem
        · next named =>
            rw [List.mem_singleton.mp mem]
            simp only [unlinks, Bool.and_eq_true, decide_eq_true_eq] at named
            exact ⟨isSome_of_walk leads, named.1.2⟩
        · obtain ⟨name, listed, rfl⟩ := List.mem_map.mp mem
          exact ⟨mem_list.mp listed, by simp⟩
      · cases mem

theorem get_removeDirAll_eq_or {tree : FileTree β} {path : Path} {location : Location} :
    (tree.removeDirAll path).2.get location = tree.get location ∨
      (tree.removeDirAll path).2.get location = none := by
  rw [removeDirAll]
  split
  · exact Or.inl rfl
  · split
    · exact get_remove_eq_or
    · exact Or.inl rfl

/-- What is lost is what is doomed and all below it. -/
theorem lost_removeDirAll_iff {tree : FileTree β} {path : Path} {location : Location} :
    Lost tree (tree.removeDirAll path).2 location ↔
      (tree.get location).isSome ∧ ∃ top ∈ tree.doomed path, top <+: location := by
  have notRoot : [] ∉ tree.doomed path := fun mem => (isSome_of_mem_doomed mem).2 rfl
  rw [removeDirAll]
  split
  · next missing => simp [doomed, missing, not_lost_self]
  · next found leads =>
      split
      · exact lost_remove_iff notRoot
      · next file => simp [doomed, leads, file, not_lost_self]

end FileTree

end AiPowerGateway.Files

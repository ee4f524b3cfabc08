import Mathlib.Data.List.AList
import Mathlib.Data.List.Induction

/-!
# Directory trees

The directories and files of a disk by their location, which is the list of names on the
way from the root.  Whatever is there is in a directory.  There are no links.
-/

namespace AiPowerGateway.Files

variable {β : Type}

abbrev Location := List String

inductive Entry (β : Type) where
  | dir
  | file (content : β)
  deriving DecidableEq, Repr

abbrev Entries (β : Type) := AList fun _ : Location => Entry β

/-- What is at a location; the root is a directory and is not listed. -/
def Entries.at (entries : Entries β) (location : Location) : Option (Entry β) :=
  if location = [] then some .dir else entries.lookup location

namespace Entries

variable {entries : Entries β} {location : Location}

theorem at_of_ne_nil (below : location ≠ []) : entries.at location = entries.lookup location :=
  if_neg below

theorem at_insert_self (below : location ≠ []) (entry : Entry β) :
    Entries.at (entries.insert location entry) location = some entry := by
  rw [at_of_ne_nil below, AList.lookup_insert]

theorem at_insert_ne {other : Location} (differ : other ≠ location) (entry : Entry β) :
    Entries.at (entries.insert location entry) other = entries.at other := by
  rw [Entries.at, Entries.at, AList.lookup_insert_ne differ]

/-- The entries whose location does not go. -/
def without (entries : Entries β) (goes : Location → Bool) : Entries β :=
  ⟨entries.entries.filter fun entry => ! goes entry.1,
    entries.nodupKeys.sublist List.filter_sublist⟩

theorem at_without (goes : Location → Bool) (below : location ≠ []) :
    Entries.at (entries.without goes) location =
      if goes location then none else entries.at location := by
  rw [at_of_ne_nil below, at_of_ne_nil below]
  apply Option.ext
  intro entry
  rw [← Option.mem_def, AList.mem_lookup_iff, without, List.mem_filter, ← AList.mem_lookup_iff]
  cases goes location <;> simp

end Entries

structure FileTree (β : Type) where
  entries : Entries β
  inDirectory {location : Location} {name : String} :
    (entries.at (location ++ [name])).isSome → entries.at location = some .dir

namespace FileTree

variable {tree : FileTree β} {location : Location} {name : String}

def get (tree : FileTree β) (location : Location) : Option (Entry β) := tree.entries.at location

def isDir (tree : FileTree β) (location : Location) : Bool :=
  match tree.get location with
  | some .dir => true
  | _ => false

@[simp]
theorem get_nil (tree : FileTree β) : tree.get [] = some .dir := rfl

theorem isDir_iff : tree.isDir location = true ↔ tree.get location = some .dir := by
  rw [isDir]
  split
  · next found => simp [found]
  · next other => simpa using other

theorem get_of_ne_nil (below : location ≠ []) :
    tree.get location = tree.entries.lookup location := if_neg below

theorem get_parent (there : (tree.get (location ++ [name])).isSome) :
    tree.get location = some .dir := tree.inDirectory there

/-- On the way to what is there, everything is there. -/
theorem isSome_of_prefix {longer : Location} (there : (tree.get longer).isSome)
    (leads : location <+: longer) : (tree.get location).isSome := by
  obtain ⟨rest, rfl⟩ := leads
  induction rest using List.reverseRecOn with
  | nil => simpa using there
  | append_singleton rest last ih =>
      rw [← List.append_assoc] at there
      rw [get_parent there] at ih
      exact ih rfl

/-- Only the root. -/
def empty : FileTree β where
  entries := ∅
  inDirectory := by
    intro location name there
    rw [Entries.at_of_ne_nil (by simp), AList.lookup_empty] at there
    cases there

/-! ## Listing -/

/-- The name of what is directly in a directory. -/
def nameIn (location child : Location) : Option String :=
  if child.dropLast = location then child.getLast? else none

theorem nameIn_eq_some {child : Location} :
    nameIn location child = some name ↔ child = location ++ [name] := by
  rw [nameIn]
  constructor
  · intro found
    split at found
    · next parent =>
        obtain ⟨front, rfl⟩ := List.getLast?_eq_some_iff.mp found
        rw [← parent, List.dropLast_concat]
    · cases found
  · rintro rfl
    rw [if_pos List.dropLast_concat, List.getLast?_concat]

/-- The names in a directory, in the order in which one listing happens to give them. -/
def list (tree : FileTree β) (location : Location) : List String :=
  tree.entries.keys.filterMap (nameIn location)

theorem mem_list : name ∈ tree.list location ↔ (tree.get (location ++ [name])).isSome := by
  have below : location ++ [name] ≠ [] := by simp
  rw [get_of_ne_nil below, AList.lookup_isSome, list, List.mem_filterMap]
  constructor
  · rintro ⟨child, mem, named⟩
    exact nameIn_eq_some.mp named ▸ mem
  · exact fun mem => ⟨_, mem, nameIn_eq_some.mpr rfl⟩

theorem nodup_list (tree : FileTree β) (location : Location) : (tree.list location).Nodup :=
  tree.entries.keys_nodup.filterMap fun _ _ _ named same =>
    (nameIn_eq_some.mp named).trans (nameIn_eq_some.mp same).symm

/-- The directories in a directory. -/
def subdirectories (tree : FileTree β) (location : Location) : List String :=
  (tree.list location).filter fun name => tree.isDir (location ++ [name])

theorem mem_subdirectories :
    name ∈ tree.subdirectories location ↔ tree.get (location ++ [name]) = some .dir := by
  rw [subdirectories, List.mem_filter, mem_list, isDir_iff]
  exact and_iff_right_of_imp fun found => by simp [found]

theorem nodup_subdirectories (tree : FileTree β) (location : Location) :
    (tree.subdirectories location).Nodup := (tree.nodup_list location).filter _

/-! ## Changes -/

/-- Put an entry into a directory, though not in the place of a directory. -/
def put (tree : FileTree β) (location : Location) (name : String) (entry : Entry β) : FileTree β :=
  if fits : tree.isDir location = true ∧ tree.isDir (location ++ [name]) = false then
    { entries := tree.entries.insert (location ++ [name]) entry
      inDirectory := by
        intro parent child there
        have parentDir : tree.get parent = some .dir := by
          by_cases same : parent ++ [child] = location ++ [name]
          · rw [(List.append_inj' same rfl).1]
            exact isDir_iff.mp fits.1
          · rw [Entries.at_insert_ne same] at there
            exact get_parent there
        have differ : parent ≠ location ++ [name] := by
          rintro rfl
          rw [← isDir_iff, fits.2] at parentDir
          cases parentDir
        rwa [Entries.at_insert_ne differ] }
  else tree

theorem get_put_self {entry : Entry β} (parent : tree.get location = some .dir)
    (free : tree.get (location ++ [name]) ≠ some .dir) :
    (tree.put location name entry).get (location ++ [name]) = some entry := by
  have vacant : tree.isDir (location ++ [name]) = false := by
    rw [Bool.eq_false_iff, Ne, isDir_iff]
    exact free
  rw [put, dif_pos ⟨isDir_iff.mpr parent, vacant⟩]
  exact Entries.at_insert_self (by simp) entry

theorem get_put_ne {entry : Entry β} {other : Location} (differ : other ≠ location ++ [name]) :
    (tree.put location name entry).get other = tree.get other := by
  rw [put]
  split
  · exact Entries.at_insert_ne differ entry
  · rfl

/-- A new entry is listed first in its directory, and in no other one. -/
theorem list_put {entry : Entry β} (parent : tree.get location = some .dir)
    (free : tree.get (location ++ [name]) = none) (other : Location) :
    (tree.put location name entry).list other =
      if location = other then name :: tree.list other else tree.list other := by
  have vacant : tree.isDir (location ++ [name]) = false := by rw [isDir, free]
  have absent : location ++ [name] ∉ tree.entries := by
    rwa [get_of_ne_nil (by simp), AList.lookup_eq_none] at free
  have inserted : (tree.put location name entry).entries =
      tree.entries.insert (location ++ [name]) entry := by
    rw [put, dif_pos ⟨isDir_iff.mpr parent, vacant⟩]
  have keys : (tree.put location name entry).entries.keys =
      (location ++ [name]) :: tree.entries.keys := by
    rw [inserted, AList.insert_of_notMem absent]
    rfl
  rw [list, list, keys]
  split
  · next same =>
      subst same
      exact List.filterMap_cons_some (nameIn_eq_some.mpr rfl)
  · next differ =>
      refine List.filterMap_cons_none ?_
      rw [nameIn, List.dropLast_concat, if_neg differ]

/-- A location that goes when the given ones and what is below them go. -/
def goesWith (tops : List Location) (location : Location) : Bool :=
  tops.any (·.isPrefixOf location)

theorem goesWith_iff {tops : List Location} :
    goesWith tops location = true ↔ ∃ top ∈ tops, top <+: location := by
  simp [goesWith]

/-- Take away what is at some locations and below them. -/
def remove (tree : FileTree β) (tops : List Location) : FileTree β where
  entries := tree.entries.without (goesWith tops)
  inDirectory := by
    intro location name there
    rw [Entries.at_without _ (by simp)] at there
    split at there
    · cases there
    · next stays =>
        cases location with
        | nil => rfl
        | cons first rest =>
            rw [Entries.at_without _ (by simp), if_neg, tree.inDirectory there]
            intro goes
            obtain ⟨top, mem, leads⟩ := goesWith_iff.mp goes
            exact stays (goesWith_iff.mpr ⟨top, mem, leads.trans (List.prefix_append _ _)⟩)

theorem get_remove {tops : List Location} (below : location ≠ []) :
    (tree.remove tops).get location =
      if goesWith tops location then none else tree.get location :=
  Entries.at_without _ below

/-- What a change took away. -/
def Lost (before after : FileTree β) (location : Location) : Prop :=
  (before.get location).isSome ∧ after.get location = none

theorem not_lost_self : ¬ Lost tree tree location := by
  rintro ⟨there, missing⟩
  rw [missing] at there
  cases there

theorem get_remove_eq_or {tops : List Location} :
    (tree.remove tops).get location = tree.get location ∨
      (tree.remove tops).get location = none := by
  cases location with
  | nil => exact Or.inl rfl
  | cons first rest =>
      rw [get_remove (by simp)]
      split
      · exact Or.inr rfl
      · exact Or.inl rfl

theorem lost_remove_iff {tops : List Location} (notRoot : [] ∉ tops) :
    Lost tree (tree.remove tops) location ↔
      (tree.get location).isSome ∧ ∃ top ∈ tops, top <+: location := by
  rw [Lost, ← goesWith_iff]
  cases location with
  | nil =>
      have stays : goesWith tops [] = false := by
        rw [Bool.eq_false_iff]
        intro goes
        obtain ⟨top, mem, leads⟩ := goesWith_iff.mp goes
        rw [List.prefix_nil] at leads
        exact notRoot (leads ▸ mem)
      simp [stays]
  | cons first rest =>
      rw [get_remove (by simp)]
      refine and_congr_right fun there => ?_
      cases goesWith tops (first :: rest) <;> simp [Option.isSome_iff_ne_none.mp there]

end FileTree

end AiPowerGateway.Files

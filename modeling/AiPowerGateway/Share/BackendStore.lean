import AiPowerGateway.Share.BackendEntry
import AiPowerGateway.Systems.FileReplace
import Mathlib.Data.List.Sort
import Mathlib.Data.String.Basic

/-!
# The backend configuration store

The configured backends in memory and in their file, `backends.yaml`.  An entry is
addressed by its routing key.
-/

namespace AiPowerGateway.Share

open Systems

/-- The YAML text of the configuration file; printing the entries never fails. -/
structure SerdeYaml where
  toString : List BackendEntry → String
  fromSlice : String → Option (List BackendEntry)
  fromSlice_toString (entries : List BackendEntry) : fromSlice (toString entries) = some entries

/-- How one save goes: the directory, the three file steps, and the text of an error. -/
structure SaveOutcome where
  dirReady : Bool := true
  steps : FileReplace.Results := {}
  error : String := ""
  deriving DecidableEq, Repr

def SaveOutcome.succeeds (outcome : SaveOutcome) : Bool :=
  outcome.dirReady && outcome.steps.replaced

/-- The entries in memory, and the file with its temporary sibling. -/
structure BackendStore where
  entries : List BackendEntry
  disk : FileReplace.Disk String
  deriving DecidableEq, Repr

namespace BackendStore

/-- An entry with this routing key is stored. -/
def hasId (entries : List BackendEntry) (id : String) : Bool :=
  entries.any fun entry => entry.backendId = id

/-- Store an entry in the place of the first one with its key, else at the end. -/
def upsertEntry (entry : BackendEntry) (entries : List BackendEntry) : List BackendEntry :=
  match entries.findIdx? fun stored => stored.backendId = entry.backendId with
  | some position => entries.set position entry
  | none => entries ++ [entry]

def removeEntry (id : String) (entries : List BackendEntry) : List BackendEntry :=
  entries.filter fun stored => stored.backendId ≠ id

def sortEntries (entries : List BackendEntry) : List BackendEntry :=
  entries.insertionSort fun first second => ¬ second.backendId < first.backendId

/-- A file that is missing or does not parse holds no entries. -/
def loadEntries (yaml : SerdeYaml) (file : Option String) : List BackendEntry :=
  (file.bind yaml.fromSlice).getD []

/-- Open a store; the initial entries only add keys that the file does not have. -/
def new (yaml : SerdeYaml) (disk : FileReplace.Disk String) (initial : List BackendEntry) :
    BackendStore where
  entries := initial.foldl
    (fun loaded entry => if hasId loaded entry.backendId then loaded else loaded ++ [entry])
    (loadEntries yaml disk.target)
  disk := disk

/-- All entries, sorted by their keys. -/
def list (store : BackendStore) : List BackendEntry := sortEntries store.entries

def upsert (entry : BackendEntry) (store : BackendStore) : BackendStore :=
  { store with entries := upsertEntry entry store.entries }

/-- Remove a key; the answer is whether it was there. -/
def remove (id : String) (store : BackendStore) : Bool × BackendStore :=
  let remaining := removeEntry id store.entries
  (remaining.length ≠ store.entries.length, { store with entries := remaining })

/-- Write the list to the file. -/
def save (yaml : SerdeYaml) (outcome : SaveOutcome) (store : BackendStore) :
    Except String Unit × BackendStore :=
  if outcome.dirReady then
    let saved :=
      { store with
        disk := FileReplace.replace (yaml.toString store.list) outcome.steps store.disk }
    (if outcome.steps.replaced then .ok () else .error outcome.error, saved)
  else (.error outcome.error, store)

/-! ## Memory -/

/-- The entry that lookups by key find. -/
def find? (entries : List BackendEntry) (id : String) : Option BackendEntry :=
  entries.find? fun entry => entry.backendId = id

theorem find?_key {entries : List BackendEntry} {id : String} {entry : BackendEntry}
    (found : find? entries id = some entry) : entry.backendId = id := by
  simpa using List.find?_some found

theorem find?_isSome {entries : List BackendEntry} {id : String} :
    (find? entries id).isSome = hasId entries id := by
  rw [find?, hasId, Bool.eq_iff_iff, List.find?_isSome, List.any_eq_true]

theorem hasId_eq_true {entries : List BackendEntry} {id : String} :
    hasId entries id = true ↔ ∃ entry ∈ entries, entry.backendId = id := by
  simp [hasId]

/-- Sorting keeps what is stored. -/
theorem hasId_sortEntries (entries : List BackendEntry) (id : String) :
    hasId (sortEntries entries) id = hasId entries id := by
  have perm : (sortEntries entries).Perm entries := List.perm_insertionSort _ entries
  rw [Bool.eq_iff_iff, hasId_eq_true, hasId_eq_true]
  simp only [perm.mem_iff]

theorem upsertEntry_cons_ne {entry first : BackendEntry} (rest : List BackendEntry)
    (differ : first.backendId ≠ entry.backendId) :
    upsertEntry entry (first :: rest) = first :: upsertEntry entry rest := by
  unfold upsertEntry
  rw [List.findIdx?_cons, if_neg (by simpa using differ)]
  cases rest.findIdx? _ <;> rfl

theorem upsertEntry_cons_eq {entry first : BackendEntry} (rest : List BackendEntry)
    (same : first.backendId = entry.backendId) :
    upsertEntry entry (first :: rest) = entry :: rest := by
  simp [upsertEntry, List.findIdx?_cons, same]

/-- Storing an entry is what the next lookup of its key finds. -/
theorem find?_upsertEntry_self (entry : BackendEntry) (entries : List BackendEntry) :
    find? (upsertEntry entry entries) entry.backendId = some entry := by
  induction entries with
  | nil => simp [upsertEntry, find?]
  | cons first rest ih =>
      by_cases same : first.backendId = entry.backendId
      · simp [upsertEntry_cons_eq rest same, find?]
      · rw [upsertEntry_cons_ne rest same, find?, List.find?_cons_of_neg (by simpa using same)]
        exact ih

/-- Storing an entry leaves the lookups of other keys alone. -/
theorem find?_upsertEntry_ne {entry : BackendEntry} {id : String} (differ : id ≠ entry.backendId)
    (entries : List BackendEntry) : find? (upsertEntry entry entries) id = find? entries id := by
  induction entries with
  | nil => simp [upsertEntry, find?, Ne.symm differ]
  | cons first rest ih =>
      by_cases same : first.backendId = entry.backendId
      · rw [upsertEntry_cons_eq rest same]
        simp [find?, same, Ne.symm differ]
      · rw [upsertEntry_cons_ne rest same]
        by_cases found : first.backendId = id
        · simp [find?, found]
        · simpa [find?, found] using ih

/-- Storing an entry changes nothing exactly when its key finds it already. -/
theorem upsertEntry_eq_self {entry : BackendEntry} {entries : List BackendEntry} :
    upsertEntry entry entries = entries ↔ find? entries entry.backendId = some entry := by
  induction entries with
  | nil => simp [upsertEntry, find?]
  | cons first rest ih =>
      by_cases same : first.backendId = entry.backendId
      · rw [upsertEntry_cons_eq rest same]
        simp [find?, same, eq_comm]
      · rw [upsertEntry_cons_ne rest same, List.cons_inj_right, ih]
        simp [find?, same]

theorem find?_removeEntry_self (id : String) (entries : List BackendEntry) :
    find? (removeEntry id entries) id = none := by
  simp [find?, removeEntry]

theorem find?_removeEntry_ne {id other : String} (differ : other ≠ id)
    (entries : List BackendEntry) : find? (removeEntry id entries) other = find? entries other := by
  unfold find? removeEntry
  rw [List.find?_filter]
  congr 1
  funext entry
  by_cases same : entry.backendId = other <;> simp [same, differ]

/-- Removing a key changes something exactly when it was stored. -/
theorem removeEntry_eq_self {id : String} {entries : List BackendEntry} :
    removeEntry id entries = entries ↔ hasId entries id = false := by
  simp [removeEntry, List.filter_eq_self, hasId]

theorem remove_fst (id : String) (store : BackendStore) :
    (store.remove id).1 = hasId store.entries id := by
  have shorter : (removeEntry id store.entries).length = store.entries.length ↔
      removeEntry id store.entries = store.entries :=
    List.filter_sublist.length_eq
  rw [removeEntry_eq_self] at shorter
  cases stored : hasId store.entries id <;> simp [remove, shorter, stored]

/-! ## The file -/

theorem save_entries (yaml : SerdeYaml) (outcome : SaveOutcome) (store : BackendStore) :
    (store.save yaml outcome).2.entries = store.entries := by
  unfold save
  split <;> rfl

theorem save_isOk (yaml : SerdeYaml) (outcome : SaveOutcome) (store : BackendStore) :
    (store.save yaml outcome).1 = .ok () ↔ outcome.succeeds = true := by
  unfold save SaveOutcome.succeeds
  cases outcome.dirReady <;> cases outcome.steps.replaced <;> simp

/-- A successful save leaves the list in the file. -/
theorem save_of_succeeds (yaml : SerdeYaml) {outcome : SaveOutcome}
    (succeeds : outcome.succeeds = true) (store : BackendStore) :
    (store.save yaml outcome).2 =
      { store with disk := ⟨some (yaml.toString store.list), none⟩ } := by
  obtain ⟨ready, replaced⟩ := (Bool.and_eq_true _ _).mp succeeds
  rw [save, if_pos ready, FileReplace.replace_of_replaced replaced]

theorem loadEntries_save (yaml : SerdeYaml) {outcome : SaveOutcome}
    (succeeds : outcome.succeeds = true) (store : BackendStore) :
    (store.save yaml outcome).2.disk.target = some (yaml.toString store.list) := by
  rw [save_of_succeeds yaml succeeds]

end BackendStore

end AiPowerGateway.Share

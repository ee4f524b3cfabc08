import AiPowerGateway.Share.BackendEdits
import AiPowerGateway.Share.OneKey
import Mathlib.Logic.Function.Basic

/-!
# The store as a table

The store is meant to be a table from routing keys to entries, in which an edit replaces
what its key stands for.  Opening it adds no key twice and no edit does, but nothing
removes what the file has twice.
-/

namespace AiPowerGateway.Share

/-- What is done to the store between two applications. -/
inductive StoreEdit where
  | upsert (entry : BackendEntry)
  | remove (id : String)
  | save (outcome : SaveOutcome)

def StoreEdit.perform (yaml : SerdeYaml) (store : BackendStore) : StoreEdit → BackendStore
  | .upsert entry => store.upsert entry
  | .remove id => (store.remove id).2
  | .save outcome => (store.save yaml outcome).2

namespace BackendStore

def edited (yaml : SerdeYaml) (edits : List StoreEdit) (store : BackendStore) : BackendStore :=
  edits.foldl (StoreEdit.perform yaml) store

/-! ## The table -/

/-- What each routing key stands for. -/
abbrev Table := String → Option BackendEntry

/-- The first entry of a key in the file, else the first of the command line. -/
def Table.opened (file initial : List BackendEntry) : Table :=
  fun id => (find? file id).or (find? initial id)

def Table.edit (table : Table) : StoreEdit → Table
  | .upsert entry => Function.update table entry.backendId (some entry)
  | .remove id => Function.update table id none
  | .save _ => table

/-- The entry that was stored last for a key, unless it was removed. -/
def Table.latest (file initial : List BackendEntry) (edits : List StoreEdit) : Table :=
  edits.foldl Table.edit (.opened file initial)

theorem find?_append (first second : List BackendEntry) (id : String) :
    find? (first ++ second) id = (find? first id).or (find? second id) :=
  List.find?_append

theorem find?_cons (entry : BackendEntry) (rest : List BackendEntry) (id : String) :
    find? (entry :: rest) id =
      if entry.backendId = id then some entry else find? rest id := by
  by_cases same : entry.backendId = id <;> simp [find?, same]

theorem entries_new (yaml : SerdeYaml) (disk : Systems.FileReplace.Disk String)
    (initial : List BackendEntry) :
    (new yaml disk initial).entries = initial.foldl
      (fun loaded entry => if hasId loaded entry.backendId then loaded else loaded ++ [entry])
      (loadEntries yaml disk.target) := rfl

theorem find?_new (yaml : SerdeYaml) (disk : Systems.FileReplace.Disk String)
    (initial : List BackendEntry) (id : String) :
    find? (new yaml disk initial).entries id =
      Table.opened (loadEntries yaml disk.target) initial id := by
  rw [entries_new, Table.opened]
  generalize loadEntries yaml disk.target = loaded
  induction initial generalizing loaded with
  | nil => simp [find?]
  | cons entry rest ih =>
      rw [List.foldl_cons, ih, find?_cons]
      by_cases same : entry.backendId = id
      · subst same
        rw [if_pos rfl]
        cases stored : hasId loaded entry.backendId with
        | true =>
            obtain ⟨found, isFound⟩ := Option.isSome_iff_exists.mp (find?_isSome.trans stored)
            simp [isFound]
        | false =>
            have missing : find? loaded entry.backendId = none := by
              rw [← Option.isNone_iff_eq_none, ← Option.not_isSome, find?_isSome, stored]
              rfl
            simp [find?_append, find?_cons, missing]
      · rw [if_neg same]
        split
        · rfl
        · rw [find?_append, find?_cons, if_neg same]
          simp [find?]

/-- One edit does to the first entries of keys what it does to the table. -/
theorem find?_perform (yaml : SerdeYaml) (store : BackendStore) (edit : StoreEdit) :
    find? (edit.perform yaml store).entries = Table.edit (find? store.entries) edit := by
  funext id
  cases edit with
  | upsert entry =>
      by_cases same : id = entry.backendId
      · subst same
        rw [Table.edit, Function.update_self]
        exact find?_upsertEntry_self entry store.entries
      · rw [Table.edit, Function.update_of_ne same]
        exact find?_upsertEntry_ne same store.entries
  | remove removed =>
      by_cases same : id = removed
      · subst same
        rw [Table.edit, Function.update_self]
        exact find?_removeEntry_self id store.entries
      · rw [Table.edit, Function.update_of_ne same]
        exact find?_removeEntry_ne same store.entries
  | save outcome => rw [StoreEdit.perform, save_entries, Table.edit]

/-- The first entry of a key is the one stored last. -/
theorem find?_edited (yaml : SerdeYaml) (disk : Systems.FileReplace.Disk String)
    (initial : List BackendEntry) (edits : List StoreEdit) :
    find? ((new yaml disk initial).edited yaml edits).entries =
      Table.latest (loadEntries yaml disk.target) initial edits := by
  have opened : find? (new yaml disk initial).entries =
      Table.opened (loadEntries yaml disk.target) initial :=
    funext (find?_new yaml disk initial)
  rw [edited, Table.latest, ← opened]
  exact (List.foldl_hom (fun store : BackendStore => find? store.entries)
    fun store edit => (find?_perform yaml store edit).symm).symm

/-! ## Keys that are stored twice -/

def keys (entries : List BackendEntry) : List String := entries.map BackendEntry.backendId

/-- More than one entry has the key. -/
def Doubled (entries : List BackendEntry) (id : String) : Prop := 1 < (keys entries).count id

theorem nodup_keys_iff (entries : List BackendEntry) :
    (keys entries).Nodup ↔ ∀ id, ¬ Doubled entries id := by
  simp only [Doubled, not_lt, List.nodup_iff_count_le_one]

theorem hasId_iff {entries : List BackendEntry} {id : String} :
    hasId entries id = true ↔ id ∈ keys entries := by
  rw [hasId_eq_true, keys, List.mem_map]

/-- An entry takes the place of one with its key, or is the only one with it. -/
theorem keys_upsertEntry (entry : BackendEntry) (entries : List BackendEntry) :
    keys (upsertEntry entry entries) =
      if hasId entries entry.backendId then keys entries
      else keys entries ++ [entry.backendId] := by
  induction entries with
  | nil => rfl
  | cons first rest ih =>
      by_cases same : first.backendId = entry.backendId
      · simp [upsertEntry_cons_eq rest same, keys, hasId, same]
      · have later : hasId (first :: rest) entry.backendId = hasId rest entry.backendId := by
          simp [hasId, same]
        rw [upsertEntry_cons_ne rest same, later, keys, List.map_cons, ← keys, ih]
        split <;> rfl

theorem keys_removeEntry (id : String) (entries : List BackendEntry) :
    keys (removeEntry id entries) = (keys entries).filter fun key => key ≠ id := by
  rw [keys, keys, List.filter_map]
  rfl

theorem doubled_append_iff {entries : List BackendEntry} {entry : BackendEntry} {id : String}
    (absent : hasId entries entry.backendId = false) :
    1 < (keys entries ++ [entry.backendId]).count id ↔ Doubled entries id := by
  rw [Doubled, List.count_append]
  by_cases same : entry.backendId = id
  · subst same
    have none : (keys entries).count entry.backendId = 0 := by
      rw [List.count_eq_zero, ← hasId_iff, absent]
      exact Bool.false_ne_true
    simp [none]
  · simp [same]

theorem doubled_perform_iff (yaml : SerdeYaml) (store : BackendStore) (edit : StoreEdit)
    (id : String) :
    Doubled (edit.perform yaml store).entries id ↔
      Doubled store.entries id ∧ edit ≠ .remove id := by
  cases edit with
  | upsert entry =>
      have kept : Doubled (upsertEntry entry store.entries) id ↔ Doubled store.entries id := by
        rw [Doubled, keys_upsertEntry]
        cases stored : hasId store.entries entry.backendId with
        | true => rfl
        | false => exact doubled_append_iff stored
      simpa [StoreEdit.perform, upsert] using kept
  | remove removed =>
      simp only [StoreEdit.perform, remove, Doubled, keys_removeEntry, ne_eq,
        StoreEdit.remove.injEq]
      by_cases same : id = removed
      · subst same
        simp [List.count_eq_zero_of_not_mem]
      · rw [List.count_filter (by simpa using same)]
        simp [Ne.symm same]
  | save outcome => simp [StoreEdit.perform, save_entries]

/-- What the file has twice stays until it is removed. -/
theorem doubled_edited_iff (yaml : SerdeYaml) (edits : List StoreEdit) (store : BackendStore)
    (id : String) :
    Doubled (store.edited yaml edits).entries id ↔
      Doubled store.entries id ∧ .remove id ∉ edits := by
  induction edits generalizing store with
  | nil => simp [edited]
  | cons edit rest ih =>
      have step : store.edited yaml (edit :: rest) = (edit.perform yaml store).edited yaml rest :=
        rfl
      rw [step, ih, doubled_perform_iff, List.mem_cons, not_or, and_assoc, eq_comm]

/-- The entries of the command line double nothing. -/
theorem doubled_new_iff (yaml : SerdeYaml) (disk : Systems.FileReplace.Disk String)
    (initial : List BackendEntry) (id : String) :
    Doubled (new yaml disk initial).entries id ↔ Doubled (loadEntries yaml disk.target) id := by
  rw [entries_new]
  generalize loadEntries yaml disk.target = loaded
  induction initial generalizing loaded with
  | nil => rfl
  | cons entry rest ih =>
      rw [List.foldl_cons, ih]
      cases stored : hasId loaded entry.backendId with
      | true => rfl
      | false =>
          have appended : keys (loaded ++ [entry]) = keys loaded ++ [entry.backendId] :=
            List.map_append
          rw [if_neg Bool.false_ne_true, Doubled, appended]
          exact doubled_append_iff stored

end BackendStore

/-! ## What the registry makes of the table -/

open BackendStore

/-- The store is the table, and the registry has the backends of its entries under their keys. -/
structure StoreDecides (host : Host) (env : ProcessEnv) (table : Table) (state : ConfigState) :
    Prop where
  distinct : (keys state.backendsConfig.list).Nodup
  listed : ∀ entry, entry ∈ state.backendsConfig.list ↔ table entry.backendId = some entry
  registered : ∀ after, state.applyBackendConfig host env = (.ok (), after) →
    ∀ id backend, after.backends.backends.lookup id = some backend ↔
      ∃ entry, table id = some entry ∧ backendFromEntry host.serde env entry = .ok backend

/-- Every entry of the table can be built. -/
def BackendStore.Table.Buildable (host : Host) (env : ProcessEnv) (table : Table) : Prop :=
  ∀ id entry, table id = some entry →
    ∃ backend, backendFromEntry host.serde env entry = .ok backend

/-- Every mock of the table is called `mock`. -/
def BackendStore.Table.MocksNamed (table : Table) : Prop :=
  ∀ id entry, table id = some entry → entry.provider = "mock" → id = "mock"

section Decides

variable {host : Host} {env : ProcessEnv} {state : ConfigState} {table : Table}

theorem mem_iff_find? {entries : List BackendEntry} (distinct : (keys entries).Nodup)
    (entry : BackendEntry) : entry ∈ entries ↔ find? entries entry.backendId = some entry := by
  constructor
  · intro mem
    obtain ⟨found, isFound⟩ := Option.isSome_iff_exists.mp
      (find?_isSome.trans (hasId_eq_true.mpr ⟨entry, mem, rfl⟩))
    have foundMem : found ∈ entries := List.mem_of_find?_eq_some isFound
    rw [isFound, List.inj_on_of_nodup_map distinct foundMem mem (find?_key isFound)]
  · exact List.mem_of_find?_eq_some

theorem applyBackendConfig_ok_iff {after : ConfigState} :
    state.applyBackendConfig host env = (.ok (), after) ↔
      ∃ built, buildBackends host.serde env state.backendsConfig.list = .ok built ∧
        after = { state with backends := .replaceAll built } := by
  unfold ConfigState.applyBackendConfig
  cases buildBackends host.serde env state.backendsConfig.list <;> simp [eq_comm]

theorem mocksNamed_iff (finds : find? state.backendsConfig.list = table)
    (distinct : (keys state.backendsConfig.list).Nodup) :
    table.MocksNamed ↔ MocksNamed state.backendsConfig.list := by
  subst finds
  constructor
  · intro named entry mem mock
    exact named entry.backendId entry ((mem_iff_find? distinct entry).mp mem) mock
  · intro named id entry found mock
    have key := find?_key found
    subst key
    exact named entry (List.mem_of_find?_eq_some found) mock

theorem exists_built (finds : find? state.backendsConfig.list = table)
    (distinct : (keys state.backendsConfig.list).Nodup) (buildable : table.Buildable host env) :
    ∃ built, buildBackends host.serde env state.backendsConfig.list = .ok built := by
  cases builds : buildBackends host.serde env state.backendsConfig.list with
  | ok built => exact ⟨built, rfl⟩
  | error message =>
      obtain ⟨entry, mem, fails⟩ := Accumulators.mapM_error_iff.mp ⟨message, builds⟩
      subst finds
      obtain ⟨backend, ok⟩ := buildable _ entry ((mem_iff_find? distinct entry).mp mem)
      rw [ok] at fails
      cases fails

theorem exists_backend {entries : List BackendEntry} {built : List Backend}
    (builds : buildBackends host.serde env entries = .ok built) {entry : BackendEntry}
    (mem : entry ∈ entries) : ∃ backend, backendFromEntry host.serde env entry = .ok backend := by
  cases fails : backendFromEntry host.serde env entry with
  | ok backend => exact ⟨backend, rfl⟩
  | error message =>
      have unread : ∃ item ∈ entries,
          (backendFromEntry host.serde env item).toOption = none := by
        refine ⟨entry, mem, ?_⟩
        rw [fails]
        rfl
      obtain ⟨error, all⟩ := Accumulators.mapM_error_iff.mpr unread
      rw [buildBackends, all] at builds
      cases builds

/-- The backends that are registered under the keys of their entries. -/
theorem registered_of_mocksNamed (finds : find? state.backendsConfig.list = table)
    (distinct : (keys state.backendsConfig.list).Nodup)
    (named : MocksNamed state.backendsConfig.list) {built : List Backend}
    (builds : buildBackends host.serde env state.backendsConfig.list = .ok built)
    {id : String} {backend : Backend} :
    (RegistryInner.replaceAll built).backends.lookup id = some backend ↔
      ∃ entry, table id = some entry ∧ backendFromEntry host.serde env entry = .ok backend := by
  subst finds
  have names : (built.map Backend.name).Nodup := names_buildBackends named builds ▸ distinct
  rw [RegistryInner.lookup_replaceAll names, mem_buildBackends builds]
  constructor
  · rintro ⟨⟨entry, mem, entryBuilds⟩, rfl⟩
    refine ⟨entry, ?_, entryBuilds⟩
    rw [name_of_mocksNamed named mem entryBuilds]
    exact (mem_iff_find? distinct entry).mp mem
  · rintro ⟨entry, found, entryBuilds⟩
    have mem := List.mem_of_find?_eq_some found
    exact ⟨⟨entry, mem, entryBuilds⟩,
      (name_of_mocksNamed named mem entryBuilds).trans (find?_key found)⟩

theorem storeDecides_of_find? (finds : find? state.backendsConfig.list = table) :
    StoreDecides host env table state ↔
      (keys state.backendsConfig.list).Nodup ∧
        (table.Buildable host env → table.MocksNamed) := by
  constructor
  · rintro ⟨distinct, -, registered⟩
    refine ⟨distinct, fun buildable id entry found mock => ?_⟩
    obtain ⟨built, builds⟩ := exists_built finds distinct buildable
    have mockBuilds : backendFromEntry host.serde env entry = .ok mockBackend := by
      simp only [backendFromEntry, fromStr_eq_mock.mpr mock]
    have stored := (registered _ (applyBackendConfig_ok_iff.mpr ⟨built, builds, rfl⟩) id
      mockBackend).mpr ⟨entry, found, mockBuilds⟩
    exact (RegistryInner.named _ stored).symm
  · rintro ⟨distinct, mocks⟩
    refine ⟨distinct, fun entry => ?_, fun after applied id backend => ?_⟩
    · rw [← finds]
      exact mem_iff_find? distinct entry
    · obtain ⟨built, builds, rfl⟩ := applyBackendConfig_ok_iff.mp applied
      refine registered_of_mocksNamed finds distinct ((mocksNamed_iff finds distinct).mp
        (mocks fun other entry found => ?_)) builds
      subst finds
      exact exists_backend builds (List.mem_of_find?_eq_some found)

end Decides

/--
After any edits the store is the table of what was stored last, and its registry follows
it, exactly when what the file has twice was removed and, if all entries can be built,
every mock is called `mock`.
-/
theorem store_decides_iff (host : Host) (env : ProcessEnv) (yaml : SerdeYaml)
    (disk : Systems.FileReplace.Disk String) (initial : List BackendEntry)
    (edits : List StoreEdit) (state : ConfigState)
    (store : state.backendsConfig = (BackendStore.new yaml disk initial).edited yaml edits) :
    StoreDecides host env (Table.latest (loadEntries yaml disk.target) initial edits) state ↔
      (∀ id, Doubled (loadEntries yaml disk.target) id → .remove id ∈ edits) ∧
        ((Table.latest (loadEntries yaml disk.target) initial edits).Buildable host env →
          (Table.latest (loadEntries yaml disk.target) initial edits).MocksNamed) := by
  have finds : find? state.backendsConfig.list =
      Table.latest (loadEntries yaml disk.target) initial edits := by
    rw [funext (find?_list state.backendsConfig), store]
    exact find?_edited yaml disk initial edits
  have sorted : (keys state.backendsConfig.list).Nodup ↔
      (keys state.backendsConfig.entries).Nodup :=
    ((List.perm_insertionSort _ state.backendsConfig.entries).map _).nodup_iff
  rw [storeDecides_of_find? finds, sorted, nodup_keys_iff, store]
  simp only [doubled_edited_iff, doubled_new_iff, not_and, not_not]

def deepseekWith (model : String) : BackendEntry where
  provider := "deepseek"
  models := [model]

/-- A file with these entries. -/
def fileOf (entries : List BackendEntry) : Systems.FileReplace.Disk String :=
  ⟨some (SerdeYaml.compact.toString entries), none⟩

theorem loadEntries_fileOf (entries : List BackendEntry) :
    loadEntries SerdeYaml.compact (fileOf entries).target = entries := by
  simp [loadEntries, fileOf, SerdeYaml.compact.fromSlice_toString]

/-- A server that has read a file, and then stored one more entry. -/
def storedOver (entries : List BackendEntry) (entry : BackendEntry) : ConfigState :=
  ⟨(BackendStore.new SerdeYaml.compact (fileOf entries) []).edited SerdeYaml.compact
    [.upsert entry], .empty, ∅, {}⟩

theorem entries_storedOver (entries : List BackendEntry) (entry : BackendEntry) :
    (storedOver entries entry).backendsConfig.entries = upsertEntry entry entries := by
  have opened : (BackendStore.new SerdeYaml.compact (fileOf entries) []).entries = entries := by
    rw [entries_new, loadEntries_fileOf]
    rfl
  exact congrArg (upsertEntry entry) opened

theorem store_decides_single :
    StoreDecides Host.compact ProcessEnv.none (Table.latest [deepseekWith "deepseek-chat"] []
        [.upsert (deepseekWith "deepseek-reasoner")])
      (storedOver [deepseekWith "deepseek-chat"] (deepseekWith "deepseek-reasoner")) := by
  have iff := store_decides_iff Host.compact ProcessEnv.none SerdeYaml.compact
    (fileOf [deepseekWith "deepseek-chat"]) [] [.upsert (deepseekWith "deepseek-reasoner")]
    (storedOver [deepseekWith "deepseek-chat"] (deepseekWith "deepseek-reasoner")) rfl
  rw [loadEntries_fileOf] at iff
  refine iff.mpr ⟨fun id doubled => ?_, fun _ id entry found mock => ?_⟩
  · exact absurd doubled ((nodup_keys_iff _).mp (by decide) id)
  · by_cases same : id = "deepseek"
    · subst same
      obtain rfl : deepseekWith "deepseek-reasoner" = entry := Option.some.inj found
      exact absurd mock (by decide)
    · simp [Table.latest, Table.edit, Table.opened, Function.update, find?, deepseekWith,
        BackendEntry.backendId, same, Ne.symm same] at found

/-- A key that the file has twice: its second entry is registered, whatever is stored. -/
theorem store_does_not_decide :
    ¬ ∀ host env yaml disk initial edits (state : ConfigState),
      state.backendsConfig = (BackendStore.new yaml disk initial).edited yaml edits →
      StoreDecides host env (Table.latest (loadEntries yaml disk.target) initial edits) state := by
  intro storeDecides
  have decides := storeDecides Host.compact ProcessEnv.none SerdeYaml.compact
    (fileOf [deepseekWith "first", deepseekWith "second"]) [] [.upsert (deepseekWith "third")]
    (storedOver [deepseekWith "first", deepseekWith "second"] (deepseekWith "third")) rfl
  rw [loadEntries_fileOf] at decides
  have list : (storedOver [deepseekWith "first", deepseekWith "second"]
      (deepseekWith "third")).backendsConfig.list =
        [deepseekWith "third", deepseekWith "second"] := by
    rw [BackendStore.list, entries_storedOver]
    decide
  obtain ⟨third, builds, -, thirdModels⟩ : ∃ backend,
      backendFromEntry Host.compact.serde ProcessEnv.none (deepseekWith "third") = .ok backend ∧
        backend.name = "deepseek" ∧ backend.models = ["third"] := ⟨_, rfl, rfl, rfl⟩
  obtain ⟨second, secondBuilds, secondName, secondModels⟩ : ∃ backend,
      backendFromEntry Host.compact.serde ProcessEnv.none (deepseekWith "second") = .ok backend ∧
        backend.name = "deepseek" ∧ backend.models = ["second"] := ⟨_, rfl, rfl, rfl⟩
  have applied := applyBackendConfig_ok_iff.mpr
    ⟨[third, second], list ▸ buildBackends_ok_iff.mpr (.cons builds (.cons secondBuilds .nil)), rfl⟩
  have stored := (decides.registered _ applied "deepseek" third).mpr
    ⟨deepseekWith "third", rfl, builds⟩
  have last : (RegistryInner.replaceAll [third, second]).backends.lookup "deepseek" =
      some second := by
    rw [← List.singleton_append, RegistryInner.replaceAll_concat, RegistryInner.lookup_register,
      if_pos secondName]
    rfl
  have same : second = third := Option.some.inj (last.symm.trans stored)
  rw [← same, secondModels] at thirdModels
  exact absurd thirdModels (by decide)

end AiPowerGateway.Share

import AiPowerGateway.Share.BackendAdmin
import AiPowerGateway.Share.ConfigFiles

/-!
# Rejected configuration changes

Memory, file and registry are three copies of one configuration.  A change that is
answered with 200 leaves them in step.  A change that is answered otherwise should
leave them as they were; it does so when it is refused before anything is stored.
-/

namespace AiPowerGateway.Share

open Systems

variable {host : Host} {env : ProcessEnv} {yaml : SerdeYaml} {outcome : SaveOutcome}

namespace ConfigState

/-- Memory, file and registry describe one list of entries. -/
def InStep (host : Host) (env : ProcessEnv) (yaml : SerdeYaml) (state : ConfigState) : Prop :=
  BackendStore.loadEntries yaml state.backendsConfig.disk.target = state.backendsConfig.list ∧
    ∃ built, buildBackends host.serde env state.backendsConfig.list = .ok built ∧
      state.backends = .replaceAll built

/-- The same memory, file and registry. -/
structure Unchanged (before after : ConfigState) : Prop where
  entries : after.backendsConfig.entries = before.backendsConfig.entries
  file : after.backendsConfig.disk.target = before.backendsConfig.disk.target
  registry : after.backends = before.backends

theorem Unchanged.refl (state : ConfigState) : state.Unchanged state := ⟨rfl, rfl, rfl⟩

end ConfigState

/-- A request that changes the configured backends. -/
inductive ConfigRequest where
  | set (body : Json)
  | delete (id : String)

namespace ConfigRequest

def handle (host : Host) (env : ProcessEnv) (yaml : SerdeYaml) (outcome : SaveOutcome)
    (state : ConfigState) : ConfigRequest → Reply × ConfigState
  | .set body => apiBackendsSet host env yaml outcome body state
  | .delete id => apiBackendsDelete host env yaml outcome id state

/-- The entries that a request wants to store; none when it is refused. -/
def wanted? (host : Host) (env : ProcessEnv) (store : BackendStore) :
    ConfigRequest → Option (List BackendEntry)
  | .set body =>
      (postedEntry host env store.list body).toOption.map
        (BackendStore.upsertEntry · store.entries)
  | .delete id =>
      if BackendStore.hasId store.entries id then some (BackendStore.removeEntry id store.entries)
      else none

end ConfigRequest

/-- An accepted change is in every copy, a rejected one in none. -/
def AllOrNothing (host : Host) (env : ProcessEnv) (yaml : SerdeYaml) (before : ConfigState)
    (answer : Reply × ConfigState) : Prop :=
  if answer.1.status = 200 then answer.2.InStep host env yaml else before.Unchanged answer.2

/-- The file steps of a save that fails take the old file away. -/
def LosesFile (outcome : SaveOutcome) (store : BackendStore) : Prop :=
  outcome.dirReady = true ∧ FileReplace.Interrupted 3 outcome.steps ∧ store.disk.target ≠ none

/--
Storing these entries leaves no half-made change: the save and the rebuild succeed, or
the entries are the stored ones and what fails leaves the text of the file.
-/
def Commits (host : Host) (env : ProcessEnv) (yaml : SerdeYaml) (outcome : SaveOutcome)
    (store : BackendStore) (entries : List BackendEntry) : Prop :=
  if outcome.succeeds then
    (∃ built, buildBackends host.serde env (BackendStore.sortEntries entries) = .ok built) ∨
      entries = store.entries ∧ store.disk.target = some (yaml.toString store.list)
  else entries = store.entries ∧ ¬ LosesFile outcome store

/-! ## Storing new entries -/

namespace ConfigState

/-- The memory holds these entries, and nothing else has changed yet. -/
def stored (entries : List BackendEntry) (state : ConfigState) : ConfigState :=
  { state with backendsConfig := { state.backendsConfig with entries := entries } }

theorem target_save_of_failed (yaml : SerdeYaml) (failed : outcome.succeeds = false)
    (store : BackendStore) :
    (store.save yaml outcome).2.disk.target = store.disk.target ↔ ¬ LosesFile outcome store := by
  unfold BackendStore.save LosesFile
  cases ready : outcome.dirReady with
  | false => simp
  | true =>
      have steps : outcome.steps.replaced = false := by
        simpa [SaveOutcome.succeeds, ready] using failed
      simpa using FileReplace.target_of_failed steps (yaml.toString store.list) store.disk

theorem saveAndApply_failed (host : Host) (env : ProcessEnv) (yaml : SerdeYaml)
    (failed : outcome.succeeds = false) (state : ConfigState) :
    ∃ message, state.saveAndApply host env yaml outcome = (.error message,
      { state with backendsConfig := (state.backendsConfig.save yaml outcome).2 }) := by
  have answer := BackendStore.save_isOk yaml outcome state.backendsConfig
  unfold saveAndApply
  cases saved : state.backendsConfig.save yaml outcome with
  | mk result store =>
      cases result with
      | error error => exact ⟨_, rfl⟩
      | ok done =>
          rw [saved, failed] at answer
          exact absurd (answer.mp rfl) Bool.false_ne_true

theorem saveAndApply_saved (host : Host) (env : ProcessEnv) (yaml : SerdeYaml)
    (succeeds : outcome.succeeds = true) (state : ConfigState) :
    state.saveAndApply host env yaml outcome = applyBackendConfig host env
      { state with backendsConfig := (state.backendsConfig.save yaml outcome).2 } := by
  have answer := (BackendStore.save_isOk yaml outcome state.backendsConfig).mpr succeeds
  unfold saveAndApply
  cases saved : state.backendsConfig.save yaml outcome with
  | mk result store =>
      rw [saved] at answer
      subst answer
      rfl

/-- A failing save changes the memory, and the file when it takes the old one away. -/
theorem unchanged_of_failed (host : Host) (env : ProcessEnv) (yaml : SerdeYaml)
    (failed : outcome.succeeds = false) (entries : List BackendEntry)
    (state : ConfigState) :
    state.Unchanged ((state.stored entries).saveAndApply host env yaml outcome).2 ↔
      entries = state.backendsConfig.entries ∧ ¬ LosesFile outcome state.backendsConfig := by
  obtain ⟨message, answer⟩ := saveAndApply_failed host env yaml failed (state.stored entries)
  have file := target_save_of_failed yaml failed (state.stored entries).backendsConfig
  rw [answer]
  constructor
  · rintro ⟨memory, target, -⟩
    rw [BackendStore.save_entries] at memory
    exact ⟨memory, file.mp target⟩
  · rintro ⟨memory, keeps⟩
    exact ⟨(BackendStore.save_entries yaml outcome _).trans memory, file.mpr keeps, rfl⟩

/-- What is listed after a save, whatever becomes of the file. -/
theorem list_save_stored (yaml : SerdeYaml) (outcome : SaveOutcome) (entries : List BackendEntry)
    (state : ConfigState) :
    ((state.stored entries).backendsConfig.save yaml outcome).2.list =
      BackendStore.sortEntries entries := by
  rw [BackendStore.list, BackendStore.save_entries]
  rfl

/-- After a save the copies are in step, unless the rebuild fails. -/
theorem saveAndApply_built (yaml : SerdeYaml) (succeeds : outcome.succeeds = true)
    {entries : List BackendEntry} {built : List Backend}
    (builds : buildBackends host.serde env (BackendStore.sortEntries entries) = .ok built)
    (state : ConfigState) :
    ∃ after, (state.stored entries).saveAndApply host env yaml outcome = (.ok (), after) ∧
      after.InStep host env yaml := by
  have saved := BackendStore.loadEntries_save yaml succeeds
    (state.stored entries).backendsConfig
  have list := list_save_stored yaml outcome entries state
  refine ⟨{ state.stored entries with
    backendsConfig := ((state.stored entries).backendsConfig.save yaml outcome).2
    backends := .replaceAll built }, ?_, ?_, built, ?_, rfl⟩
  · simp only [saveAndApply_saved host env yaml succeeds, applyBackendConfig, list, builds]
  · rw [list, saved]
    simp only [BackendStore.loadEntries, Option.bind_some, yaml.fromSlice_toString]
    rfl
  · rw [list, builds]

/-- A rebuild that fails comes too late: the file has been written already. -/
theorem saveAndApply_unbuilt (yaml : SerdeYaml) (succeeds : outcome.succeeds = true)
    {entries : List BackendEntry} {error : String}
    (unbuilt : buildBackends host.serde env (BackendStore.sortEntries entries) = .error error)
    (state : ConfigState) :
    ∃ message after,
      (state.stored entries).saveAndApply host env yaml outcome = (.error message, after) ∧
        (state.Unchanged after ↔ entries = state.backendsConfig.entries ∧
          state.backendsConfig.disk.target = some (yaml.toString state.backendsConfig.list)) := by
  have saved := BackendStore.loadEntries_save yaml succeeds
    (state.stored entries).backendsConfig
  have memory := BackendStore.save_entries yaml outcome (state.stored entries).backendsConfig
  have list := list_save_stored yaml outcome entries state
  refine ⟨"rebuild backends: " ++ error, { state.stored entries with
    backendsConfig := ((state.stored entries).backendsConfig.save yaml outcome).2 }, ?_, ?_⟩
  · simp only [saveAndApply_saved host env yaml succeeds, applyBackendConfig, list, unbuilt]
  · constructor
    · rintro ⟨same, file, -⟩
      have same : entries = state.backendsConfig.entries := memory.symm.trans same
      subst same
      exact ⟨rfl, file.symm.trans saved⟩
    · rintro ⟨rfl, file⟩
      exact ⟨memory, saved.trans file.symm, rfl⟩

end ConfigState

/-! ## The two handlers -/

theorem ConfigState.InStep.congr {state other : ConfigState}
    (store : other.backendsConfig = state.backendsConfig)
    (registry : other.backends = state.backends)
    (inStep : state.InStep host env yaml) : other.InStep host env yaml := by
  unfold ConfigState.InStep at *
  rw [store, registry]
  exact inStep

/-- An answer that passes on how saving and rebuilding went. -/
theorem allOrNothing_stored_iff {entries : List BackendEntry} {state : ConfigState}
    {answer : Reply × ConfigState}
    (rejects : ∀ message after,
      (state.stored entries).saveAndApply host env yaml outcome = (.error message, after) →
        answer.1.status ≠ 200 ∧ answer.2 = after)
    (accepts : ∀ after,
      (state.stored entries).saveAndApply host env yaml outcome = (.ok (), after) →
        answer.1.status = 200 ∧ answer.2.backendsConfig = after.backendsConfig ∧
          answer.2.backends = after.backends) :
    AllOrNothing host env yaml state answer ↔
      Commits host env yaml outcome state.backendsConfig entries := by
  unfold AllOrNothing Commits
  cases succeeds : outcome.succeeds with
  | false =>
      have failed := ConfigState.unchanged_of_failed host env yaml succeeds entries state
      obtain ⟨message, stored⟩ :=
        ConfigState.saveAndApply_failed host env yaml succeeds (state.stored entries)
      obtain ⟨status, same⟩ := rejects _ _ stored
      rw [stored] at failed
      rw [if_neg status, same, if_neg Bool.false_ne_true]
      exact failed
  | true =>
      rw [if_pos rfl]
      cases builds : buildBackends host.serde env (BackendStore.sortEntries entries) with
      | ok built =>
          obtain ⟨after, stored, inStep⟩ :=
            ConfigState.saveAndApply_built yaml succeeds builds state
          obtain ⟨status, store, registry⟩ := accepts _ stored
          simp [status, inStep.congr store registry]
      | error error =>
          obtain ⟨message, after, stored, unchanged⟩ :=
            ConfigState.saveAndApply_unbuilt yaml succeeds builds state
          obtain ⟨status, same⟩ := rejects _ _ stored
          simp [status, same, unchanged]

theorem apiBackendsSet_iff (body : Json) (state : ConfigState) :
    AllOrNothing host env yaml state (apiBackendsSet host env yaml outcome body state) ↔
      ∀ entry, postedEntry host env state.backendsConfig.list body = .ok entry →
        Commits host env yaml outcome state.backendsConfig
          (BackendStore.upsertEntry entry state.backendsConfig.entries) := by
  unfold apiBackendsSet
  cases posted : postedEntry host env state.backendsConfig.list body with
  | error message => simp [AllOrNothing, errorReply, jsonReply, ConfigState.Unchanged.refl]
  | ok entry =>
      have upserted : { state with backendsConfig := state.backendsConfig.upsert entry } =
          state.stored (BackendStore.upsertEntry entry state.backendsConfig.entries) := rfl
      simp only [Except.ok.injEq, forall_eq', upserted]
      apply allOrNothing_stored_iff
      · intro message after stored
        simp [stored, errorReply, jsonReply]
      · intro after stored
        simp [stored, jsonReply]

theorem apiBackendsDelete_iff (id : String) (state : ConfigState) :
    AllOrNothing host env yaml state (apiBackendsDelete host env yaml outcome id state) ↔
      (BackendStore.hasId state.backendsConfig.entries id = true →
        Commits host env yaml outcome state.backendsConfig
          (BackendStore.removeEntry id state.backendsConfig.entries)) := by
  have found := BackendStore.remove_fst id state.backendsConfig
  unfold apiBackendsDelete
  cases removal : state.backendsConfig.remove id with
  | mk answer store =>
      rw [removal] at found
      cases answer with
      | false => simp [AllOrNothing, errorReply, jsonReply, ConfigState.Unchanged.refl, ← found]
      | true =>
          have removed : { state with backendsConfig := store } =
              state.stored (BackendStore.removeEntry id state.backendsConfig.entries) := by
            have kept : store = (state.backendsConfig.remove id).2 := by rw [removal]
            rw [kept]
            rfl
          simp only [← found, removed, forall_const]
          apply allOrNothing_stored_iff
          · intro message after stored
            simp [stored, errorReply, jsonReply]
          · intro after stored
            simp [stored, jsonReply]

/--
A request that is not answered with 200 has changed nothing, and one that is leaves all
copies in step, exactly when what it wants to store, if anything, commits.
-/
theorem change_all_or_nothing_iff (host : Host) (env : ProcessEnv) (yaml : SerdeYaml)
    (outcome : SaveOutcome) (state : ConfigState) (request : ConfigRequest) :
    AllOrNothing host env yaml state (request.handle host env yaml outcome state) ↔
      ∀ entries ∈ request.wanted? host env state.backendsConfig,
        Commits host env yaml outcome state.backendsConfig entries := by
  cases request with
  | set body =>
      rw [ConfigRequest.handle, apiBackendsSet_iff]
      cases posted : postedEntry host env state.backendsConfig.list body <;>
        simp [ConfigRequest.wanted?, posted, Except.toOption]
  | delete id =>
      rw [ConfigRequest.handle, apiBackendsDelete_iff]
      cases stored : BackendStore.hasId state.backendsConfig.entries id <;>
        simp [ConfigRequest.wanted?, stored]

/-- The directory of the file cannot be created. -/
def noDirectory : SaveOutcome := { dirReady := false, error := "permission denied" }

def deepseekBody : Json := .obj [("provider", .str "deepseek"), ("apiKey", .str "sk-1")]

/-- On a fresh server a backend whose save fails is answered 500 and stays in the memory. -/
theorem rejected_backend_stays :
    ¬ ∀ host env yaml disk initial state,
      ConfigState.withEntries host env yaml disk initial = .ok state →
        ∀ outcome (request : ConfigRequest),
          AllOrNothing host env yaml state (request.handle host env yaml outcome state) := by
  intro allOrNothing
  have started : ConfigState.withEntries Host.compact ProcessEnv.none SerdeYaml.compact
      ⟨Option.none, Option.none⟩ [] =
        .ok ⟨⟨[], ⟨Option.none, Option.none⟩⟩, .empty, ∅, {}⟩ := rfl
  have holds := allOrNothing _ _ _ _ _ _ started noDirectory (.set deepseekBody)
  have answered : ((ConfigRequest.set deepseekBody).handle Host.compact ProcessEnv.none
      SerdeYaml.compact noDirectory
      ⟨⟨[], ⟨Option.none, Option.none⟩⟩, .empty, ∅, {}⟩).1.status = 500 := by decide
  rw [AllOrNothing, if_neg (by rw [answered]; decide)] at holds
  exact absurd holds.entries (by decide)

end AiPowerGateway.Share

import AiPowerGateway.Collections.StableOrder
import AiPowerGateway.Share.ConfigChanges

/-!
# Editing a configured backend

A `POST` for a backend that exists stores an entry that is built from the body alone; only
the keys are taken over from the old entry.  What else the body leaves out is lost.
-/

namespace AiPowerGateway.Share

/-! ## The fields of the form -/

/-- The optional fields; the two kinds of key are one field, as are the two of models. -/
inductive EditField where
  | key
  | models
  | baseUrl
  | splitRatio
  | listingId
  deriving DecidableEq, Repr

/-- The names that a body lists, else its single model; each name once. -/
def submittedModels (body : Json) : List String :=
  (if bodyModels body = [] then (bodyField body "model").toList else bodyModels body).eraseDups

namespace EditField

/-- The body gives a value for the field; a blank one counts as left out. -/
def givenBy (body : Json) : EditField → Bool
  | .key => (bodyField body "apiKey").isSome || (bodyField body "apiKeyEnv").isSome
  | .models => bodyModels body ≠ [] || (bodyField body "model").isSome
  | .baseUrl => (bodyField body "baseUrl").isSome
  | .splitRatio => ((body.get? "splitRatio").bind Json.asF64?).isSome
  | .listingId => (bodyField body "listingId").isSome

/-- The entry has the values that the body gives for the field. -/
def Submitted (body : Json) (entry : BackendEntry) : EditField → Prop
  | .key => entry.apiKey = bodyField body "apiKey" ∧ entry.apiKeyEnv = bodyField body "apiKeyEnv"
  | .models => entry.models = submittedModels body ∧ entry.model = none
  | .baseUrl => entry.baseUrl = bodyField body "baseUrl"
  | .splitRatio => entry.splitRatio = (body.get? "splitRatio").bind Json.asF64?
  | .listingId => entry.listingId = bodyField body "listingId"

/-- Two entries have the same values of the field. -/
def Agrees (first second : BackendEntry) : EditField → Prop
  | .key => first.apiKey = second.apiKey ∧ first.apiKeyEnv = second.apiKeyEnv
  | .models => first.models = second.models ∧ first.model = second.model
  | .baseUrl => first.baseUrl = second.baseUrl
  | .splitRatio => first.splitRatio = second.splitRatio
  | .listingId => first.listingId = second.listingId

/-- The entry has no value of the field. -/
def Unset (entry : BackendEntry) : EditField → Prop
  | .key => entry.apiKey = none ∧ entry.apiKeyEnv = none
  | .models => entry.models = [] ∧ entry.model = none
  | .baseUrl => entry.baseUrl = none
  | .splitRatio => entry.splitRatio = none
  | .listingId => entry.listingId = none

end EditField

/-- The stored entry has what the body gives, and of the old one what it leaves out. -/
def EditKept (body : Json) (old stored : BackendEntry) : Prop :=
  ∀ field : EditField,
    if field.givenBy body then field.Submitted body stored else field.Agrees stored old

/-- The accepted request kept what the body leaves out, and it changes nothing again. -/
structure EditPreserves (host : Host) (env : ProcessEnv) (yaml : SerdeYaml) (body : Json)
    (id : String) (old : BackendEntry) (after : ConfigState) : Prop where
  kept : ∃ stored, BackendStore.find? after.backendsConfig.entries id = some stored ∧
    EditKept body old stored
  repeats : ∀ outcome,
    (apiBackendsSet host env yaml outcome body after).2.backendsConfig.entries =
      after.backendsConfig.entries
  settled : ∀ outcome : SaveOutcome, outcome.succeeds = true →
    (apiBackendsSet host env yaml outcome body after).2 = after

/-! ## The entry of a body -/

section Entry

variable {body : Json} {entry : BackendEntry}

/-- Every field is the submitted one. -/
theorem submitted_of_entryFromBody (parsed : entryFromBody body = .ok entry)
    (field : EditField) : field.Submitted body entry := by
  unfold entryFromBody at parsed
  cases provider : bodyProvider body with
  | error message => simp [provider] at parsed
  | ok name =>
      simp only [provider] at parsed
      split at parsed
      · cases parsed
      · cases parsed
        cases field with
        | key | models => exact ⟨rfl, rfl⟩
        | baseUrl | splitRatio | listingId => rfl

/-- A field that is left out has no value. -/
theorem unset_of_submitted {field : EditField} (absent : field.givenBy body = false)
    (submitted : field.Submitted body entry) : field.Unset entry := by
  cases field with
  | key =>
      simp only [EditField.givenBy, Bool.or_eq_false_iff, Option.isSome_eq_false_iff,
        Option.isNone_iff_eq_none] at absent
      exact ⟨submitted.1.trans absent.1, submitted.2.trans absent.2⟩
  | models =>
      simp only [EditField.givenBy, Bool.or_eq_false_iff, Option.isSome_eq_false_iff,
        Option.isNone_iff_eq_none, decide_eq_false_iff_not, not_not] at absent
      refine ⟨submitted.1.trans ?_, submitted.2⟩
      rw [submittedModels, if_pos absent.1, absent.2]
      rfl
  | baseUrl | splitRatio | listingId =>
      exact submitted.trans (Option.isNone_iff_eq_none.mp (Option.isSome_eq_false_iff.mp absent))

theorem agrees_of_unset {first second : BackendEntry} {field : EditField}
    (firstUnset : field.Unset first) (secondUnset : field.Unset second) :
    field.Agrees first second := by
  cases field with
  | key | models =>
      exact ⟨firstUnset.1.trans secondUnset.1.symm, firstUnset.2.trans secondUnset.2.symm⟩
  | baseUrl | splitRatio | listingId => exact firstUnset.trans secondUnset.symm

theorem submitted_of_agrees {first second : BackendEntry} {field : EditField}
    (agrees : field.Agrees first second) (submitted : field.Submitted body first) :
    field.Submitted body second := by
  cases field with
  | key | models => exact ⟨agrees.1.symm.trans submitted.1, agrees.2.symm.trans submitted.2⟩
  | baseUrl | splitRatio | listingId => exact agrees.symm.trans submitted

theorem unset_of_agrees {first second : BackendEntry} {field : EditField}
    (agrees : field.Agrees first second) (firstUnset : field.Unset first) :
    field.Unset second := by
  cases field with
  | key | models => exact ⟨agrees.1.symm.trans firstUnset.1, agrees.2.symm.trans firstUnset.2⟩
  | baseUrl | splitRatio | listingId => exact agrees.symm.trans firstUnset

end Entry

/-! ## The inherited keys -/

section Keys

variable {body : Json} {entries : List BackendEntry} {parsed old : BackendEntry}

theorem backendId_inheritKeys (entries : List BackendEntry) (entry : BackendEntry) :
    (inheritKeys entries entry).backendId = entry.backendId := by
  unfold inheritKeys
  split
  · rfl
  · split <;> rfl

theorem inheritKeys_of_given (given : (parsed.apiKey.isSome || parsed.apiKeyEnv.isSome) = true) :
    inheritKeys entries parsed = parsed := if_pos given

theorem inheritKeys_of_absent
    (absent : (parsed.apiKey.isSome || parsed.apiKeyEnv.isSome) = false)
    (found : BackendStore.find? entries parsed.backendId = some old) :
    inheritKeys entries parsed =
      { parsed with apiKey := old.apiKey, apiKeyEnv := old.apiKeyEnv } := by
  rw [inheritKeys, absent, if_neg Bool.false_ne_true, found]

/-- An entry that has its keys keeps them when it is posted over itself. -/
theorem inheritKeys_again {others : List BackendEntry}
    (found : BackendStore.find? others parsed.backendId = some (inheritKeys entries parsed)) :
    inheritKeys others parsed = inheritKeys entries parsed := by
  cases given : parsed.apiKey.isSome || parsed.apiKeyEnv.isSome with
  | true => rw [inheritKeys_of_given given, inheritKeys_of_given given]
  | false =>
      rw [inheritKeys_of_absent given found]
      unfold inheritKeys
      rw [given, if_neg Bool.false_ne_true]
      split <;> rfl

/-- The fields other than the keys are those of the body. -/
theorem agrees_inheritKeys (entries : List BackendEntry) (parsed : BackendEntry)
    {field : EditField} (noKey : field ≠ .key) :
    field.Agrees parsed (inheritKeys entries parsed) := by
  unfold inheritKeys
  split
  · cases field <;> simp [EditField.Agrees]
  · split <;> cases field <;> simp_all [EditField.Agrees]

/-- The keys are never lost. -/
theorem key_inheritKeys (fromBody : entryFromBody body = .ok parsed)
    (found : BackendStore.find? entries parsed.backendId = some old) :
    if EditField.givenBy body .key then EditField.Submitted body (inheritKeys entries parsed) .key
    else EditField.Agrees (inheritKeys entries parsed) old .key := by
  have submitted := submitted_of_entryFromBody fromBody .key
  have keys : EditField.givenBy body .key = (parsed.apiKey.isSome || parsed.apiKeyEnv.isSome) := by
    rw [submitted.1, submitted.2, EditField.givenBy]
  rw [keys]
  cases given : parsed.apiKey.isSome || parsed.apiKeyEnv.isSome with
  | true =>
      rw [if_pos rfl, inheritKeys_of_given given]
      exact submitted
  | false =>
      rw [if_neg Bool.false_ne_true, inheritKeys_of_absent given found]
      exact ⟨rfl, rfl⟩

/-- What the entry keeps beside its keys. -/
theorem editKept_inheritKeys_iff (fromBody : entryFromBody body = .ok parsed)
    (found : BackendStore.find? entries parsed.backendId = some old) :
    EditKept body old (inheritKeys entries parsed) ↔
      ∀ field : EditField, field ≠ .key → field.givenBy body = false → field.Unset old := by
  have submitted := submitted_of_entryFromBody fromBody
  have unset : ∀ field : EditField, field ≠ .key → field.givenBy body = false →
      field.Unset (inheritKeys entries parsed) := fun field noKey absent =>
    unset_of_agrees (agrees_inheritKeys entries parsed noKey)
      (unset_of_submitted absent (submitted field))
  constructor
  · intro kept field noKey absent
    have agrees := kept field
    rw [absent, if_neg Bool.false_ne_true] at agrees
    exact unset_of_agrees agrees (unset field noKey absent)
  · intro covered field
    by_cases isKey : field = .key
    · subst isKey
      exact key_inheritKeys fromBody found
    · cases given : field.givenBy body with
      | true =>
          rw [if_pos rfl]
          exact submitted_of_agrees (agrees_inheritKeys entries parsed isKey) (submitted field)
      | false =>
          rw [if_neg Bool.false_ne_true]
          exact agrees_of_unset (unset field isKey given) (covered field isKey given)

end Keys

/-! ## The accepted request -/

section Accepted

variable {host : Host} {env : ProcessEnv} {yaml : SerdeYaml} {outcome : SaveOutcome}
variable {body : Json} {state : ConfigState}

theorem postedEntry_ok_iff {entries : List BackendEntry} {posted : BackendEntry} :
    postedEntry host env entries body = .ok posted ↔
      ∃ parsed, entryFromBody body = .ok parsed ∧ inheritKeys entries parsed = posted ∧
        ∃ backend, backendFromEntry host.serde env posted = .ok backend := by
  unfold postedEntry
  cases entryFromBody body with
  | error message => simp
  | ok parsed =>
      simp only [Except.ok.injEq, exists_eq_left']
      cases built : backendFromEntry host.serde env (inheritKeys entries parsed) with
      | error message =>
          simp only [reduceCtorEq, false_iff, not_and]
          rintro rfl
          simp [built]
      | ok backend =>
          simp only [Except.ok.injEq, iff_self_and]
          rintro rfl
          exact ⟨backend, built⟩

/-- The first entry of a key is the same in the sorted list. -/
theorem find?_list (store : BackendStore) (id : String) :
    BackendStore.find? store.list id = BackendStore.find? store.entries id := by
  have sorts : StableOrder.IsStableOrder BackendEntry.backendId store.entries store.list :=
    StableOrder.isStableOrder_insertionSort (fun _ _ => not_lt) store.entries
  have first := congrArg List.head? (sorts.stable id)
  rw [List.head?_filter, List.head?_filter] at first
  exact first

/-- A posted entry is posted again. -/
theorem postedEntry_again {posted : BackendEntry} {after : ConfigState}
    (first : postedEntry host env state.backendsConfig.list body = .ok posted)
    (found : BackendStore.find? after.backendsConfig.entries posted.backendId = some posted) :
    postedEntry host env after.backendsConfig.list body = .ok posted := by
  obtain ⟨parsed, fromBody, rfl, built⟩ := postedEntry_ok_iff.mp first
  refine postedEntry_ok_iff.mpr ⟨parsed, fromBody, inheritKeys_again ?_, built⟩
  rw [find?_list, ← backendId_inheritKeys, found]

theorem saveAndApply_entries (host : Host) (env : ProcessEnv) (yaml : SerdeYaml)
    (outcome : SaveOutcome) (state : ConfigState) :
    (state.saveAndApply host env yaml outcome).2.backendsConfig.entries =
      state.backendsConfig.entries := by
  have saved := BackendStore.save_entries yaml outcome state.backendsConfig
  cases succeeds : outcome.succeeds with
  | false =>
      obtain ⟨message, answer⟩ := ConfigState.saveAndApply_failed host env yaml succeeds state
      rw [answer]
      exact saved
  | true =>
      rw [ConfigState.saveAndApply_saved host env yaml succeeds, ConfigState.applyBackendConfig]
      split <;> exact saved

/-- Whatever is answered, the posted entry is stored. -/
theorem entries_apiBackendsSet (yaml : SerdeYaml) (outcome : SaveOutcome) {posted : BackendEntry}
    (accepted : postedEntry host env state.backendsConfig.list body = .ok posted) :
    (apiBackendsSet host env yaml outcome body state).2.backendsConfig.entries =
      BackendStore.upsertEntry posted state.backendsConfig.entries := by
  have stored := saveAndApply_entries host env yaml outcome
    { state with backendsConfig := state.backendsConfig.upsert posted }
  rw [apiBackendsSet, accepted]
  dsimp only
  split
  · next failed => exact (congrArg (·.2.backendsConfig.entries) failed).symm.trans stored
  · next applied => exact (congrArg (·.2.backendsConfig.entries) applied).symm.trans stored

/-- New entries in the list, in the file and in the registry. -/
def ConfigState.rebuilt (yaml : SerdeYaml) (entries : List BackendEntry) (built : List Backend)
    (state : ConfigState) : ConfigState :=
  { state with
    backendsConfig := ⟨entries, ⟨some (yaml.toString (BackendStore.sortEntries entries)), none⟩⟩
    backends := .replaceAll built }

theorem saveAndApply_stored_ok_iff {entries : List BackendEntry} {after : ConfigState} :
    (state.stored entries).saveAndApply host env yaml outcome = (.ok (), after) ↔
      outcome.succeeds = true ∧ ∃ built,
        buildBackends host.serde env (BackendStore.sortEntries entries) = .ok built ∧
          after = state.rebuilt yaml entries built := by
  cases succeeds : outcome.succeeds with
  | false =>
      obtain ⟨message, answer⟩ :=
        ConfigState.saveAndApply_failed host env yaml succeeds (state.stored entries)
      simp [answer]
  | true =>
      rw [ConfigState.saveAndApply_saved host env yaml succeeds,
        BackendStore.save_of_succeeds yaml succeeds]
      cases builds : buildBackends host.serde env (BackendStore.sortEntries entries) with
      | error message =>
          simp [ConfigState.applyBackendConfig, BackendStore.list, ConfigState.stored, builds]
      | ok built =>
          simp [ConfigState.applyBackendConfig, BackendStore.list, ConfigState.stored, builds,
            ConfigState.rebuilt, eq_comm]

/-- What a request that is answered with 200 has done. -/
theorem rebuilt_of_accepted
    (accepted : (apiBackendsSet host env yaml outcome body state).1.status = 200) :
    ∃ posted built, postedEntry host env state.backendsConfig.list body = .ok posted ∧
      buildBackends host.serde env (BackendStore.sortEntries
        (BackendStore.upsertEntry posted state.backendsConfig.entries)) = .ok built ∧
      (apiBackendsSet host env yaml outcome body state).2 = state.rebuilt yaml
        (BackendStore.upsertEntry posted state.backendsConfig.entries) built := by
  have upserted (posted : BackendEntry) :
      { state with backendsConfig := state.backendsConfig.upsert posted } =
        state.stored (BackendStore.upsertEntry posted state.backendsConfig.entries) := rfl
  unfold apiBackendsSet at accepted ⊢
  cases posts : postedEntry host env state.backendsConfig.list body with
  | error message => simp [posts, errorReply, jsonReply] at accepted
  | ok posted =>
      simp only [posts, upserted] at accepted ⊢
      cases applied : (state.stored (BackendStore.upsertEntry posted
          state.backendsConfig.entries)).saveAndApply host env yaml outcome with
      | mk result after =>
          cases result with
          | error message => simp [applied, errorReply, jsonReply] at accepted
          | ok done =>
              obtain ⟨-, built, builds, rfl⟩ := saveAndApply_stored_ok_iff.mp applied
              exact ⟨posted, built, rfl, builds, rfl⟩

/-- Posting an entry that is stored already, when all backends can be built. -/
theorem apiBackendsSet_again {posted : BackendEntry} {built : List Backend}
    (succeeds : outcome.succeeds = true)
    (posts : postedEntry host env state.backendsConfig.list body = .ok posted)
    (stored : BackendStore.upsertEntry posted state.backendsConfig.entries =
      state.backendsConfig.entries)
    (builds : buildBackends host.serde env state.backendsConfig.list = .ok built) :
    (apiBackendsSet host env yaml outcome body state).2 =
      state.rebuilt yaml state.backendsConfig.entries built := by
  have upserted : { state with backendsConfig := state.backendsConfig.upsert posted } =
      state.stored state.backendsConfig.entries := by
    rw [BackendStore.upsert, stored, ConfigState.stored]
  have applied : (state.stored state.backendsConfig.entries).saveAndApply host env yaml outcome =
      (.ok (), state.rebuilt yaml state.backendsConfig.entries built) :=
    saveAndApply_stored_ok_iff.mpr ⟨succeeds, built, builds, rfl⟩
  simp only [apiBackendsSet, posts, upserted, applied]

/-- The entry that is stored is the one of the body with its inherited keys. -/
theorem stored_of_accepted {entry : BackendEntry} (fromBody : entryFromBody body = .ok entry)
    (accepted : (apiBackendsSet host env yaml outcome body state).1.status = 200) :
    BackendStore.find?
        (apiBackendsSet host env yaml outcome body state).2.backendsConfig.entries
        entry.backendId =
      some (inheritKeys state.backendsConfig.list entry) := by
  obtain ⟨posted, built, posts, -, after⟩ := rebuilt_of_accepted accepted
  obtain ⟨parsed, sameBody, rfl, -⟩ := postedEntry_ok_iff.mp posts
  obtain rfl : entry = parsed := Except.ok.inj (fromBody.symm.trans sameBody)
  rw [after, ← backendId_inheritKeys state.backendsConfig.list entry]
  exact BackendStore.find?_upsertEntry_self _ _

/-- A request that has been answered with 200 can be sent again. -/
theorem repeats_of_accepted
    (accepted : (apiBackendsSet host env yaml outcome body state).1.status = 200) :
    let after := (apiBackendsSet host env yaml outcome body state).2
    (∀ again, (apiBackendsSet host env yaml again body after).2.backendsConfig.entries =
      after.backendsConfig.entries) ∧
    ∀ again : SaveOutcome, again.succeeds = true →
      (apiBackendsSet host env yaml again body after).2 = after := by
  intro after
  obtain ⟨posted, built, posts, builds, answered⟩ := rebuilt_of_accepted accepted
  have rebuilt : after =
      state.rebuilt yaml (BackendStore.upsertEntry posted state.backendsConfig.entries) built :=
    answered
  have found : BackendStore.find? after.backendsConfig.entries posted.backendId = some posted := by
    rw [rebuilt]
    exact BackendStore.find?_upsertEntry_self posted state.backendsConfig.entries
  have postsAgain := postedEntry_again posts found
  have stored := BackendStore.upsertEntry_eq_self.mpr found
  refine ⟨fun again => ?_, fun again succeeds => ?_⟩
  · rw [entries_apiBackendsSet yaml again postsAgain, stored]
  · have buildsAgain : buildBackends host.serde env after.backendsConfig.list = .ok built := by
      rw [rebuilt]
      exact builds
    rw [apiBackendsSet_again succeeds postsAgain stored buildsAgain, rebuilt]
    rfl

end Accepted

/--
An accepted edit keeps what the body leaves out exactly when, the keys apart, there was
nothing to keep.  The state is the one that the answer leaves, before the probe writes to it.
-/
theorem edit_preserves_iff (host : Host) (env : ProcessEnv) (yaml : SerdeYaml)
    (outcome : SaveOutcome) (body : Json) (state : ConfigState) (entry old : BackendEntry)
    (fromBody : entryFromBody body = .ok entry)
    (found : BackendStore.find? state.backendsConfig.entries entry.backendId = some old)
    (accepted : (apiBackendsSet host env yaml outcome body state).1.status = 200) :
    EditPreserves host env yaml body entry.backendId old
        (apiBackendsSet host env yaml outcome body state).2 ↔
      ∀ field : EditField, field ≠ .key → field.givenBy body = false → field.Unset old := by
  have listed : BackendStore.find? state.backendsConfig.list entry.backendId = some old :=
    (find?_list state.backendsConfig entry.backendId).trans found
  have stored := stored_of_accepted fromBody accepted
  obtain ⟨repeats, settled⟩ := repeats_of_accepted accepted
  rw [← editKept_inheritKeys_iff fromBody listed]
  constructor
  · rintro ⟨⟨other, same, kept⟩, -, -⟩
    obtain rfl := Option.some.inj (stored.symm.trans same)
    exact kept
  · intro kept
    exact ⟨⟨_, stored, kept⟩, repeats, settled⟩

/-- A server with one backend. -/
def ConfigState.single (entry : BackendEntry) : ConfigState :=
  ⟨⟨[entry], ⟨none, none⟩⟩, .empty, ∅, {}⟩

def proxiedDeepseek : BackendEntry where
  provider := "deepseek"
  apiKey := some "sk-0"
  models := ["deepseek-reasoner"]
  baseUrl := some "https://proxy.example/v1"

def officialDeepseek : BackendEntry where
  provider := "deepseek"
  apiKey := some "sk-0"

def modelsBody : Json :=
  .obj [("provider", .str "deepseek"), ("models", .arr [.str "deepseek-chat"])]

/-- Changing the models of a backend that has nothing else keeps its key. -/
theorem edit_preserves_key :
    EditPreserves Host.compact ProcessEnv.none SerdeYaml.compact modelsBody "deepseek"
      officialDeepseek (apiBackendsSet Host.compact ProcessEnv.none SerdeYaml.compact {}
        modelsBody (.single officialDeepseek)).2 := by
  refine (edit_preserves_iff Host.compact ProcessEnv.none SerdeYaml.compact {} modelsBody
    (.single officialDeepseek) _ officialDeepseek rfl rfl (by decide)).mpr ?_
  intro field noKey absent
  cases field with
  | key => exact absurd rfl noKey
  | models => exact absurd absent (by decide)
  | baseUrl | splitRatio | listingId => rfl

/-- A new key for a backend takes its models and its base URL away. -/
theorem not_edit_preserves :
    ¬ ∀ host env yaml outcome body state entry old, entryFromBody body = .ok entry →
      BackendStore.find? state.backendsConfig.entries entry.backendId = some old →
      (apiBackendsSet host env yaml outcome body state).1.status = 200 →
        EditPreserves host env yaml body entry.backendId old
          (apiBackendsSet host env yaml outcome body state).2 := by
  intro preserves
  obtain ⟨stored, found, kept⟩ := (preserves Host.compact ProcessEnv.none SerdeYaml.compact {}
    deepseekBody (.single proxiedDeepseek) _ proxiedDeepseek rfl rfl (by decide)).kept
  have lost : BackendStore.find? (apiBackendsSet Host.compact ProcessEnv.none SerdeYaml.compact {}
      deepseekBody (.single proxiedDeepseek)).2.backendsConfig.entries "deepseek" =
        some { provider := "deepseek", apiKey := some "sk-1" } := by decide
  obtain rfl := Option.some.inj (lost.symm.trans found)
  have agrees := kept .baseUrl
  rw [if_neg (by decide)] at agrees
  simp [EditField.Agrees, proxiedDeepseek] at agrees

end AiPowerGateway.Share

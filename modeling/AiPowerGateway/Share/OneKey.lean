import AiPowerGateway.Collections.Accumulators
import AiPowerGateway.Json.Schema
import AiPowerGateway.Share.BackendAdmin
import AiPowerGateway.Share.RegistrationOrder

/-!
# One key for store, registry and health

A configured backend is known to three tables: the store and the health monitor call it
by the routing key of its entry, the registry by the name of the backend that is built.
The names agree, except that every mock is called `mock`.
-/

namespace AiPowerGateway.Share

open Json (ofOption)

/-! ## The rows of the panel -/

def HealthLevel.asStr : HealthLevel → String
  | .ok => "ok"
  | .degraded => "degraded"
  | .removed => "removed"

namespace BackendEntry

/-- Where the key comes from. -/
def keySource (env : ProcessEnv) (entry : BackendEntry) : String :=
  if (nonEmpty entry.apiKey).isSome then "file"
  else if ((nonEmpty entry.apiKeyEnv).bind fun name => nonEmpty (env.var name)).isSome then "env"
  else if (nonEmpty (env.var (entry.officialVar env))).isSome then "env"
  else if (nonEmpty (env.var "AIPOWERLINK_API_KEY")).isSome then "env"
  else "none"

/-- The key with its end only, or the variable that it stands in. -/
def maskedKey (env : ProcessEnv) (entry : BackendEntry) : String :=
  match nonEmpty entry.apiKey with
  | some key =>
      if 7 < key.length then "***" ++ String.ofList (key.toList.reverse.take 4).reverse else "***"
  | none =>
      match nonEmpty entry.apiKeyEnv with
      | some name => "env:" ++ name
      | none =>
          if (env.var (entry.officialVar env)).isSome then "env:" ++ entry.officialVar env
          else if (env.var "AIPOWERLINK_API_KEY").isSome then "env:AIPOWERLINK_API_KEY"
          else ""

end BackendEntry

/-- The result of the last connection test of a backend. -/
def testStatusJson : Option Json → Json
  | some status =>
      if (status.get? "ok").bind Json.asBool? = some true then
        .obj [("status", .str "ok"),
          ("latencyMs", ofOption (fun ms => .num (.posInt ms))
            ((status.get? "latencyMs").bind Json.asU64?))]
      else .obj [("status", .str "fail"), ("error", ofOption .str (status.text? "error"))]
  | none => .obj [("status", .str "untested")]

/-- The names of the registered backends. -/
def RegistryInner.backendNames (inner : RegistryInner) : List String :=
  inner.backends.keys.insertionSort fun first second => ¬ second < first

/-- What the panel shows of an entry: its configuration, and what the other tables know. -/
def backendRow (env : ProcessEnv) (state : ConfigState) (entry : BackendEntry) : Json :=
  let models := entry.effectiveModels
  let id := entry.backendId
  let health := state.health.states.lookup id
  .obj [
    ("id", .str id),
    ("provider", .str entry.provider),
    ("executorKind", .str (if entry.isExecutor then entry.provider else "none")),
    ("model", .str (models.head?.getD "")),
    ("models", Json.ofList .str models),
    ("baseUrl", .str (entry.baseUrl.getD "")),
    ("keySource", .str (entry.keySource env)),
    ("maskedKey", .str (entry.maskedKey env)),
    ("registered", .bool (id ∈ state.backends.backendNames)),
    ("testStatus", testStatusJson (state.testStatus.lookup id)),
    ("healthState", .str ((health.map fun recorded => recorded.level.asStr).getD "untested")),
    ("healthError", ofOption .str (health.bind ProviderState.lastError)),
    ("healthLatencyMs",
      ofOption (fun ms => .num (.posInt ms)) (health.bind ProviderState.latencyMs)),
    ("healthFailures", .ofNat ((health.map fun recorded => recorded.failures.toNat).getD 0)),
    ("pollIntervalSecs",
      .num (.posInt (state.health.config id entry.isExecutor).pollIntervalSecs)),
    ("splitRatio", ofOption Json.ofF64 entry.splitRatio),
    ("listingId", ofOption .str entry.listingId)]

def backendRows (env : ProcessEnv) (state : ConfigState) : List Json :=
  state.backendsConfig.list.map (backendRow env state)

def apiBackendsList (host : Host) (env : ProcessEnv) (state : ConfigState) : Reply :=
  jsonReply host 200 (.obj [("backends", .arr (backendRows env state))])

/-! ## The health of one backend -/

namespace RegistryInner

/-- Two health tables agree about every backend but one. -/
def AgreeBut (name : String) (before after : HealthTable) : Prop :=
  ∀ other, other ≠ name → after.level? other = before.level? other

theorem AgreeBut.symm {name : String} {before after : HealthTable}
    (agree : AgreeBut name before after) : AgreeBut name after before :=
  fun other differ => (agree other differ).symm

theorem AgreeBut.isRemoved {name other : String} {before after : HealthTable}
    (agree : AgreeBut name before after) (differ : other ≠ name) :
    after.isRemoved other = before.isRemoved other := by
  rw [HealthTable.isRemoved, HealthTable.isRemoved, agree other differ]

section Routes

variable {backends : List Backend} (distinct : (backends.map Backend.name).Nodup)
  {registry : RegistryInner} (order : registry.Reordered (replaceAll backends))
  {before after : HealthTable} {model : String} {backend other : Backend}

include distinct order

/-- The health of a backend that is no route, before or after, leaves the route alone. -/
theorem route_of_agreeBut (mem : backend ∈ backends)
    (agree : AgreeBut backend.name before after) {name : String}
    (routed : registry.route before model = some (name, other)) (differ : other ≠ backend)
    (unrouted : ∀ name, registry.route after model ≠ some (name, backend)) :
    registry.route after model = some (name, other) := by
  obtain ⟨otherMem, rfl, live, reason⟩ := (route_iff distinct order).mp routed
  have nameDiffers : other.name ≠ backend.name := fun same =>
    differ (List.inj_on_of_nodup_map distinct otherMem mem same)
  have otherLive : after.isRemoved other.name = false := (agree.isRemoved nameDiffers).trans live
  refine (route_iff distinct order).mpr ⟨otherMem, rfl, otherLive, ?_⟩
  cases reason with
  | offers last => exact .offers last
  | owns unoffered longest =>
      obtain ⟨_, _, lead, owner, -, afterLongest⟩ := exists_ownsLongest longest.owns otherLive
      have ownerDiffers : owner ≠ backend.name := by
        rintro rfl
        exact unrouted _ (route_of_ownsLongest distinct order unoffered mem afterLongest)
      have ownerLive := (agree.isRemoved ownerDiffers).symm.trans afterLongest.live
      have size := Nat.le_antisymm (afterLongest.longest longest.owns otherLive)
        (longest.longest afterLongest.owns ownerLive)
      rw [longest.owns.owner_eq afterLongest.owns size.symm] at afterLongest
      exact .owns unoffered afterLongest
  | only unoffered unowned single =>
      rw [single, List.mem_singleton] at mem
      exact absurd mem.symm differ

end Routes

end RegistryInner

/--
What a new state of a backend changes: its own level, and nothing about other backends.  A
removed backend is no route; where it is none before or after, the route stays.
-/
structure AffectsOnly (registry : RegistryInner) (before after : HealthTable)
    (state : ProviderState) (backend : Backend) : Prop where
  own : after.level? backend.name = some state.level
  others : RegistryInner.AgreeBut backend.name before after
  removed : state.level = .removed →
    ∀ model name, registry.route after model ≠ some (name, backend)
  routes : ∀ model, (∀ name, registry.route before model ≠ some (name, backend)) →
    (∀ name, registry.route after model ≠ some (name, backend)) →
    registry.route after model = registry.route before model

/-- Store, registry and health monitor mean the same backend by the same name. -/
structure OneKey (host : Host) (env : ProcessEnv) (state : ConfigState) : Prop where
  names : ∀ entry ∈ state.backendsConfig.list, ∀ backend,
    backendFromEntry host.serde env entry = .ok backend → backend.name = entry.backendId
  count : state.backends.backends.keys.length = state.backendsConfig.list.length
  flagged : ∀ row ∈ backendRows env state, row.get? "registered" = some (.bool true)
  health : ∀ entry ∈ state.backendsConfig.list, ∀ backend,
    backendFromEntry host.serde env entry = .ok backend → ∀ observed recorded,
      (state.health.observe entry.backendId observed).states.lookup entry.backendId =
        some recorded →
      AffectsOnly state.backends (some state.health.states)
        (some (state.health.observe entry.backendId observed).states) recorded backend

/-- Every mock is called `mock` in the configuration. -/
def MocksNamed (entries : List BackendEntry) : Prop :=
  ∀ entry ∈ entries, entry.provider = "mock" → entry.backendId = "mock"

section Keys

variable {host : Host} {env : ProcessEnv} {entries : List BackendEntry} {built : List Backend}

theorem buildBackends_ok_iff : buildBackends host.serde env entries = .ok built ↔
    List.Forall₂ (fun entry backend => backendFromEntry host.serde env entry = .ok backend)
      entries built :=
  Accumulators.mapM_ok_iff

theorem mem_buildBackends (builds : buildBackends host.serde env entries = .ok built)
    {backend : Backend} :
    backend ∈ built ↔
      ∃ entry ∈ entries, backendFromEntry host.serde env entry = .ok backend := by
  rw [Accumulators.mapM_ok builds, List.mem_filterMap]
  have ok {entry : BackendEntry} :
      (backendFromEntry host.serde env entry).toOption = some backend ↔
        backendFromEntry host.serde env entry = .ok backend := by
    cases backendFromEntry host.serde env entry <;> simp [Except.toOption]
  simp only [ok]

theorem name_of_mocksNamed (named : MocksNamed entries) {entry : BackendEntry}
    (mem : entry ∈ entries) {backend : Backend}
    (builds : backendFromEntry host.serde env entry = .ok backend) :
    backend.name = entry.backendId := by
  rw [name_backendFromEntry builds]
  split
  · next mock => exact (named entry mem mock).symm
  · rfl

/-- Where the mocks are named, the backends have the keys of their entries. -/
theorem names_buildBackends (named : MocksNamed entries)
    (builds : buildBackends host.serde env entries = .ok built) :
    built.map Backend.name = entries.map BackendEntry.backendId := by
  have all := buildBackends_ok_iff.mp builds
  clear builds
  induction all with
  | nil => rfl
  | cons head tail ih =>
      rw [List.map_cons, List.map_cons, name_of_mocksNamed named List.mem_cons_self head,
        ih fun entry mem => named entry (List.mem_cons_of_mem _ mem)]

/-- Names are the keys of entries exactly when the mocks are named. -/
theorem mocksNamed_of_names (serde : SerdeJson) (env : ProcessEnv)
    (names : ∀ entry ∈ entries, ∀ backend,
      backendFromEntry serde env entry = .ok backend → backend.name = entry.backendId) :
    MocksNamed entries := by
  intro entry mem mock
  have builds : backendFromEntry serde env entry = .ok mockBackend := by
    simp only [backendFromEntry, fromStr_eq_mock.mpr mock]
  exact (names entry mem mockBackend builds).symm

end Keys

section Tables

variable {backends : List Backend} {registry : RegistryInner}

theorem mem_keys_iff (distinct : (backends.map Backend.name).Nodup)
    (order : registry.Reordered (.replaceAll backends)) {name : String} :
    name ∈ registry.backends.keys ↔ name ∈ backends.map Backend.name := by
  rw [← AList.mem_keys, ← AList.lookup_isSome, Option.isSome_iff_exists, List.mem_map]
  simp only [RegistryInner.registered_iff distinct order]

/-- With distinct names, one backend is registered under each. -/
theorem keys_perm (distinct : (backends.map Backend.name).Nodup)
    (order : registry.Reordered (.replaceAll backends)) :
    registry.backends.keys.Perm (backends.map Backend.name) :=
  (List.perm_ext_iff_of_nodup registry.backends.keys_nodup distinct).mpr
    fun _ => mem_keys_iff distinct order

theorem level?_states (states : HashMap ProviderState) (name : String) :
    HealthTable.level? (some states) name = (states.lookup name).map ProviderState.level := rfl

/-- The new state under the name of a registered backend is about that backend. -/
theorem affectsOnly_observe (distinct : (backends.map Backend.name).Nodup)
    (order : registry.Reordered (.replaceAll backends)) {backend : Backend}
    (mem : backend ∈ backends) (monitor : HealthMonitor) (observed : Observation × PollConfig)
    {recorded : ProviderState}
    (found : (monitor.observe backend.name observed).states.lookup backend.name =
      some recorded) :
    AffectsOnly registry (some monitor.states)
      (some (monitor.observe backend.name observed).states) recorded backend := by
  have own : HealthTable.level? (some (monitor.observe backend.name observed).states)
      backend.name = some recorded.level := by
    rw [level?_states, found]
    rfl
  have others : RegistryInner.AgreeBut backend.name (some monitor.states)
      (some (monitor.observe backend.name observed).states) := by
    intro other differ
    rw [level?_states, level?_states, HealthMonitor.observe, HashMap.lookup_upsert_ne differ]
  refine ⟨own, others, fun removed model name routed => ?_, fun model unrouted afterwards => ?_⟩
  · obtain ⟨-, rfl, live, -⟩ := RegistryInner.route_reason distinct order routed
    rw [HealthTable.isRemoved, own, removed] at live
    cases live
  · apply Option.ext
    rintro ⟨name, other⟩
    constructor
    · intro routed
      refine RegistryInner.route_of_agreeBut distinct order mem others.symm routed ?_ unrouted
      rintro rfl
      exact afterwards name routed
    · intro routed
      refine RegistryInner.route_of_agreeBut distinct order mem others routed ?_ afterwards
      rintro rfl
      exact unrouted name routed

end Tables

/--
After a configuration with distinct keys is built, all tables mean the same backend by a
key exactly when every mock is called `mock`.
-/
theorem one_key_iff (host : Host) (env : ProcessEnv) (state : ConfigState)
    (built : List Backend)
    (distinct : (state.backendsConfig.list.map BackendEntry.backendId).Nodup)
    (builds : buildBackends host.serde env state.backendsConfig.list = .ok built)
    (order : state.backends.Reordered (.replaceAll built)) :
    OneKey host env state ↔ MocksNamed state.backendsConfig.list := by
  constructor
  · intro oneKey
    exact mocksNamed_of_names host.serde env oneKey.names
  · intro named
    have keys := names_buildBackends named builds
    have builtDistinct : (built.map Backend.name).Nodup := keys ▸ distinct
    have perm := keys_perm builtDistinct order
    refine ⟨fun entry mem backend => name_of_mocksNamed named mem, ?_, ?_, ?_⟩
    · rw [perm.length_eq, keys, List.length_map]
    · intro row mem
      obtain ⟨entry, entryMem, rfl⟩ := List.mem_map.mp mem
      have registered : entry.backendId ∈ state.backends.backendNames := by
        rw [RegistryInner.backendNames, List.mem_insertionSort, perm.mem_iff, keys]
        exact List.mem_map_of_mem entryMem
      simp [backendRow, registered]
    · intro entry mem backend entryBuilds observed recorded found
      have name := name_of_mocksNamed named mem entryBuilds
      rw [← name] at found ⊢
      refine affectsOnly_observe builtDistinct order ?_ state.health observed found
      exact (mem_buildBackends builds).mpr ⟨entry, mem, entryBuilds⟩

/-- A mock under a name of its own, as `backends.yaml` may have one. -/
def namedMock : BackendEntry where
  provider := "mock"
  id := some "demo"

def ConfigState.built (entry : BackendEntry) (backend : Backend) : ConfigState :=
  ⟨⟨[entry], ⟨none, none⟩⟩, .replaceAll [backend], ∅, {}⟩

/-- The mock under its provider's name. -/
theorem one_key_mock :
    OneKey Host.compact ProcessEnv.none (.built { provider := "mock" } mockBackend) := by
  refine (one_key_iff Host.compact ProcessEnv.none _ [mockBackend] (by decide) rfl
    (.refl _)).mpr ?_
  intro entry mem mock
  obtain rfl := List.mem_singleton.mp mem
  rfl

/-- A mock under another name is registered as `mock`. -/
theorem not_one_key :
    ¬ ∀ (host : Host) (env : ProcessEnv) (state : ConfigState) (built : List Backend),
      (state.backendsConfig.list.map BackendEntry.backendId).Nodup →
      buildBackends host.serde env state.backendsConfig.list = .ok built →
      state.backends.Reordered (.replaceAll built) → OneKey host env state := by
  intro alwaysOneKey
  have oneKey := alwaysOneKey Host.compact ProcessEnv.none (.built namedMock mockBackend)
    [mockBackend] (by decide) rfl (.refl _)
  have name := oneKey.names namedMock (List.mem_singleton_self _) mockBackend rfl
  exact absurd name (by decide)

end AiPowerGateway.Share

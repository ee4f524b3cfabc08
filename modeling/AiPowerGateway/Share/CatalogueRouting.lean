import AiPowerGateway.Share.Registry

/-!
# The catalogue against the router

The catalogue reads the backends, the router the exact table, in which the last
backend to offer a model takes its name.  The two agree on a model exactly when
that backend is not removed.
-/

namespace AiPowerGateway.Share

namespace RegistryInner

/-- The router finds a backend for the model that is not removed and offers it. -/
def RoutesLive (inner : RegistryInner) (health : HealthTable) (model : String) : Prop :=
  ∃ name backend, inner.route health model = some (name, backend) ∧
    health.isRemoved name = false ∧ backend.Offers model

/-- Some backend of a configuration offers the model and is not removed. -/
def OfferedLive (backends : List Backend) (health : HealthTable) (model : String) : Prop :=
  ∃ backend ∈ backends, health.isRemoved backend.name = false ∧ backend.Offers model

/-- Where the model is on offer at all, the last backend to offer it is not removed. -/
def LastOfferLive (backends : List Backend) (health : HealthTable) (model : String) : Prop :=
  OfferedLive backends health model → ∀ last, lastOffering backends model = some last →
    health.isRemoved last.name = false

section Configured

variable {backends : List Backend} {registry : RegistryInner} {health : HealthTable}
  {model : String}

/-- The catalogue lists what the configuration offers live. -/
theorem lists_configured (distinct : (backends.map Backend.name).Nodup)
    (order : registry.Reordered (replaceAll backends)) :
    registry.Lists health model ↔ OfferedLive backends health model := by
  rw [lists_iff]
  constructor
  · rintro ⟨name, backend, found, live, offers⟩
    rw [HashMap.lookup_reordered order.backends, lookup_replaceAll distinct] at found
    obtain ⟨mem, rfl⟩ := found
    exact ⟨backend, mem, live, offers⟩
  · rintro ⟨backend, mem, live, offers⟩
    refine ⟨backend.name, backend, ?_, live, offers⟩
    rw [HashMap.lookup_reordered order.backends]
    exact (lookup_replaceAll distinct).mpr ⟨mem, rfl⟩

theorem lastOffering_spec {last : Backend} (found : lastOffering backends model = some last) :
    last ∈ backends ∧ last.Offers model := by
  have offers := List.find?_some found
  exact ⟨List.mem_reverse.mp (List.mem_of_find?_eq_some found), by simpa using offers⟩

theorem lastOffering_of_mem {backend : Backend} (mem : backend ∈ backends)
    (offers : backend.Offers model) : ∃ last, lastOffering backends model = some last := by
  rw [← Option.isSome_iff_exists]
  unfold lastOffering
  rw [List.find?_isSome]
  exact ⟨backend, List.mem_reverse.mpr mem, by simpa using offers⟩

/-- The route of an offered model goes to the last backend to offer it, or nowhere. -/
theorem route_configured (distinct : (backends.map Backend.name).Nodup)
    (order : registry.Reordered (replaceAll backends)) {last : Backend}
    (found : lastOffering backends model = some last) :
    registry.route health model =
      if health.isRemoved last.name then none else some (last.name, last) := by
  have stored : registry.backends.lookup last.name = some last := by
    rw [HashMap.lookup_reordered order.backends]
    exact (lookup_replaceAll distinct).mpr ⟨(lastOffering_spec found).1, rfl⟩
  have exact : registry.exactRoute model = some (last.name, last) := by
    unfold exactRoute
    rw [HashMap.lookup_reordered order.exact, exact_replaceAll, found]
    simp [stored]
  simp only [route, exact]

/-- An offered model is routed to a live backend when the last to offer it is live. -/
theorem routesLive_configured (distinct : (backends.map Backend.name).Nodup)
    (order : registry.Reordered (replaceAll backends))
    {last : Backend} (found : lastOffering backends model = some last) :
    registry.RoutesLive health model ↔ health.isRemoved last.name = false := by
  have routed : registry.route health model =
      if health.isRemoved last.name then none else some (last.name, last) :=
    route_configured distinct order found
  constructor
  · rintro ⟨name, backend, routes, live, -⟩
    rw [routed] at routes
    split at routes
    · cases routes
    · cases routes
      exact live
  · intro live
    exact ⟨last.name, last, by rw [routed]; simp [live], live, (lastOffering_spec found).2⟩

theorem offeredLive_routes_iff (distinct : (backends.map Backend.name).Nodup)
    (order : registry.Reordered (replaceAll backends)) :
    (OfferedLive backends health model → registry.RoutesLive health model) ↔
      LastOfferLive backends health model := by
  constructor
  · intro routes offered last found
    exact (routesLive_configured distinct order found).mp (routes offered)
  · intro lastLive offered
    obtain ⟨backend, mem, -, offers⟩ := id offered
    obtain ⟨last, found⟩ := lastOffering_of_mem mem offers
    exact (routesLive_configured distinct order found).mpr (lastLive offered last found)

end Configured

/--
A model of the catalogue is routable exactly when the last backend to offer it is
not removed, and the same holds of a model that a live backend offers.
-/
theorem catalogue_routable_iff {backends : List Backend}
    (distinct : (backends.map Backend.name).Nodup) {registry : RegistryInner}
    (order : registry.Reordered (replaceAll backends)) (health : HealthTable) (model : String) :
    ((registry.Lists health model → registry.RoutesLive health model) ↔
        LastOfferLive backends health model) ∧
      ((OfferedLive backends health model → registry.RoutesLive health model) ↔
        LastOfferLive backends health model) := by
  have offered : (OfferedLive backends health model → registry.RoutesLive health model) ↔
      LastOfferLive backends health model := offeredLive_routes_iff distinct order
  rw [lists_configured distinct order]
  exact ⟨offered, offered⟩

/-- A custom endpoint that offers one model. -/
def glmBackend (name : String) : Backend :=
  openAICompatBackend SerdeJson.compact
    { provider := .custom, apiKey := "key", models := ["glm-4"],
      baseUrl := some "https://models.example/v1", name := some name }

/-- Two backends that share one model, and a health table that removes the second. -/
def sharedModel : List Backend := [glmBackend "first", glmBackend "second"]

def secondRemoved : HealthTable :=
  some ((∅ : HashMap ProviderState).insert "second" ⟨.removed, 10, none, some "timeout"⟩)

theorem catalogue_routable_shared :
    ((replaceAll sharedModel).Lists none "glm-4" →
        (replaceAll sharedModel).RoutesLive none "glm-4") ∧
      LastOfferLive sharedModel none "glm-4" := by
  have live : LastOfferLive sharedModel none "glm-4" := fun _ _ _ => rfl
  have distinct : (sharedModel.map Backend.name).Nodup := by decide
  exact ⟨(catalogue_routable_iff distinct ⟨List.Perm.refl _, List.Perm.refl _, List.Perm.refl _⟩
    none "glm-4").1.mpr live, live⟩

/-- The catalogue lists the shared model, and no route serves it. -/
theorem catalogue_not_routable :
    ¬ ∀ (backends : List Backend) (registry : RegistryInner) (health : HealthTable)
        (model : String), (backends.map Backend.name).Nodup →
      registry.Reordered (replaceAll backends) → registry.Lists health model →
        registry.RoutesLive health model := by
  intro routable
  have listed : (replaceAll sharedModel).Lists secondRemoved "glm-4" := by
    unfold Lists
    decide
  obtain ⟨name, backend, routes, -⟩ := routable sharedModel (replaceAll sharedModel) secondRemoved
    "glm-4" (by decide) ⟨List.Perm.refl _, List.Perm.refl _, List.Perm.refl _⟩ listed
  have missing : ((replaceAll sharedModel).route secondRemoved "glm-4").isNone := by decide
  simp [routes] at missing

end RegistryInner

end AiPowerGateway.Share

import AiPowerGateway.Collections.Runs
import AiPowerGateway.Share.RouteSoundness
import AiPowerGateway.Share.Router

/-!
# The catalogue as a set

The catalogue sorts by rank and then by name before it cuts runs of one name, so a
model of a healthy and of a degraded backend is listed twice unless its two entries
meet.  The names of the rule sets follow without any such cut.
-/

namespace AiPowerGateway.Share

variable {τ : Type}

namespace RegistryInner

section Sorted

variable {inner : RegistryInner} {health : HealthTable}

/-- What the catalogue cuts down. -/
def sortedModels (inner : RegistryInner) (health : HealthTable) : List (String × String) :=
  (inner.liveModels health).insertionSort (CatalogueLe health)

theorem catalogueLe_refl (entry : String × String) : CatalogueLe health entry entry :=
  Or.inr ⟨rfl, lt_irrefl entry.1⟩

theorem catalogueLe_trans {first second third : String × String}
    (before : CatalogueLe health first second) (after : CatalogueLe health second third) :
    CatalogueLe health first third := by
  unfold CatalogueLe at *
  rw [not_lt] at *
  rcases before with lower | ⟨same, le⟩
  · rcases after with lower' | ⟨same', -⟩
    · exact Or.inl (lower.trans lower')
    · exact Or.inl (same' ▸ lower)
  · rcases after with lower' | ⟨same', le'⟩
    · exact Or.inl (same ▸ lower')
    · exact Or.inr ⟨same.trans same', le.trans le'⟩

theorem catalogueLe_total (first second : String × String) :
    CatalogueLe health first second ∨ CatalogueLe health second first := by
  unfold CatalogueLe
  rw [not_lt, not_lt]
  rcases lt_trichotomy (health.routeRank first.2) (health.routeRank second.2) with
    lower | same | higher
  · exact Or.inl (Or.inl lower)
  · rcases le_total first.1 second.1 with le | ge
    · exact Or.inl (Or.inr ⟨same, le⟩)
    · exact Or.inr (Or.inr ⟨same.symm, ge⟩)
  · exact Or.inr (Or.inl higher)

instance : Std.Total (CatalogueLe health) := ⟨catalogueLe_total⟩

instance : IsTrans (String × String) (CatalogueLe health) :=
  ⟨fun _ _ _ => catalogueLe_trans⟩

theorem pairwise_sortedModels : (inner.sortedModels health).Pairwise (CatalogueLe health) :=
  List.pairwise_insertionSort _ _

end Sorted

/-! ## The catalogue -/

/-- A backend that is not removed offers the model. -/
def OffersLive (inner : RegistryInner) (health : HealthTable) (model name : String) : Prop :=
  ∃ backend, inner.backends.lookup name = some backend ∧ health.isRemoved name = false ∧
    backend.Offers model

/-- Every model on offer is listed once, with a backend of the best rank that offers it. -/
structure CatalogueIsSet (inner : RegistryInner) (health : HealthTable) : Prop where
  nodup : ((inner.modelsCatalog health).map Prod.fst).Nodup
  listed (model : String) :
    model ∈ (inner.modelsCatalog health).map Prod.fst ↔
      ∃ name, inner.OffersLive health model name
  best {model name : String} : (model, name) ∈ inner.modelsCatalog health →
    inner.OffersLive health model name ∧
      ∀ other, inner.OffersLive health model other →
        health.routeRank name ≤ health.routeRank other

/--
A model of a degraded and of another backend is the last model of the others and the
first of the degraded ones.
-/
def RanksMeet (inner : RegistryInner) (health : HealthTable) : Prop :=
  ∀ model name degraded, inner.OffersLive health model name →
    inner.OffersLive health model degraded → health.level? name ≠ some .degraded →
    health.level? degraded = some .degraded →
    (∀ other owner, inner.OffersLive health other owner →
      health.level? owner ≠ some .degraded → other ≤ model) ∧
    ∀ other owner, inner.OffersLive health other owner →
      health.level? owner = some .degraded → model ≤ other

section Catalogue

variable {inner : RegistryInner} {health : HealthTable}

theorem mem_sortedModels {model name : String} :
    (model, name) ∈ inner.sortedModels health ↔ inner.OffersLive health model name := by
  unfold sortedModels
  rw [List.mem_insertionSort, mem_liveModels]
  rfl

theorem routeRank_of_degraded {name : String} (degraded : health.level? name = some .degraded) :
    health.routeRank name = 1 := by
  simp [HealthTable.routeRank, degraded]

theorem routeRank_of_not_degraded {name : String}
    (sound : health.level? name ≠ some .degraded) : health.routeRank name = 0 := by
  simp [HealthTable.routeRank, sound]

/-- The models of the backends that are not degraded, in the order of the catalogue. -/
def soundModels (inner : RegistryInner) (health : HealthTable) : List String :=
  ((inner.sortedModels health).filter fun entry =>
    health.level? entry.2 ≠ some .degraded).map Prod.fst

/-- The models of the degraded backends, in the order of the catalogue. -/
def degradedModels (inner : RegistryInner) (health : HealthTable) : List String :=
  ((inner.sortedModels health).filter fun entry =>
    ¬ health.level? entry.2 ≠ some .degraded).map Prod.fst

theorem mem_soundModels {model : String} :
    model ∈ inner.soundModels health ↔
      ∃ name, inner.OffersLive health model name ∧ health.level? name ≠ some .degraded := by
  simp [soundModels, mem_sortedModels]

theorem mem_degradedModels {model : String} :
    model ∈ inner.degradedModels health ↔
      ∃ name, inner.OffersLive health model name ∧ health.level? name = some .degraded := by
  simp [degradedModels, mem_sortedModels]

/-- Entries of one rank are sorted by name. -/
theorem pairwise_filter_names {keep : String × String → Bool}
    (same : ∀ first second, keep first = true → keep second = true →
      health.routeRank first.2 = health.routeRank second.2) :
    (((inner.sortedModels health).filter keep).map Prod.fst).Pairwise (· ≤ ·) := by
  rw [List.pairwise_map]
  refine (pairwise_sortedModels.filter keep).imp_of_mem ?_
  intro first second firstMem secondMem before
  have ranks := same first second (List.mem_filter.mp firstMem).2 (List.mem_filter.mp secondMem).2
  rcases before with lower | ⟨-, notAfter⟩
  · exact absurd ranks lower.ne
  · exact not_lt.mp notAfter

theorem pairwise_soundModels : (inner.soundModels health).Pairwise (· ≤ ·) := by
  refine pairwise_filter_names fun first second firstSound secondSound => ?_
  rw [routeRank_of_not_degraded (by simpa using firstSound),
    routeRank_of_not_degraded (by simpa using secondSound)]

theorem pairwise_degradedModels : (inner.degradedModels health).Pairwise (· ≤ ·) := by
  refine pairwise_filter_names fun first second firstDegraded secondDegraded => ?_
  rw [routeRank_of_degraded (by simpa using firstDegraded),
    routeRank_of_degraded (by simpa using secondDegraded)]

/-- The degraded backends come last. -/
theorem map_sortedModels :
    (inner.sortedModels health).map Prod.fst =
      inner.soundModels health ++ inner.degradedModels health := by
  unfold soundModels degradedModels
  rw [← List.map_append, Runs.filter_append_filter]
  refine pairwise_sortedModels.imp fun {first second} before sound degraded => ?_
  rw [CatalogueLe, routeRank_of_degraded degraded, routeRank_of_not_degraded sound] at before
  omega

theorem map_modelsCatalog :
    (inner.modelsCatalog health).map Prod.fst =
      ((inner.sortedModels health).map Prod.fst).destutter (· ≠ ·) := by
  unfold modelsCatalog sortedModels
  exact List.map_destutter fun _ _ _ _ => Iff.rfl

theorem nodup_modelsCatalog_iff :
    ((inner.modelsCatalog health).map Prod.fst).Nodup ↔ inner.RanksMeet health := by
  rw [map_modelsCatalog, Runs.nodup_destutter_iff, map_sortedModels,
    Runs.contiguous_append_iff pairwise_soundModels pairwise_degradedModels]
  constructor
  · intro meet model name degraded offers offersDegraded sound isDegraded
    obtain ⟨greatest, least⟩ := meet model (mem_soundModels.mpr ⟨name, offers, sound⟩)
      (mem_degradedModels.mpr ⟨degraded, offersDegraded, isDegraded⟩)
    exact ⟨fun other owner owns ownerSound =>
        greatest other (mem_soundModels.mpr ⟨owner, owns, ownerSound⟩),
      fun other owner owns ownerDegraded =>
        least other (mem_degradedModels.mpr ⟨owner, owns, ownerDegraded⟩)⟩
  · intro meet model inSound inDegraded
    obtain ⟨name, offers, sound⟩ := mem_soundModels.mp inSound
    obtain ⟨degraded, offersDegraded, isDegraded⟩ := mem_degradedModels.mp inDegraded
    obtain ⟨greatest, least⟩ := meet model name degraded offers offersDegraded sound isDegraded
    constructor
    · intro other mem
      obtain ⟨owner, owns, ownerSound⟩ := mem_soundModels.mp mem
      exact greatest other owner owns ownerSound
    · intro other mem
      obtain ⟨owner, owns, ownerDegraded⟩ := mem_degradedModels.mp mem
      exact least other owner owns ownerDegraded

/-- The catalogue is a set exactly when the models of both ranks only meet. -/
theorem catalogueIsSet_iff : inner.CatalogueIsSet health ↔ inner.RanksMeet health := by
  rw [← nodup_modelsCatalog_iff]
  refine ⟨CatalogueIsSet.nodup, fun nodup => ⟨nodup, fun model => ?_, fun {model name} mem => ?_⟩⟩
  · exact lists_iff
  · have sorted : (model, name) ∈ inner.sortedModels health :=
      List.Sublist.subset (List.destutter_sublist _ _) mem
    refine ⟨mem_sortedModels.mp sorted, fun other offers => ?_⟩
    have before := Runs.rel_of_destutter catalogueLe_refl
      (fun _ _ _ => catalogueLe_trans) pairwise_sortedModels nodup mem
      (mem_sortedModels.mpr offers) rfl
    rcases before with lower | ⟨same, -⟩
    · exact lower.le
    · exact same.le

end Catalogue

end RegistryInner

/-! ## The listings -/

/-- The ids that a client reads from `GET /v1/models`. -/
def listedIds (host : Host) (reply : Reply) : List String :=
  ((host.serde.clientParse reply.body).map fun body =>
    (arrayField body "data").filterMap fun entry => entry.text? "id").getD []

/-- The names that a client reads from `GET /api/models`. -/
def plainIds (host : Host) (reply : Reply) : List String :=
  (((host.serde.clientParse reply.body).bind Json.asArray?).getD []).filterMap Json.asStr?

/-- The catalogue is a set, and both listings show that set with the rule sets. -/
structure ListingsAreSets (host : Host) (state : ApiState τ) : Prop where
  catalogue : state.backends.CatalogueIsSet state.health
  nodup : (listedIds host (modelsOpenai host state)).Nodup
  same (name : String) :
    name ∈ listedIds host (modelsOpenai host state) ↔ name ∈ plainIds host (apiModels host state)

section Listings

variable (host : Host) (state : ApiState τ)

theorem listedIds_modelsOpenai :
    listedIds host (modelsOpenai host state) =
      (state.backends.modelsCatalog state.health).map Prod.fst ++ state.rules.ruleNames := by
  have id (name ownedBy : String) : (openaiModel name ownedBy).text? "id" = some name := by
    simp [openaiModel, Json.text?]
  unfold listedIds modelsOpenai jsonReply
  simp only [host.serde.clientParse_toString, Option.map_some, Option.getD_some]
  simp [arrayField, List.filterMap_append, List.filterMap_map, id]

theorem mem_plainIds_apiModels (name : String) :
    name ∈ plainIds host (apiModels host state) ↔
      name ∈ (state.backends.modelsCatalog state.health).map Prod.fst ++ state.rules.ruleNames := by
  unfold plainIds apiModels jsonReply
  simp only [host.serde.clientParse_toString, Option.bind_some, Json.asArray?_arr,
    Option.getD_some]
  simp [List.filterMap_map, Function.comp_def]

theorem nodup_ruleNames (resolver : RuleResolver) : resolver.ruleNames.Nodup := by
  exact (List.mergeSort_perm _ _).nodup_iff.mpr resolver.sets.keys_nodup

end Listings

/--
The listings are sets exactly when the models of healthy and degraded backends only
meet, and no rule set is named like a model on offer.
-/
theorem listings_are_sets_iff (host : Host) (state : ApiState τ) :
    ListingsAreSets host state ↔
      state.backends.RanksMeet state.health ∧
        ∀ ruleSet ∈ state.rules.ruleNames,
          ¬ ∃ name, state.backends.OffersLive state.health ruleSet name := by
  have offered (model : String) : model ∈ (state.backends.modelsCatalog state.health).map Prod.fst ↔
      ∃ name, state.backends.OffersLive state.health model name := RegistryInner.lists_iff
  rw [← RegistryInner.catalogueIsSet_iff]
  constructor
  · rintro ⟨catalogue, nodup, -⟩
    rw [listedIds_modelsOpenai, List.nodup_append] at nodup
    refine ⟨catalogue, fun ruleSet isRule offers => ?_⟩
    exact nodup.2.2 ruleSet ((offered ruleSet).mpr offers) ruleSet isRule rfl
  · rintro ⟨catalogue, apart⟩
    refine ⟨catalogue, ?_, fun name => ?_⟩
    · rw [listedIds_modelsOpenai, List.nodup_append]
      refine ⟨catalogue.nodup, nodup_ruleNames state.rules, ?_⟩
      rintro model listed _ isRule rfl
      exact apart model isRule ((offered model).mp listed)
    · rw [listedIds_modelsOpenai, mem_plainIds_apiModels]

/-- A custom endpoint that offers two models. -/
def twoModels (name : String) : Backend :=
  openAICompatBackend SerdeJson.compact
    { provider := .custom, apiKey := "key", models := ["glm-4", "glm-5"],
      baseUrl := some "https://models.example/v1", name := some name }

/-- Two endpoints with the same two models, the second of them degraded. -/
def halfDegraded : ApiState UInt64 :=
  { smallService [twoModels "first", twoModels "second"] [] with
    health := RegistryInner.degradedOnly "second" }

/-- The first model is listed a second time behind the second. -/
theorem listings_not_sets :
    ¬ ∀ (host : Host) (state : ApiState UInt64), ListingsAreSets host state := by
  intro sets
  have nodup := (sets Host.compact halfDegraded).catalogue.nodup
  exact absurd nodup (by decide)

end AiPowerGateway.Share

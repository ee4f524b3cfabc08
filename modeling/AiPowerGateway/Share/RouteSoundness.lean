import AiPowerGateway.Collections.Best
import AiPowerGateway.Share.CatalogueRouting
import Mathlib.Data.Prod.Lex

/-!
# What the router returns

A model goes to the last backend that offers it; a model that none offers goes to the
owner of its longest prefix, else to the only backend there is.  Health ranks decide
between prefixes of one length only, of which a model never has two: a degraded backend
that offers the model keeps it, whoever else offers it as well.
-/

namespace AiPowerGateway.Share

namespace RegistryInner

/-! ## The longest prefix -/

/-- Longer prefixes first, better ranks among equals. -/
def prefixKey (best : Nat × String × Nat) : Nat ×ₗ (Nat)ᵒᵈ :=
  toLex (best.1, OrderDual.toDual best.2.2)

/-- The prefix entries that can serve a model, as the scan records them. -/
def servingPrefixes (inner : RegistryInner) (health : HealthTable) (model : String) :
    List (Nat × String × Nat) :=
  (inner.prefixes.entries.filter fun entry =>
      inner.prefixServes health model entry.fst entry.snd).map fun entry =>
    (entry.fst.utf8ByteSize, entry.snd, health.routeRank entry.snd)

theorem better_iff {best : Nat × String × Nat} {len rank : Nat} {name : String} :
    better (some best) len rank = true ↔ prefixKey best < prefixKey (len, name, rank) := by
  obtain ⟨bestLen, bestName, bestRank⟩ := best
  rw [prefixKey, prefixKey, Prod.Lex.toLex_lt_toLex, OrderDual.toDual_lt_toDual]
  simp only [better, Bool.or_eq_true, Bool.and_eq_true, decide_eq_true_eq]
  rw [eq_comm (a := len)]

theorem bestPrefix_eq (inner : RegistryInner) (health : HealthTable) (model : String) :
    inner.bestPrefix health model =
      (inner.servingPrefixes health model).foldl (Best.improve prefixKey) none := by
  unfold bestPrefix servingPrefixes
  rw [List.foldl_map, List.foldl_filter]
  congr 1
  funext best entry
  cases serves : inner.prefixServes health model entry.fst entry.snd with
  | false => simp
  | true =>
      cases best with
      | none => simp [better, Best.improve]
      | some best =>
          have longer : better (some best) entry.fst.utf8ByteSize (health.routeRank entry.snd) =
              true ↔ prefixKey best < prefixKey
                (entry.fst.utf8ByteSize, entry.snd, health.routeRank entry.snd) := better_iff
          simp only [Bool.true_and, Best.improve, longer, if_true]

/-- The backend owns a registered prefix of the model. -/
structure OwnsPrefix (inner : RegistryInner) (model lead name : String) : Prop where
  registered : inner.prefixes.lookup lead = some name
  starts : Text.startsWith model lead = true

/-- Its prefix is the longest whose owner is not removed. -/
structure OwnsLongest (inner : RegistryInner) (health : HealthTable) (model lead name : String) :
    Prop where
  owns : inner.OwnsPrefix model lead name
  live : health.isRemoved name = false
  longest {other owner : String} : inner.OwnsPrefix model other owner →
    health.isRemoved owner = false → other.utf8ByteSize ≤ lead.utf8ByteSize

theorem mem_servingPrefixes {inner : RegistryInner} {health : HealthTable} {model : String}
    {best : Nat × String × Nat} :
    best ∈ inner.servingPrefixes health model ↔
      ∃ lead name, inner.OwnsPrefix model lead name ∧ health.isRemoved name = false ∧
        best = (lead.utf8ByteSize, name, health.routeRank name) := by
  unfold servingPrefixes
  rw [List.mem_map]
  constructor
  · rintro ⟨⟨lead, name⟩, mem, rfl⟩
    obtain ⟨stored, serves⟩ := List.mem_filter.mp mem
    simp only [prefixServes, Bool.and_eq_true, Bool.not_eq_true'] at serves
    exact ⟨lead, name, ⟨AList.mem_lookup_iff.mpr stored, serves.1.1⟩, serves.2, rfl⟩
  · rintro ⟨lead, name, owns, live, rfl⟩
    refine ⟨⟨lead, name⟩, List.mem_filter.mpr ⟨AList.mem_lookup_iff.mp owns.registered, ?_⟩, rfl⟩
    simp [prefixServes, owns.starts, inner.prefixes_registered owns.registered, live]

/-- The scan finds the longest prefix that can serve the model. -/
theorem ownsLongest_of_bestPrefix {inner : RegistryInner} {health : HealthTable}
    {model name : String} {len rank : Nat}
    (found : inner.bestPrefix health model = some (len, name, rank)) :
    ∃ lead, inner.OwnsLongest health model lead name := by
  have best := Best.isBest_scan prefixKey (inner.servingPrefixes health model)
  rw [← bestPrefix_eq, found] at best
  obtain ⟨mem, greatest⟩ := best
  obtain ⟨lead, _, owns, live, recorded⟩ := mem_servingPrefixes.mp mem
  cases recorded
  refine ⟨lead, owns, live, fun {other owner} otherOwns otherLive => ?_⟩
  have least := greatest _ (mem_servingPrefixes.mpr ⟨other, owner, otherOwns, otherLive, rfl⟩)
  rw [prefixKey, prefixKey, Prod.Lex.toLex_le_toLex] at least
  rcases least with shorter | ⟨same, -⟩
  · exact shorter.le
  · exact same.le

theorem not_serves_of_bestPrefix {inner : RegistryInner} {health : HealthTable} {model : String}
    (found : inner.bestPrefix health model = none) {lead name : String}
    (owns : inner.OwnsPrefix model lead name) : health.isRemoved name = true := by
  have best := Best.isBest_scan prefixKey (inner.servingPrefixes health model)
  rw [← bestPrefix_eq, found] at best
  by_contra live
  rw [Bool.not_eq_true] at live
  have mem := mem_servingPrefixes.mpr ⟨lead, name, owns, live, rfl⟩
  rw [show inner.servingPrefixes health model = [] from best] at mem
  cases mem

theorem bestPrefix_eq_none_iff {inner : RegistryInner} {health : HealthTable} {model : String} :
    inner.bestPrefix health model = none ↔
      ∀ lead name, inner.OwnsPrefix model lead name → health.isRemoved name = true := by
  constructor
  · exact fun none _ _ owns => not_serves_of_bestPrefix none owns
  · intro removed
    cases best : inner.bestPrefix health model with
    | none => rfl
    | some found =>
        obtain ⟨lead, longest⟩ := ownsLongest_of_bestPrefix best
        have gone := removed lead _ longest.owns
        rw [longest.live] at gone
        cases gone

/-- Some owner of a prefix that is not removed owns the longest. -/
theorem exists_ownsLongest {inner : RegistryInner} {health : HealthTable}
    {model lead name : String} (owns : inner.OwnsPrefix model lead name)
    (live : health.isRemoved name = false) :
    ∃ len rank longest owner, inner.bestPrefix health model = some (len, owner, rank) ∧
      inner.OwnsLongest health model longest owner := by
  cases best : inner.bestPrefix health model with
  | none =>
      have removed := not_serves_of_bestPrefix best owns
      rw [live] at removed
      cases removed
  | some found =>
      obtain ⟨longest, isLongest⟩ := ownsLongest_of_bestPrefix best
      exact ⟨_, _, longest, _, rfl, isLongest⟩

/-- Two prefixes of one length are one prefix, and have one owner. -/
theorem OwnsPrefix.owner_eq {inner : RegistryInner} {model lead otherLead name owner : String}
    (owns : inner.OwnsPrefix model lead name) (other : inner.OwnsPrefix model otherLead owner)
    (size : otherLead.utf8ByteSize = lead.utf8ByteSize) : owner = name := by
  have same := Text.startsWith_inj other.starts owns.starts size
  have registered := other.registered
  rw [same, owns.registered] at registered
  exact (Option.some.inj registered).symm

/-- All longest prefixes have the owner that the scan finds. -/
theorem OwnsLongest.owner_eq {inner : RegistryInner} {health : HealthTable}
    {model lead otherLead name owner : String} (longest : inner.OwnsLongest health model lead name)
    (other : inner.OwnsLongest health model otherLead owner) : owner = name :=
  longest.owns.owner_eq other.owns
    (Nat.le_antisymm (longest.longest other.owns other.live)
      (other.longest longest.owns longest.live))

/-! ## The three stages -/

/-- Why a backend is the route of a model. -/
inductive Reason (backends : List Backend) (inner : RegistryInner) (health : HealthTable)
    (model : String) (backend : Backend) : Prop where
  | offers (last : lastOffering backends model = some backend)
  | owns (unoffered : lastOffering backends model = none) {lead : String}
      (longest : inner.OwnsLongest health model lead backend.name)
  | only (unoffered : lastOffering backends model = none)
      (unowned : ∀ lead name, inner.OwnsPrefix model lead name → health.isRemoved name = true)
      (single : backends = [backend])

theorem exactRoute_eq_none {backends : List Backend} {registry : RegistryInner}
    (order : registry.Reordered (replaceAll backends)) {model : String}
    (unoffered : lastOffering backends model = none) : registry.exactRoute model = none := by
  unfold exactRoute
  rw [HashMap.lookup_reordered order.exact, exact_replaceAll, unoffered]
  rfl

section Configured

variable {backends : List Backend} (distinct : (backends.map Backend.name).Nodup)
  {registry : RegistryInner} (order : registry.Reordered (replaceAll backends))

include distinct order

theorem registered_iff {name : String} {backend : Backend} :
    registry.backends.lookup name = some backend ↔ backend ∈ backends ∧ backend.name = name := by
  rw [HashMap.lookup_reordered order.backends, lookup_replaceAll distinct]

theorem registered_of_entry {entry : Σ _ : String, Backend}
    (mem : entry ∈ registry.backends.entries) :
    entry.snd ∈ backends ∧ entry.snd.name = entry.fst :=
  (registered_iff distinct order).mp (AList.mem_lookup_iff.mpr mem)

/-- The only entry of the table is the only backend of the configuration. -/
theorem eq_singleton_of_entries {entry : Σ _ : String, Backend}
    (entries : registry.backends.entries = [entry]) : backends = [entry.snd] := by
  have stored {backend : Backend} : backend ∈ backends ↔ backend = entry.snd := by
    constructor
    · intro mem
      have found := (registered_iff distinct order).mpr ⟨mem, rfl⟩
      have inEntries := AList.mem_lookup_iff.mp found
      rw [entries, List.mem_singleton] at inEntries
      rw [← inEntries]
    · rintro rfl
      have mem : entry ∈ registry.backends.entries := by
        rw [entries]
        exact List.mem_singleton_self entry
      exact (registered_of_entry distinct order mem).1
  have nodup : backends.Nodup := distinct.of_map
  cases backends with
  | nil => exact absurd (stored.mpr rfl) List.not_mem_nil
  | cons first rest =>
      have firstSame : first = entry.snd := stored.mp List.mem_cons_self
      cases rest with
      | nil => rw [firstSame]
      | cons second rest =>
          have secondSame : second = entry.snd := stored.mp (by simp)
          rw [firstSame, secondSame] at nodup
          simp at nodup

theorem route_reason {health : HealthTable} {model name : String} {backend : Backend}
    (routed : registry.route health model = some (name, backend)) :
    backend ∈ backends ∧ backend.name = name ∧ health.isRemoved name = false ∧
      Reason backends registry health model backend := by
  cases offered : lastOffering backends model with
  | some last =>
      rw [route_configured distinct order offered] at routed
      split at routed
      · cases routed
      · next live =>
          cases routed
          exact ⟨(lastOffering_spec offered).1, rfl, by simpa using live, .offers offered⟩
  | none =>
      simp only [route, exactRoute_eq_none order offered, fallbackRoute] at routed
      split at routed
      · next best =>
          obtain ⟨lead, longest⟩ := ownsLongest_of_bestPrefix best
          rw [Option.map_eq_some_iff] at routed
          obtain ⟨_, found, same⟩ := routed
          cases same
          obtain ⟨mem, named⟩ := (registered_iff distinct order).mp found
          subst named
          exact ⟨mem, rfl, longest.live, .owns offered longest⟩
      · next none =>
          split at routed
          · next entry entries =>
              split at routed
              · cases routed
              · next live =>
                  cases routed
                  have inTable : entry ∈ registry.backends.entries := by
                    rw [entries]
                    exact List.mem_singleton_self entry
                  obtain ⟨mem, named⟩ := registered_of_entry distinct order inTable
                  refine ⟨mem, named, by simpa using live, .only offered ?_ ?_⟩
                  · exact bestPrefix_eq_none_iff.mp none
                  · exact eq_singleton_of_entries distinct order entries
          · cases routed

end Configured

/--
The tables name registered backends only, so the name of a best prefix is found again;
a route is a registered backend that is not removed, and it is the last to offer the
model, or the owner of its longest prefix when none offers it, or the only backend.
-/
theorem route_sound {backends : List Backend} (distinct : (backends.map Backend.name).Nodup)
    {registry : RegistryInner} (order : registry.Reordered (replaceAll backends))
    (health : HealthTable) :
    (∀ model name, registry.exact.lookup model = some name →
      ∃ backend ∈ backends, backend.name = name) ∧
    (∀ lead name, registry.prefixes.lookup lead = some name →
      ∃ backend ∈ backends, backend.name = name) ∧
    (∀ model len name rank, registry.bestPrefix health model = some (len, name, rank) →
      (registry.backends.lookup name).isSome) ∧
    ∀ model name backend, registry.route health model = some (name, backend) →
      health.level? name ≠ some .removed ∧ registry.backends.lookup name = some backend ∧
        Reason backends registry health model backend := by
  have registered {name : String} (found : (registry.backends.lookup name).isSome) :
      ∃ backend ∈ backends, backend.name = name := by
    obtain ⟨backend, stored⟩ := Option.isSome_iff_exists.mp found
    exact ⟨backend, (registered_iff distinct order).mp stored⟩
  refine ⟨fun model name found => registered (registry.exact_registered found),
    fun lead name found => registered (registry.prefixes_registered found),
    fun model len name rank best => ?_, fun model name backend routed => ?_⟩
  · obtain ⟨lead, longest⟩ := ownsLongest_of_bestPrefix best
    exact registry.prefixes_registered longest.owns.registered
  · obtain ⟨mem, named, live, reason⟩ := route_reason distinct order routed
    refine ⟨fun removed => ?_, (registered_iff distinct order).mpr ⟨mem, named⟩, reason⟩
    rw [HealthTable.isRemoved, removed] at live
    simp at live

/-! ## Degraded backends -/

/-- The backend is in order, as far as anyone has tested it. -/
def Healthy (health : HealthTable) (name : String) : Prop :=
  health.level? name = none ∨ health.level? name = some .ok

/--
A degraded backend is the route of a model only when no healthy one offers it, or,
where none offers it, owns a prefix of it of the same length.
-/
def DegradedYields (backends : List Backend) (registry : RegistryInner) (health : HealthTable)
    (model : String) : Prop :=
  ∀ name backend, registry.route health model = some (name, backend) →
    health.level? name = some .degraded →
    (∀ other ∈ backends, other.Offers model → ¬ Healthy health other.name) ∧
      (lastOffering backends model = none → ∀ lead otherLead owner,
        registry.OwnsPrefix model lead name → registry.OwnsPrefix model otherLead owner →
        otherLead.utf8ByteSize = lead.utf8ByteSize → ¬ Healthy health owner)

/-- The last backend to offer the model is degraded, and a healthy one offers it too. -/
def LastDegraded (backends : List Backend) (health : HealthTable) (model : String) : Prop :=
  (∃ last, lastOffering backends model = some last ∧
      health.level? last.name = some .degraded) ∧
    ∃ other ∈ backends, other.Offers model ∧ Healthy health other.name

theorem not_healthy_of_degraded {health : HealthTable} {name : String}
    (degraded : health.level? name = some .degraded) : ¬ Healthy health name := by
  simp [Healthy, degraded]

/--
Degraded backends yield to healthy ones exactly when the last backend to offer the
model is not degraded, or none that offers it is healthy.
-/
theorem degraded_yields_iff {backends : List Backend}
    (distinct : (backends.map Backend.name).Nodup) {registry : RegistryInner}
    (order : registry.Reordered (replaceAll backends)) (health : HealthTable) (model : String) :
    DegradedYields backends registry health model ↔ ¬ LastDegraded backends health model := by
  constructor
  · rintro yields ⟨⟨last, offered, degraded⟩, other, mem, offers, healthy⟩
    have live : health.isRemoved last.name = false := by simp [HealthTable.isRemoved, degraded]
    have routed : registry.route health model = some (last.name, last) := by
      rw [route_configured distinct order offered, live]
      rfl
    exact (yields last.name last routed degraded).1 other mem offers healthy
  · intro alone name backend routed degraded
    constructor
    · intro other mem offers healthy
      obtain ⟨last, offered⟩ := lastOffering_of_mem mem offers
      rw [route_configured distinct order offered] at routed
      split at routed
      · cases routed
      · cases routed
        exact alone ⟨⟨backend, offered, degraded⟩, other, mem, offers, healthy⟩
    · intro _ lead otherLead owner owns otherOwns size
      rw [owns.owner_eq otherOwns size]
      exact not_healthy_of_degraded degraded

/-- The tables as they were filled. -/
theorem Reordered.refl (inner : RegistryInner) : inner.Reordered inner :=
  ⟨List.Perm.refl _, List.Perm.refl _, List.Perm.refl _⟩

theorem sharedModel_distinct : (sharedModel.map Backend.name).Nodup := by decide

theorem route_sound_shared :
    Reason sharedModel (replaceAll sharedModel) none "glm-4" (glmBackend "second") :=
  ((route_sound sharedModel_distinct (.refl _) none).2.2.2 "glm-4" "second" _ rfl).2.2

/-- A health table in which one backend is degraded. -/
def degradedOnly (name : String) : HealthTable :=
  some ((∅ : HashMap ProviderState).insert name ⟨.degraded, 3, none, some "timeout"⟩)

theorem degraded_yields_first :
    DegradedYields sharedModel (replaceAll sharedModel) (degradedOnly "first") "glm-4" := by
  refine (degraded_yields_iff sharedModel_distinct (.refl _) (degradedOnly "first") "glm-4").mpr ?_
  rintro ⟨⟨last, offered, degraded⟩, -⟩
  have second : last.name = "second" := by
    have names := congrArg (Option.map Backend.name) offered
    exact (Option.some.inj names).symm
  rw [second] at degraded
  exact absurd degraded (by decide)

/-- The second backend keeps the model that the first offers in good health. -/
theorem degraded_does_not_yield :
    ¬ ∀ (backends : List Backend) (registry : RegistryInner) (health : HealthTable)
        (model : String), (backends.map Backend.name).Nodup →
      registry.Reordered (replaceAll backends) →
        DegradedYields backends registry health model := by
  intro yields
  have second := yields sharedModel (replaceAll sharedModel) (degradedOnly "second") "glm-4"
    sharedModel_distinct (.refl _) "second" _ rfl (by decide)
  have offers : (glmBackend "first").Offers "glm-4" := by
    unfold Backend.Offers
    decide
  exact second.1 (glmBackend "first") List.mem_cons_self offers (Or.inl rfl)

end RegistryInner

end AiPowerGateway.Share

import AiPowerGateway.Share.CatalogueSet

/-!
# The order of registration

Backends are registered one after the other, and a later one takes over what an earlier
one has claimed.  Where no two of them claim the same, only the mock notices the order: it
takes its prefix when it comes first.
-/

namespace AiPowerGateway.Share

namespace RegistryInner

/-! ## When a backend is the route -/

section Configured

variable {backends : List Backend} (distinct : (backends.map Backend.name).Nodup)
  {registry : RegistryInner} (order : registry.Reordered (replaceAll backends))
  {health : HealthTable} {model : String} {backend : Backend}

include distinct order

/-- The owner of the longest prefix is the route of a model that none offers. -/
theorem route_of_ownsLongest (unoffered : lastOffering backends model = none)
    (mem : backend ∈ backends) {lead : String}
    (longest : registry.OwnsLongest health model lead backend.name) :
    registry.route health model = some (backend.name, backend) := by
  obtain ⟨len, rank, _, owner, best, scanned⟩ := exists_ownsLongest longest.owns longest.live
  obtain rfl : owner = backend.name := longest.owner_eq scanned
  have stored : registry.backends.lookup backend.name = some backend :=
    (registered_iff distinct order).mpr ⟨mem, rfl⟩
  simp only [route, exactRoute_eq_none order unoffered, fallbackRoute, best, stored,
    Option.map_some]

omit distinct in
/-- The only backend is the route of a model that nothing else decides. -/
theorem route_of_single (unoffered : lastOffering backends model = none)
    (unowned : ∀ lead name, registry.OwnsPrefix model lead name → health.isRemoved name = true)
    (single : backends = [backend]) (live : health.isRemoved backend.name = false) :
    registry.route health model = some (backend.name, backend) := by
  have best : registry.bestPrefix health model = none := bestPrefix_eq_none_iff.mpr unowned
  have entries : registry.backends.entries = [⟨backend.name, backend⟩] := by
    have perm := order.backends
    rw [single] at perm
    exact List.perm_singleton.mp perm
  simp only [route, exactRoute_eq_none order unoffered, fallbackRoute, best, entries, live,
    Bool.false_eq_true, ↓reduceIte]

/-- A backend is the route exactly when it is not removed and one of the stages chooses it. -/
theorem route_iff {name : String} :
    registry.route health model = some (name, backend) ↔
      backend ∈ backends ∧ backend.name = name ∧ health.isRemoved name = false ∧
        Reason backends registry health model backend := by
  constructor
  · exact route_reason distinct order
  · rintro ⟨mem, rfl, live, reason⟩
    cases reason with
    | offers last =>
        rw [route_configured distinct order last, live]
        rfl
    | owns unoffered longest => exact route_of_ownsLongest distinct order unoffered mem longest
    | only unoffered unowned single =>
        exact route_of_single order unoffered unowned single live

end Configured

/-! ## Claims that do not overlap -/

/-- No two backends have one name, own one prefix or offer one model. -/
structure ClaimsDisjoint (backends : List Backend) : Prop where
  names : (backends.map Backend.name).Nodup
  prefixes : (backends.filterMap fun backend => prefixFor backend.provider).Nodup
  models : backends.Pairwise fun first second => ∀ model, first.Offers model → ¬ second.Offers model

/-- The mock comes first. -/
def MockFirst (backends : List Backend) : Prop :=
  ∃ backend, backends.head? = some backend ∧ backend.provider = .mock

/-- The backend takes the prefix of its provider; a mock does when it comes first. -/
structure TakesPrefix (backends : List Backend) (lead : String) (backend : Backend) : Prop where
  mem : backend ∈ backends
  own : prefixFor backend.provider = some lead
  first : backend.provider = .mock → backends.head? = some backend

section Disjoint

variable {backends reordered : List Backend}

theorem ClaimsDisjoint.perm (disjoint : ClaimsDisjoint backends)
    (perm : backends.Perm reordered) : ClaimsDisjoint reordered where
  names := (perm.map _).nodup disjoint.names
  prefixes := (perm.filterMap _).nodup disjoint.prefixes
  models := (perm.pairwise_iff fun apart model offers other =>
    apart model other offers).mp disjoint.models

theorem replaceAll_concat (backends : List Backend) (backend : Backend) :
    replaceAll (backends ++ [backend]) = (replaceAll backends).register backend := by
  rw [replaceAll, List.foldl_append]
  rfl

theorem entries_replaceAll_eq_nil :
    (replaceAll backends).backends.entries = [] ↔ backends = [] := by
  constructor
  · intro none
    cases backends using List.reverseRecOn with
    | nil => rfl
    | append_singleton earlier last =>
        have found : (replaceAll (earlier ++ [last])).backends.lookup last.name = some last := by
          rw [replaceAll_concat, lookup_register]
          simp
        have mem := AList.mem_lookup_iff.mp found
        rw [none] at mem
        cases mem
  · rintro rfl
    rfl

/-- A registration writes the prefix of its backend, unless a mock comes too late. -/
theorem prefixes_register (inner : RegistryInner) (backend : Backend) (lead : String) :
    (inner.register backend).prefixes.lookup lead =
      if prefixFor backend.provider = some lead ∧
          (backend.provider ≠ .mock ∨ inner.backends.entries = []) then some backend.name
      else inner.prefixes.lookup lead := by
  have claims : (inner.register backend).prefixes = inner.claimPrefix backend := rfl
  rw [claims, claimPrefix]
  cases own : prefixFor backend.provider with
  | none => simp
  | some ownLead =>
      simp only [Option.some.injEq]
      by_cases first : backend.provider ≠ .mock ∨ inner.backends.entries = []
      · simp only [if_pos first]
        by_cases same : ownLead = lead
        · subst same
          simp [first]
        · simp [same, AList.lookup_insert_ne (Ne.symm same)]
      · simp only [first, and_false, ↓reduceIte]

/-- The last of the backends takes its prefix if it is no mock that comes too late. -/
theorem takesPrefix_concat {earlier : List Backend} {last backend : Backend} {lead : String}
    (apart : ∀ other ∈ earlier, prefixFor other.provider = some lead →
      prefixFor last.provider ≠ some lead) :
    TakesPrefix (earlier ++ [last]) lead backend ↔
      TakesPrefix earlier lead backend ∨
        backend = last ∧ prefixFor last.provider = some lead ∧
          (last.provider ≠ .mock ∨ earlier = []) := by
  constructor
  · rintro ⟨mem, own, first⟩
    rcases List.mem_append.mp mem with mem | mem
    · refine Or.inl ⟨mem, own, fun mock => ?_⟩
      have head := first mock
      rwa [List.head?_append_of_ne_nil _ (List.ne_nil_of_mem mem)] at head
    · obtain rfl := List.mem_singleton.mp mem
      refine Or.inr ⟨rfl, own, ?_⟩
      by_cases mock : backend.provider = .mock
      · refine Or.inr ?_
        cases earlier with
        | nil => rfl
        | cons head rest =>
            obtain rfl : head = backend := Option.some.inj (first mock)
            exact absurd own (apart head List.mem_cons_self own)
      · exact Or.inl mock
  · rintro (takes | ⟨rfl, own, first⟩)
    · refine ⟨List.mem_append_left _ takes.mem, takes.own, fun mock => ?_⟩
      rw [List.head?_append_of_ne_nil _ (List.ne_nil_of_mem takes.mem)]
      exact takes.first mock
    · refine ⟨by simp, own, fun mock => ?_⟩
      rw [first.resolve_left (not_not.mpr mock)]
      rfl

/-- With distinct prefixes, each belongs to the backend that takes it. -/
theorem prefixes_replaceAll
    (distinct : (backends.filterMap fun backend => prefixFor backend.provider).Nodup)
    {lead name : String} :
    (replaceAll backends).prefixes.lookup lead = some name ↔
      ∃ backend, TakesPrefix backends lead backend ∧ backend.name = name := by
  induction backends using List.reverseRecOn with
  | nil =>
      constructor
      · intro found
        simp [replaceAll, empty] at found
      · rintro ⟨backend, takes, -⟩
        cases takes.mem
  | append_singleton earlier last ih =>
      rw [List.filterMap_append, List.nodup_append'] at distinct
      obtain ⟨earlierDistinct, -, disjoint⟩ := distinct
      have apart : ∀ other ∈ earlier, prefixFor other.provider = some lead →
          prefixFor last.provider ≠ some lead := by
        intro other mem own lastOwn
        exact disjoint (List.mem_filterMap.mpr ⟨other, mem, own⟩) (by simp [lastOwn])
      simp only [replaceAll_concat, prefixes_register, entries_replaceAll_eq_nil,
        takesPrefix_concat apart]
      by_cases claims : prefixFor last.provider = some lead ∧
          (last.provider ≠ .mock ∨ earlier = [])
      · have none : ∀ backend, ¬ TakesPrefix earlier lead backend := fun backend takes =>
          apart backend takes.mem takes.own claims.1
        simp [claims, none]
      · simp only [claims, ↓reduceIte, and_false, or_false]
        exact ih earlierDistinct

/-- Where no model is offered twice, the last to offer one is the only one. -/
theorem lastOffering_iff (disjoint : ClaimsDisjoint backends) {model : String}
    {backend : Backend} :
    lastOffering backends model = some backend ↔ backend ∈ backends ∧ backend.Offers model := by
  constructor
  · exact lastOffering_spec
  · rintro ⟨mem, offers⟩
    obtain ⟨last, found⟩ := lastOffering_of_mem mem offers
    obtain ⟨lastMem, lastOffers⟩ := lastOffering_spec found
    by_cases same : backend = last
    · rw [found, same]
    · have symmetric : Std.Symm fun first second : Backend =>
          ∀ model, first.Offers model → ¬ second.Offers model :=
        ⟨fun _ _ apart model offers other => apart model other offers⟩
      exact absurd lastOffers (disjoint.models.forall mem lastMem same model offers)

/-- Only one backend offers a model. -/
theorem eq_of_offers (disjoint : ClaimsDisjoint backends) {model : String}
    {first second : Backend} (mem : first ∈ backends) (secondMem : second ∈ backends)
    (offers : first.Offers model) (secondOffers : second.Offers model) : first = second := by
  have found := (lastOffering_iff disjoint).mpr ⟨mem, offers⟩
  rw [(lastOffering_iff disjoint).mpr ⟨secondMem, secondOffers⟩] at found
  exact (Option.some.inj found).symm

theorem lastOffering_perm (disjoint : ClaimsDisjoint backends)
    (perm : backends.Perm reordered) (model : String) :
    lastOffering backends model = lastOffering reordered model := by
  apply Option.ext
  intro backend
  rw [lastOffering_iff disjoint, lastOffering_iff (disjoint.perm perm), perm.mem_iff]

/-- A model that starts like those of the mock starts like those of no other provider. -/
theorem eq_mock_of_startsWith {provider : Provider} {model lead : String}
    (own : prefixFor provider = some lead) (starts : Text.startsWith model lead = true)
    (mockLike : Text.startsWith model "mock-" = true) : provider = .mock := by
  have comparable := List.prefix_or_prefix_of_prefix (List.isPrefixOf_iff_prefix.mp starts)
    (List.isPrefixOf_iff_prefix.mp mockLike)
  cases provider with
  | mock => rfl
  | deepSeek | kimi | zhipu =>
      obtain rfl := Option.some.inj own
      revert comparable
      decide
  | codeBuddy | custom => cases own

theorem eq_of_prefix (disjoint : ClaimsDisjoint backends) {first second : Backend}
    {lead : String} (mem : first ∈ backends) (secondMem : second ∈ backends)
    (own : prefixFor first.provider = some lead)
    (secondOwn : prefixFor second.provider = some lead) : first = second := by
  by_contra differ
  have apart := List.pairwise_filterMap.mp disjoint.prefixes
  have symmetric : Std.Symm fun first second : Backend => ∀ lead,
      prefixFor first.provider = some lead → ∀ other, prefixFor second.provider = some other →
        lead ≠ other :=
    ⟨fun _ _ apart lead own other otherOwn => (apart other otherOwn lead own).symm⟩
  exact apart.forall mem secondMem differ lead own lead secondOwn rfl

end Disjoint

/-! ## The catalogue -/

section Catalogue

variable {backends reordered : List Backend} {first second : RegistryInner}

theorem backends_reordered (disjoint : ClaimsDisjoint backends)
    (perm : backends.Perm reordered) (order : first.Reordered (replaceAll backends))
    (otherOrder : second.Reordered (replaceAll reordered)) :
    first.backends.Reordered second.backends := by
  refine List.lookup_ext first.backends.nodupKeys second.backends.nodupKeys fun name backend => ?_
  have found : first.backends.lookup name = some backend ↔
      second.backends.lookup name = some backend := by
    rw [registered_iff disjoint.names order,
      registered_iff (disjoint.perm perm).names otherOrder, perm.mem_iff]
  exact found

/-- Entries that the catalogue does not order have one model name. -/
theorem eq_of_catalogueLe {health : HealthTable} {entry other : String × String}
    (before : CatalogueLe health entry other) (after : CatalogueLe health other entry) :
    entry.1 = other.1 := by
  unfold CatalogueLe at before after
  rw [not_lt] at before after
  rcases before with lower | ⟨same, le⟩
  · rcases after with higher | ⟨same, -⟩ <;> omega
  · rcases after with higher | ⟨-, ge⟩
    · omega
    · exact le_antisymm le ge

theorem modelsCatalog_perm (disjoint : ClaimsDisjoint backends)
    (perm : backends.Perm reordered) (order : first.Reordered (replaceAll backends))
    (otherOrder : second.Reordered (replaceAll reordered)) (health : HealthTable) :
    first.modelsCatalog health = second.modelsCatalog health := by
  have live : (first.liveModels health).Perm (second.liveModels health) :=
    (backends_reordered disjoint perm order otherOrder).flatMap_right _
  have sorted : first.sortedModels health = second.sortedModels health := by
    refine List.Perm.eq_of_pairwise ?_ pairwise_sortedModels pairwise_sortedModels
      ((List.perm_insertionSort _ _).trans
        (live.trans (List.perm_insertionSort _ _).symm))
    rintro ⟨model, name⟩ ⟨otherModel, otherName⟩ mem otherMem before after
    obtain ⟨backend, found, -, offers⟩ := mem_sortedModels.mp mem
    obtain ⟨other, otherFound, -, otherOffers⟩ := mem_sortedModels.mp otherMem
    obtain rfl : model = otherModel := eq_of_catalogueLe before after
    obtain ⟨stored, rfl⟩ := (registered_iff disjoint.names order).mp found
    obtain ⟨otherStored, rfl⟩ :=
      (registered_iff (disjoint.perm perm).names otherOrder).mp otherFound
    rw [eq_of_offers disjoint stored (perm.mem_iff.mpr otherStored) offers otherOffers]
  exact congrArg (List.destutter fun first second => first.1 ≠ second.1) sorted

end Catalogue

/-! ## The routes -/

/--
A model that looks like one of the mock is offered by no backend, and there is a mock that
is not removed.
-/
structure MockWanted (backends : List Backend) (health : HealthTable) (model : String) :
    Prop where
  mockLike : Text.startsWith model "mock-" = true
  unoffered : ∀ backend ∈ backends, ¬ backend.Offers model
  live : ∃ backend ∈ backends, backend.provider = .mock ∧ health.isRemoved backend.name = false

/-- Two registries answer alike: the route of the model, and the catalogue. -/
structure SameAnswers (first second : RegistryInner) (health : HealthTable) (model : String) :
    Prop where
  route : first.route health model = second.route health model
  catalogue : first.modelsCatalog health = second.modelsCatalog health

section Routes

variable {backends reordered : List Backend} {first second : RegistryInner}
  {health : HealthTable} {model : String} {backend : Backend}

/-- The reason for a route depends on the owners of prefixes that are not removed. -/
theorem Reason.transfer (offering : lastOffering backends model = lastOffering reordered model)
    (owners : lastOffering backends model = none → ∀ lead name, health.isRemoved name = false →
      (first.OwnsPrefix model lead name ↔ second.OwnsPrefix model lead name))
    (single : backends = [backend] → reordered = [backend])
    (reason : Reason backends first health model backend) :
    Reason reordered second health model backend := by
  cases reason with
  | offers last => exact .offers (offering ▸ last)
  | owns unoffered longest =>
      refine .owns (offering ▸ unoffered) ⟨(owners unoffered _ _ longest.live).mp longest.owns,
        longest.live, fun otherOwns live => ?_⟩
      exact longest.longest ((owners unoffered _ _ live).mpr otherOwns) live
  | only unoffered unowned alone =>
      refine .only (offering ▸ unoffered) (fun lead name owns => ?_) (single alone)
      by_contra live
      rw [Bool.not_eq_true] at live
      have removed := unowned lead name ((owners unoffered lead name live).mpr owns)
      rw [live] at removed
      cases removed

theorem ownsPrefix_iff (disjoint : ClaimsDisjoint backends)
    (order : first.Reordered (replaceAll backends)) {lead name : String} :
    first.OwnsPrefix model lead name ↔
      (∃ backend, TakesPrefix backends lead backend ∧ backend.name = name) ∧
        Text.startsWith model lead = true := by
  rw [← prefixes_replaceAll disjoint.prefixes, ← HashMap.lookup_reordered order.prefixes]
  exact ⟨fun owns => ⟨owns.registered, owns.starts⟩, fun ⟨registered, starts⟩ =>
    ⟨registered, starts⟩⟩

theorem unoffered_iff : lastOffering backends model = none ↔
    ∀ backend ∈ backends, ¬ backend.Offers model := by
  simp [lastOffering, List.find?_eq_none]

/-- There is one mock at most. -/
theorem eq_of_mock (disjoint : ClaimsDisjoint backends) {other : Backend}
    (mem : backend ∈ backends) (otherMem : other ∈ backends) (mock : backend.provider = .mock)
    (otherMock : other.provider = .mock) : backend = other := by
  have own : prefixFor backend.provider = some "mock-" := by
    rw [mock]
    rfl
  refine eq_of_prefix disjoint mem otherMem own ?_
  rw [otherMock]
  rfl

/-- A mock that comes first in both orders, or in none, takes the same prefix in both. -/
theorem TakesPrefix.perm (disjoint : ClaimsDisjoint backends)
    (perm : backends.Perm reordered) {lead : String}
    (takes : TakesPrefix backends lead backend)
    (kept : backend.provider = .mock → MockFirst backends → MockFirst reordered) :
    TakesPrefix reordered lead backend := by
  refine ⟨perm.mem_iff.mp takes.mem, takes.own, fun mock => ?_⟩
  obtain ⟨other, head, otherMock⟩ := kept mock ⟨backend, takes.first mock, mock⟩
  have otherMem : other ∈ reordered := List.mem_of_mem_head? head
  obtain rfl := eq_of_mock (disjoint.perm perm) (perm.mem_iff.mp takes.mem) otherMem mock otherMock
  exact head

/-- The owners of a model's prefixes, where the mock is not wanted or keeps its place. -/
theorem ownsPrefix_of_perm (disjoint : ClaimsDisjoint backends)
    (perm : backends.Perm reordered) (order : first.Reordered (replaceAll backends))
    (otherOrder : second.Reordered (replaceAll reordered))
    (kept : MockWanted backends health model → MockFirst backends → MockFirst reordered)
    (unoffered : lastOffering backends model = none) {lead name : String}
    (live : health.isRemoved name = false) (owns : first.OwnsPrefix model lead name) :
    second.OwnsPrefix model lead name := by
  obtain ⟨⟨backend, takes, rfl⟩, starts⟩ := (ownsPrefix_iff disjoint order).mp owns
  refine (ownsPrefix_iff (disjoint.perm perm) otherOrder).mpr
    ⟨⟨backend, takes.perm disjoint perm fun mock => kept ?_, rfl⟩, starts⟩
  have own := takes.own
  rw [mock] at own
  obtain rfl := Option.some.inj own
  exact ⟨starts, unoffered_iff.mp unoffered, backend, takes.mem, mock, live⟩

theorem MockWanted.perm (perm : backends.Perm reordered)
    (wanted : MockWanted backends health model) : MockWanted reordered health model := by
  obtain ⟨mockLike, unoffered, backend, mem, mock⟩ := wanted
  exact ⟨mockLike, fun backend mem => unoffered backend (perm.mem_iff.mpr mem),
    backend, perm.mem_iff.mp mem, mock⟩

theorem route_of_perm (disjoint : ClaimsDisjoint backends)
    (perm : backends.Perm reordered) (order : first.Reordered (replaceAll backends))
    (otherOrder : second.Reordered (replaceAll reordered))
    (kept : MockWanted backends health model → (MockFirst backends ↔ MockFirst reordered))
    {name : String} (routed : first.route health model = some (name, backend)) :
    second.route health model = some (name, backend) := by
  have otherDisjoint := disjoint.perm perm
  obtain ⟨mem, named, live, reason⟩ := (route_iff disjoint.names order).mp routed
  refine (route_iff otherDisjoint.names otherOrder).mpr
    ⟨perm.mem_iff.mp mem, named, live, reason.transfer (lastOffering_perm disjoint perm model)
      (fun unoffered lead owner ownerLive => ⟨?_, ?_⟩) fun alone => ?_⟩
  · exact ownsPrefix_of_perm disjoint perm order otherOrder (fun wanted => (kept wanted).mp)
      unoffered ownerLive
  · refine ownsPrefix_of_perm otherDisjoint perm.symm otherOrder order
      (fun wanted => (kept (wanted.perm perm.symm)).mpr) ?_ ownerLive
    rw [← lastOffering_perm disjoint perm model, unoffered]
  · rw [alone] at perm
    exact (List.singleton_perm.mp perm).symm

/-- A wanted mock that comes first is the route. -/
theorem route_of_mockFirst (disjoint : ClaimsDisjoint backends)
    (order : first.Reordered (replaceAll backends))
    (wanted : MockWanted backends health model) (mockFirst : MockFirst backends) :
    ∃ backend, backend.provider = .mock ∧
      first.route health model = some (backend.name, backend) := by
  obtain ⟨mockLike, unoffered, backend, mem, mock, live⟩ := wanted
  obtain ⟨head, isHead, headMock⟩ := mockFirst
  obtain rfl := eq_of_mock disjoint mem (List.mem_of_mem_head? isHead) mock headMock
  have takes : TakesPrefix backends "mock-" backend := ⟨mem, by rw [mock]; rfl, fun _ => isHead⟩
  have owns : first.OwnsPrefix model "mock-" backend.name :=
    (ownsPrefix_iff disjoint order).mpr ⟨⟨backend, takes, rfl⟩, mockLike⟩
  refine ⟨backend, mock, (route_iff disjoint.names order).mpr
    ⟨mem, rfl, live, .owns (unoffered_iff.mpr unoffered) ⟨owns, live, ?_⟩⟩⟩
  intro lead owner otherOwns otherLive
  obtain ⟨⟨other, otherTakes, rfl⟩, starts⟩ := (ownsPrefix_iff disjoint order).mp otherOwns
  have own := otherTakes.own
  rw [eq_mock_of_startsWith own starts mockLike] at own
  rw [← Option.some.inj own]

/-- A mock that is the route of a model that none offers comes first. -/
theorem mockFirst_of_route (disjoint : ClaimsDisjoint backends)
    (order : first.Reordered (replaceAll backends))
    (unoffered : ∀ backend ∈ backends, ¬ backend.Offers model) (mock : backend.provider = .mock)
    (routed : first.route health model = some (backend.name, backend)) : MockFirst backends := by
  obtain ⟨mem, -, -, reason⟩ := (route_iff disjoint.names order).mp routed
  cases reason with
  | offers last => exact absurd (lastOffering_spec last).2 (unoffered backend mem)
  | owns _ longest =>
      obtain ⟨⟨other, takes, named⟩, -⟩ := (ownsPrefix_iff disjoint order).mp longest.owns
      obtain rfl := List.inj_on_of_nodup_map disjoint.names takes.mem mem named
      exact ⟨other, takes.first mock, mock⟩
  | only _ _ single => exact ⟨backend, by rw [single]; rfl, mock⟩

end Routes

/--
Two orders of registration answer alike exactly when the mock comes first in both or in
neither, or no model is asked for that only the prefix of a live mock could serve.
-/
theorem registration_order_iff {backends reordered : List Backend}
    (disjoint : ClaimsDisjoint backends) (perm : backends.Perm reordered)
    {first second : RegistryInner} (order : first.Reordered (replaceAll backends))
    (otherOrder : second.Reordered (replaceAll reordered)) (health : HealthTable)
    (model : String) :
    SameAnswers first second health model ↔
      (MockWanted backends health model → (MockFirst backends ↔ MockFirst reordered)) := by
  have otherDisjoint := disjoint.perm perm
  constructor
  · rintro ⟨same, -⟩ wanted
    constructor
    · intro mockFirst
      obtain ⟨backend, mock, routed⟩ := route_of_mockFirst disjoint order wanted mockFirst
      exact mockFirst_of_route otherDisjoint otherOrder (wanted.perm perm).unoffered mock
        (same ▸ routed)
    · intro mockFirst
      obtain ⟨backend, mock, routed⟩ :=
        route_of_mockFirst otherDisjoint otherOrder (wanted.perm perm) mockFirst
      exact mockFirst_of_route disjoint order wanted.unoffered mock (same ▸ routed)
  · intro kept
    refine ⟨?_, modelsCatalog_perm disjoint perm order otherOrder health⟩
    have keptBack : MockWanted reordered health model →
        (MockFirst reordered ↔ MockFirst backends) :=
      fun wanted => (kept (wanted.perm perm.symm)).symm
    apply Option.ext
    rintro ⟨name, backend⟩
    exact ⟨route_of_perm disjoint perm order otherOrder kept,
      route_of_perm otherDisjoint perm.symm otherOrder order keptBack⟩

/-- The mock in front of a custom endpoint. -/
def mockThenGlm : List Backend := [mockBackend, glmBackend "glm"]

theorem mockThenGlm_disjoint : ClaimsDisjoint mockThenGlm where
  names := by decide
  prefixes := by decide
  models := by
    refine List.pairwise_pair.mpr fun model offers other => ?_
    obtain rfl := List.mem_singleton.mp offers
    revert other
    decide

/-- The models of the custom endpoint are served in either order. -/
theorem registration_order_glm :
    SameAnswers (replaceAll mockThenGlm) (replaceAll mockThenGlm.reverse) none "glm-4" := by
  refine (registration_order_iff mockThenGlm_disjoint (List.reverse_perm _).symm (.refl _)
    (.refl _) none "glm-4").mpr fun wanted => ?_
  exact absurd wanted.mockLike (by decide)

/-- Behind another backend the mock serves its default model only. -/
theorem registration_order_matters :
    ¬ ∀ (backends reordered : List Backend), ClaimsDisjoint backends → backends.Perm reordered →
      ∀ (first second : RegistryInner), first.Reordered (replaceAll backends) →
        second.Reordered (replaceAll reordered) →
          ∀ health model, SameAnswers first second health model := by
  intro orderIndifferent
  have same := (orderIndifferent mockThenGlm mockThenGlm.reverse mockThenGlm_disjoint
    (List.reverse_perm _).symm _ _ (.refl _) (.refl _) none "mock-x").route
  have served : ((replaceAll mockThenGlm).route none "mock-x").isSome := by decide
  have refused : ((replaceAll mockThenGlm.reverse).route none "mock-x").isSome = false := by
    decide
  rw [same, refused] at served
  cases served

end RegistryInner

end AiPowerGateway.Share

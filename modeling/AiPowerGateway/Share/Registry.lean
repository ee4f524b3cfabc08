import AiPowerGateway.Collections.Runs
import AiPowerGateway.Share.Backend
import AiPowerGateway.Share.Health
import Mathlib.Data.List.Destutter
import Mathlib.Data.List.Sort

/-!
# The backend registry

The registered backends with their routing tables: exact model names, then
built-in prefixes, then the only backend there is.  The catalogue lists what the
backends that are not removed offer.
-/

namespace AiPowerGateway.Share

/-- The built-in model-name prefix of a provider. -/
def prefixFor : Provider → Option String
  | .deepSeek => some "deepseek-"
  | .kimi => some "kimi-"
  | .zhipu => some "glm-"
  | .mock => some "mock-"
  | .codeBuddy => none
  | .custom => none

/-- The routing tables; what they name is registered, under its own name. -/
structure RegistryInner where
  backends : HashMap Backend
  prefixes : HashMap String
  exact : HashMap String
  named {name : String} {backend : Backend} :
    backends.lookup name = some backend → backend.name = name
  prefixes_registered {lead name : String} :
    prefixes.lookup lead = some name → (backends.lookup name).isSome
  exact_registered {model name : String} :
    exact.lookup model = some name → (backends.lookup name).isSome

namespace RegistryInner

def empty : RegistryInner where
  backends := ∅
  prefixes := ∅
  exact := ∅
  named found := by simp at found
  prefixes_registered found := by simp at found
  exact_registered found := by simp at found

/-- The prefix table after a registration; the mock takes its prefix only first. -/
def claimPrefix (inner : RegistryInner) (backend : Backend) : HashMap String :=
  match prefixFor backend.provider with
  | none => inner.prefixes
  | some lead =>
      if backend.provider ≠ .mock ∨ inner.backends.entries = [] then
        inner.prefixes.insert lead backend.name
      else inner.prefixes

theorem claimPrefix_lookup {inner : RegistryInner} {backend : Backend} {lead name : String}
    (found : (inner.claimPrefix backend).lookup lead = some name) :
    name = backend.name ∨ inner.prefixes.lookup lead = some name := by
  unfold claimPrefix at found
  cases own : prefixFor backend.provider with
  | none => exact Or.inr (by simpa [own] using found)
  | some ownLead =>
      simp only [own] at found
      split at found
      · by_cases same : lead = ownLead
        · subst same
          exact Or.inl (by simpa [AList.lookup_insert, eq_comm] using found)
        · exact Or.inr (by simpa [AList.lookup_insert_ne same] using found)
      · exact Or.inr found

theorem isSome_lookup_insert {table : HashMap Backend} {backend : Backend} {name : String}
    (registered : name = backend.name ∨ (table.lookup name).isSome) :
    ((table.insert backend.name backend).lookup name).isSome := by
  by_cases same : name = backend.name
  · subst same
    rw [AList.lookup_insert]
    rfl
  · rw [AList.lookup_insert_ne same]
    exact registered.resolve_left same

/-- Add a backend with its prefix and its exact model names. -/
def register (inner : RegistryInner) (backend : Backend) : RegistryInner where
  backends := inner.backends.insert backend.name backend
  prefixes := inner.claimPrefix backend
  exact := backend.models.foldl (fun table model => table.insert model backend.name) inner.exact
  named := by
    intro name stored found
    by_cases same : name = backend.name
    · subst same
      rw [AList.lookup_insert] at found
      rw [← Option.some.inj found]
    · exact inner.named (by simpa [AList.lookup_insert_ne same] using found)
  prefixes_registered found := isSome_lookup_insert <|
    (claimPrefix_lookup found).imp_right inner.prefixes_registered
  exact_registered := by
    intro model name found
    rw [HashMap.lookup_foldl_insert] at found
    split at found
    · exact isSome_lookup_insert (Or.inl (Option.some.inj found).symm)
    · exact isSome_lookup_insert (Or.inr (inner.exact_registered found))

/-- The registry after the panel saved a configuration: the given backends, in order. -/
def replaceAll (backends : List Backend) : RegistryInner :=
  backends.foldl register empty

/-- The same tables, enumerated in other orders. -/
structure Reordered (first second : RegistryInner) : Prop where
  backends : first.backends.Reordered second.backends
  prefixes : first.prefixes.Reordered second.prefixes
  exact : first.exact.Reordered second.exact

/-! ## Routing -/

/-- The best prefix so far: its length in bytes, its backend and the backend's rank. -/
abbrev BestPrefix := Option (Nat × String × Nat)

/-- Longer prefixes first, better ranks among equals. -/
def better (best : BestPrefix) (len rank : Nat) : Bool :=
  match best with
  | none => true
  | some (bestLen, _, bestRank) => bestLen < len || (len = bestLen && rank < bestRank)

/-- Whether a prefix entry can serve a model. -/
def prefixServes (inner : RegistryInner) (health : HealthTable) (model lead name : String) :
    Bool :=
  Text.startsWith model lead && (inner.backends.lookup name).isSome && !health.isRemoved name

def bestPrefix (inner : RegistryInner) (health : HealthTable) (model : String) : BestPrefix :=
  inner.prefixes.entries.foldl (fun best entry =>
    let len := entry.fst.utf8ByteSize
    let rank := health.routeRank entry.snd
    if inner.prefixServes health model entry.fst entry.snd && better best len rank then
      some (len, entry.snd, rank)
    else best) none

/-- The backend under an exact model name. -/
def exactRoute (inner : RegistryInner) (model : String) : Option (String × Backend) :=
  (inner.exact.lookup model).bind fun name =>
    (inner.backends.lookup name).map fun backend => (name, backend)

/-- The route when no exact name decides: a prefix, else the only backend. -/
def fallbackRoute (inner : RegistryInner) (health : HealthTable) (model : String) :
    Option (String × Backend) :=
  match inner.bestPrefix health model with
  | some (_, name, _) => (inner.backends.lookup name).map fun backend => (name, backend)
  | none =>
      match inner.backends.entries with
      | [entry] => if health.isRemoved entry.fst then none else some (entry.fst, entry.snd)
      | _ => none

/-- The backend for a model; one that is removed is no route. -/
def route (inner : RegistryInner) (health : HealthTable) (model : String) :
    Option (String × Backend) :=
  match inner.exactRoute model with
  | some (name, backend) => if health.isRemoved name then none else some (name, backend)
  | none => inner.fallbackRoute health model

/-! ## The catalogue -/

/-- The models of the backends that are not removed, each with its backend. -/
def liveModels (inner : RegistryInner) (health : HealthTable) : List (String × String) :=
  inner.backends.entries.flatMap fun entry =>
    if health.isRemoved entry.fst then [] else entry.snd.models.map fun model => (model, entry.fst)

/-- Rank first, then the model name. -/
def CatalogueLe (health : HealthTable) (first second : String × String) : Prop :=
  health.routeRank first.2 < health.routeRank second.2 ∨
    (health.routeRank first.2 = health.routeRank second.2 ∧ ¬ second.1 < first.1)

instance (health : HealthTable) : DecidableRel (CatalogueLe health) :=
  fun _ _ => inferInstanceAs (Decidable (_ ∨ _))

/-- Sorted, with runs of one model name cut down to their first entry. -/
def modelsCatalog (inner : RegistryInner) (health : HealthTable) : List (String × String) :=
  ((inner.liveModels health).insertionSort (CatalogueLe health)).destutter
    fun first second => first.1 ≠ second.1

/-! ## What a configuration registers -/

/-- The last of the backends that offers a model. -/
def lastOffering (backends : List Backend) (model : String) : Option Backend :=
  backends.reverse.find? fun backend => backend.Offers model

theorem lookup_register (name : String) (inner : RegistryInner) (backend : Backend) :
    (inner.register backend).backends.lookup name =
      (if backend.name = name then some backend else none).or (inner.backends.lookup name) := by
  by_cases same : backend.name = name
  · subst same
    simp [register]
  · simp [register, same, AList.lookup_insert_ne (Ne.symm same)]

theorem exact_register (model : String) (inner : RegistryInner) (backend : Backend) :
    (inner.register backend).exact.lookup model =
      ((Option.guard (fun other : Backend => other.Offers model) backend).map Backend.name).or
        (inner.exact.lookup model) := by
  by_cases offers : model ∈ backend.models
  · simp [register, HashMap.lookup_foldl_insert, Option.guard, Backend.Offers, offers]
  · simp [register, HashMap.lookup_foldl_insert, Option.guard, Backend.Offers, offers]

/-- With distinct names, the registered backends are exactly the given ones. -/
theorem lookup_replaceAll {backends : List Backend} (distinct : (backends.map Backend.name).Nodup)
    {name : String} {backend : Backend} :
    (replaceAll backends).backends.lookup name = some backend ↔
      backend ∈ backends ∧ backend.name = name := by
  have lookup : (replaceAll backends).backends.lookup name = backends.reverse.findSome?
      fun item => if item.name = name then some item else none := by
    have last := HashMap.foldl_lastWriter
      (fun state : RegistryInner => state.backends.lookup name)
      (fun item => if item.name = name then some item else none)
      (lookup_register name) backends empty
    simpa [replaceAll, empty] using last
  rw [lookup]
  constructor
  · intro found
    obtain ⟨item, mem, writes⟩ := List.exists_of_findSome?_eq_some found
    split at writes
    · next same =>
        cases writes
        exact ⟨List.mem_reverse.mp mem, same⟩
    · cases writes
  · rintro ⟨mem, rfl⟩
    cases found : backends.reverse.findSome? fun item =>
        if item.name = backend.name then some item else none with
    | none =>
        have missing := List.findSome?_eq_none_iff.mp found backend (List.mem_reverse.mpr mem)
        simp at missing
    | some other =>
        obtain ⟨item, itemMem, writes⟩ := List.exists_of_findSome?_eq_some found
        split at writes
        · next same =>
            cases writes
            rw [List.inj_on_of_nodup_map distinct (List.mem_reverse.mp itemMem) mem same]
        · cases writes

/-- The exact table names the last backend that offers the model. -/
theorem exact_replaceAll (backends : List Backend) (model : String) :
    (replaceAll backends).exact.lookup model =
      (lastOffering backends model).map Backend.name := by
  have last := HashMap.foldl_lastWriter
    (fun state : RegistryInner => state.exact.lookup model)
    (fun item => (Option.guard (fun other : Backend => other.Offers model) item).map Backend.name)
    (exact_register model) backends empty
  have guarded : (lastOffering backends model).map Backend.name =
      backends.reverse.findSome? fun item =>
        (Option.guard (fun other : Backend => other.Offers model) item).map Backend.name := by
    rw [lastOffering, ← List.findSome?_guard, List.map_findSome?]
    rfl
  rw [guarded]
  simpa [replaceAll, empty] using last

/-! ## What the catalogue lists -/

/-- The catalogue lists a model. -/
def Lists (inner : RegistryInner) (health : HealthTable) (model : String) : Prop :=
  model ∈ (inner.modelsCatalog health).map Prod.fst

theorem mem_liveModels {inner : RegistryInner} {health : HealthTable} {model name : String} :
    (model, name) ∈ inner.liveModels health ↔
      ∃ backend, inner.backends.lookup name = some backend ∧
        health.isRemoved name = false ∧ backend.Offers model := by
  unfold liveModels
  rw [List.mem_flatMap]
  constructor
  · rintro ⟨⟨entryName, backend⟩, mem, listed⟩
    by_cases removed : health.isRemoved entryName
    · simp [removed] at listed
    · simp only [removed, Bool.false_eq_true, ↓reduceIte, List.mem_map, Prod.mk.injEq] at listed
      obtain ⟨_, offers, rfl, rfl⟩ := listed
      exact ⟨backend, AList.mem_lookup_iff.mpr mem, by simpa using removed, offers⟩
  · rintro ⟨backend, found, live, offers⟩
    refine ⟨⟨name, backend⟩, AList.mem_lookup_iff.mp found, ?_⟩
    simpa [live, Backend.Offers] using offers

/-- A model is listed exactly when a backend that is not removed offers it. -/
theorem lists_iff {inner : RegistryInner} {health : HealthTable} {model : String} :
    inner.Lists health model ↔
      ∃ name backend, inner.backends.lookup name = some backend ∧
        health.isRemoved name = false ∧ backend.Offers model := by
  have names : (inner.modelsCatalog health).map Prod.fst =
      (((inner.liveModels health).insertionSort (CatalogueLe health)).map Prod.fst).destutter
        (· ≠ ·) := by
    unfold modelsCatalog
    exact List.map_destutter fun _ _ _ _ => Iff.rfl
  unfold Lists
  rw [names, Runs.mem_destutter]
  simp only [List.mem_map, List.mem_insertionSort, Prod.exists, exists_and_right, exists_eq_right,
    mem_liveModels]

end RegistryInner

end AiPowerGateway.Share

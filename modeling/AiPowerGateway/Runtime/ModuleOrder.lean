import AiPowerGateway.Runtime.BootDependencies

/-!
# Sorting the modules

The sort that a boot makes, with the sets that it keeps, the lookups that it unwraps and
the depth of its calls.  On registered names it is the depth-first search of the library,
which ends with an order if and only if the modules do not require each other in a cycle.
-/

namespace AiPowerGateway.Runtime

variable {η : Type}

/-! ## The sort -/

/-- What `visit` writes to. -/
structure Sorting where
  visited : Finset String := ∅
  visiting : Finset String := ∅
  order : List String := []
  deriving DecidableEq

/-- The module is being visited. -/
def Sorting.enter (sorting : Sorting) (name : String) : Sorting :=
  { sorting with visiting := insert name sorting.visiting }

/-- The module was visited. -/
def Sorting.leave (sorting : Sorting) (name : String) : Sorting where
  visited := insert name sorting.visited
  visiting := sorting.visiting.erase name
  order := sorting.order ++ [name]

/-- How a sort stops before it has an order. -/
inductive SortStop where
  | failed (error : RuntimeError)
  /-- A name that is looked up is not registered. -/
  | panicked
  /-- The calls nest deeper than was allowed for. -/
  | tooDeep
  deriving DecidableEq, Repr

/-- Visit a module, in calls that nest at most as deep as given. -/
def visit (registry : Registry η) (want : List String) :
    (depth : Nat) → Sorting → String → Except SortStop Sorting
  | 0, _, _ => .error .tooDeep
  | depth + 1, sorting, name =>
      if name ∈ sorting.visited then .ok sorting
      else if name ∈ sorting.visiting then
        .error (.failed (.dependencyCycle ("cycle at " ++ name)))
      else
        match registry.get name with
        | none => .error .panicked
        | some module =>
            (module.requires.foldlM (fun sorting dep =>
              if dep ∈ want then visit registry want depth sorting dep else .ok sorting)
              (sorting.enter name)).map (·.leave name)

/-- The source's `topo_sort`, in calls that nest at most as deep as given. -/
def topoSort (registry : Registry η) (want : List String) (depth : Nat) :
    Except SortStop (List String) :=
  (want.foldlM (visit registry want depth) {}).map Sorting.order

/-! ## The sort as a depth-first search -/

/-- What is kept while a chain of modules is visited and others are in the order. -/
def Sorting.at (visiting order : List String) : Sorting :=
  ⟨order.toFinset, visiting.toFinset, order⟩

namespace Sorting

variable {visiting order : List String} {name : String}

@[simp]
theorem mem_visited_at : name ∈ (Sorting.at visiting order).visited ↔ name ∈ order :=
  List.mem_toFinset

@[simp]
theorem mem_visiting_at : name ∈ (Sorting.at visiting order).visiting ↔ name ∈ visiting :=
  List.mem_toFinset

theorem enter_at : (Sorting.at visiting order).enter name = .at (name :: visiting) order := by
  rw [enter, Sorting.at, Sorting.at, List.toFinset_cons]

theorem leave_at (fresh : name ∉ visiting) :
    (Sorting.at (name :: visiting) order).leave name = .at visiting (order ++ [name]) := by
  have left : (insert name visiting.toFinset).erase name = visiting.toFinset :=
    Finset.erase_insert (mt List.mem_toFinset.mp fresh)
  have placed : (order ++ [name]).toFinset = insert name order.toFinset := by
    rw [List.toFinset_append, Finset.union_comm, List.toFinset_cons, List.toFinset_nil,
      LawfulSingleton.insert_empty_eq, Finset.singleton_union]
  rw [leave, Sorting.at, Sorting.at, List.toFinset_cons, left, placed]

end Sorting

/-- A result of the search as one of the sort. -/
def sortResult (visiting : List String) :
    Except String (List String) → Except SortStop Sorting
  | .error name => .error (.failed (.dependencyCycle ("cycle at " ++ name)))
  | .ok order => .ok (.at visiting order)

/-- Sorting and searching in turn agree if they agree on each name. -/
theorem foldlM_sortResult {visiting : List String}
    {step : Sorting → String → Except SortStop Sorting}
    {search : List String → String → Except String (List String)} {names : List String}
    (agrees : ∀ name ∈ names, ∀ order,
      step (.at visiting order) name = sortResult visiting (search order name))
    (order : List String) :
    names.foldlM step (.at visiting order) = sortResult visiting (names.foldlM search order) := by
  induction names generalizing order with
  | nil => rfl
  | cons name names ih =>
      rw [List.foldlM_cons, List.foldlM_cons, agrees name List.mem_cons_self]
      cases search order name with
      | error cycle => rfl
      | ok between => exact ih (fun other mem => agrees other (List.mem_cons_of_mem _ mem)) between

/-- The requirements of a module are all that is left to visit. -/
theorem card_unvisited_lt {want visiting : List String} {name : String} (isWanted : name ∈ want)
    (fresh : name ∉ visiting) :
    (want.toFinset \ (name :: visiting).toFinset).card <
      (want.toFinset \ visiting.toFinset).card := by
  apply Finset.card_lt_card
  rw [List.toFinset_cons, Finset.sdiff_insert]
  exact Finset.erase_ssubset (by simp [isWanted, fresh])

/-- Calls that nest as deep as there are names to visit are enough to visit a name. -/
theorem visit_eq {registry : Registry η} {want : List String}
    (registered : AllRegistered registry want) (depth : Nat) (visiting order : List String)
    (name : String) (isWanted : name ∈ want)
    (enough : (want.toFinset \ visiting.toFinset).card < depth) :
    visit registry want depth (.at visiting order) name =
      sortResult visiting (Graphs.visit want registry.requiresOf visiting order name) := by
  induction depth generalizing visiting order name with
  | zero => omega
  | succ depth ih =>
      rw [visit, Graphs.visit]
      by_cases visited : name ∈ order
      · rw [if_pos (Sorting.mem_visited_at.mpr visited), if_pos visited]
        rfl
      rw [if_neg (mt Sorting.mem_visited_at.mp visited), if_neg visited]
      by_cases cycle : name ∈ visiting
      · rw [if_pos (Sorting.mem_visiting_at.mpr cycle), dif_pos cycle]
        rfl
      rw [if_neg (mt Sorting.mem_visiting_at.mp cycle), dif_neg cycle]
      obtain ⟨module, found⟩ := registered name isWanted
      have requires : registry.requiresOf name = module.requires := by
        rw [Registry.requiresOf, found]
        rfl
      have deeper : (want.toFinset \ (name :: visiting).toFinset).card < depth := by
        have fewer := card_unvisited_lt isWanted cycle
        omega
      have agrees : ∀ dep ∈ module.requires, ∀ order,
          (if dep ∈ want then visit registry want depth (.at (name :: visiting) order) dep
            else .ok (.at (name :: visiting) order)) =
          sortResult (name :: visiting)
            (if _wanted : dep ∈ want then
              Graphs.visit want registry.requiresOf (name :: visiting) order dep
            else .ok order) := by
        intro dep _ order
        by_cases depWanted : dep ∈ want
        · rw [if_pos depWanted, dif_pos depWanted]
          exact ih (name :: visiting) order dep depWanted deeper
        · rw [if_neg depWanted, dif_neg depWanted]
          rfl
      rw [found, requires]
      simp only
      rw [Sorting.enter_at, foldlM_sortResult agrees order]
      generalize (module.requires.foldlM _ order : Except String (List String)) = found
      cases found with
      | error cycle => rfl
      | ok between => exact congrArg Except.ok (Sorting.leave_at cycle)

/-- The sort finds what the depth-first search finds, without a failed lookup. -/
theorem topoSort_eq {registry : Registry η} {want : List String}
    (registered : AllRegistered registry want) {depth : Nat} (enough : want.length < depth) :
    topoSort registry want depth =
      match Graphs.topoSort want registry.requiresOf with
      | .error name => .error (.failed (.dependencyCycle ("cycle at " ++ name)))
      | .ok order => .ok order := by
  have deep : (want.toFinset \ ([] : List String).toFinset).card < depth := by
    have distinct : want.toFinset.card ≤ want.length := List.toFinset_card_le want
    rw [List.toFinset_nil, Finset.sdiff_empty]
    omega
  have agrees : want.foldlM (visit registry want depth) (.at [] []) =
      sortResult [] (want.foldlM (Graphs.visit want registry.requiresOf []) []) :=
    foldlM_sortResult (fun name mem order =>
      visit_eq registered depth [] order name mem deep) []
  have starts : ({} : Sorting) = .at [] [] := rfl
  rw [topoSort, starts, agrees, Graphs.topoSort]
  cases want.foldlM (Graphs.visit want registry.requiresOf []) [] with
  | error cycle => rfl
  | ok order => rfl

/-- The order of a boot is the one that the sort returns. -/
theorem bootOrder_eq {registry : Registry η} {role : Role} {overrides : Json}
    {want : List String} (wanted : wantedModules role overrides = .ok want)
    (registered : AllRegistered registry want) {depth : Nat} (enough : want.length < depth) :
    topoSort registry want depth = (bootOrder registry role overrides).mapError .failed := by
  have available : want.find? (· ∉ registry.names) = none := by
    refine List.find?_eq_none.mpr fun name mem => ?_
    simp [Registry.mem_names.mpr (registered name mem)]
  rw [topoSort_eq registered enough, bootOrder, wanted]
  simp only [available]
  cases Graphs.topoSort want registry.requiresOf with
  | error cycle => rfl
  | ok order => rfl

/-! ## What it returns -/

/-- `order` enumerates the names of `want`, each behind the wanted ones that it requires. -/
structure SortsWanted (registry : Registry η) (want order : List String) : Prop where
  once : order.Nodup
  complete : ∀ name, name ∈ order ↔ name ∈ want
  before : ∀ front name rest, order = front ++ name :: rest →
    ∀ dep ∈ registry.requiresOf name, dep ∈ want → dep ∈ front

/--
A sort of registered names returns, and without a failed lookup: with an order of them if
the wanted modules do not require each other in a cycle, and with a dependency cycle
otherwise.
-/
theorem topoSort_correct (registry : Registry η) (want : List String)
    (registered : AllRegistered registry want) :
    ∃ result : Except RuntimeError (List String),
      (∀ depth, want.length < depth →
        topoSort registry want depth = result.mapError .failed) ∧
      ((∃ order, result = .ok order) ↔ Graphs.Acyclic want registry.requiresOf) ∧
      (∀ order, result = .ok order → SortsWanted registry want order) ∧
      (¬ Graphs.Acyclic want registry.requiresOf →
        ∃ text, result = .error (.dependencyCycle text)) := by
  rw [← Graphs.exists_topoSort_ok_iff]
  cases sorts : Graphs.topoSort want registry.requiresOf with
  | ok order =>
      obtain ⟨ordered, complete⟩ := Graphs.topoSort_ok sorts
      refine ⟨.ok order, fun depth enough => ?_, by simp, ?_, fun cyclic => ?_⟩
      · rw [topoSort_eq registered enough, sorts]
        rfl
      · rintro _ ⟨⟩
        exact ⟨ordered.nodup, complete, fun front name rest split dep depends isWanted =>
          ordered.before split depends isWanted⟩
      · exact absurd ⟨order, rfl⟩ cyclic
  | error cycle =>
      refine ⟨.error (.dependencyCycle ("cycle at " ++ cycle)), fun depth enough => ?_,
        by simp, nofun, fun _ => ⟨_, rfl⟩⟩
      rw [topoSort_eq registered enough, sorts]
      rfl

/-- Two modules, of which the second requires the first. -/
def pairRegistry : Registry Unit :=
  (Registry.new.store { name := "a", apply := fun _ _ host => (.ok (), host) }).store
    { name := "b", requires := ["a", "c"], apply := fun _ _ host => (.ok (), host) }

theorem topoSort_correct_pair :
    SortsWanted pairRegistry ["b", "a", "b"] ["a", "b"] ∧
      Graphs.Acyclic ["b", "a", "b"] pairRegistry.requiresOf := by
  have registered : AllRegistered pairRegistry ["b", "a", "b"] := by
    intro name mem
    rw [← Option.isSome_iff_exists]
    revert name
    decide
  obtain ⟨result, returns, decides, sorts, -⟩ :=
    topoSort_correct pairRegistry ["b", "a", "b"] registered
  have sorted : topoSort pairRegistry ["b", "a", "b"] 4 = .ok ["a", "b"] := by decide
  have found : result = .ok ["a", "b"] := by
    rw [returns 4 (by decide)] at sorted
    cases result with
    | error e => cases sorted
    | ok order => exact congrArg Except.ok (Except.ok.inj sorted)
  exact ⟨sorts _ found, decides.mp ⟨_, found⟩⟩

end AiPowerGateway.Runtime

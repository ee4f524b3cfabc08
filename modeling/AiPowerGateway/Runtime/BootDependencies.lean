import AiPowerGateway.Runtime.Boot

/-!
# Dependencies at boot

The boot order puts a module behind the wanted modules that it requires, and the apply
loop does not look back: it applies a module although one that it requires was skipped,
or was never wanted.
-/

namespace AiPowerGateway.Runtime

variable {η : Type}

/-! ## What applying the modules gives -/

/-- A module with what its `apply` gives. -/
abbrev ApplyOutcome := String × Except RuntimeError Unit

/-- The outcomes when the modules of a list are applied in turn. -/
def outcomes (registry : Registry η) (overrides : Json) : List String → η → List ApplyOutcome
  | [], _ => []
  | name :: rest, host =>
      match registry.get name with
      | none => []
      | some module =>
          let result := module.run overrides name host
          (name, result.1) :: outcomes registry overrides rest result.2

/-- A boot goes on behind a module unless it is required and fails. -/
def Passable (registry : Registry η) (outcome : ApplyOutcome) : Prop :=
  ∀ error, outcome.2 = .error error → registry.isOptional outcome.1 = true

/-- The modules whose `apply` succeeds. -/
def succeeded (outcomes : List ApplyOutcome) : List String :=
  outcomes.filterMap fun outcome =>
    match outcome.2 with
    | .ok () => some outcome.1
    | .error _ => none

theorem mem_succeeded {entries : List ApplyOutcome} {name : String} :
    name ∈ succeeded entries ↔ (name, .ok ()) ∈ entries := by
  simp only [succeeded, List.mem_filterMap]
  constructor
  · rintro ⟨⟨other, outcome⟩, mem, found⟩
    cases outcome with
    | ok => cases found; exact mem
    | error => cases found
  · exact fun mem => ⟨(name, .ok ()), mem, rfl⟩

def AllRegistered (registry : Registry η) (names : List String) : Prop :=
  ∀ name ∈ names, ∃ module, registry.get name = some module

theorem AllRegistered.tail {registry : Registry η} {name : String} {names : List String}
    (registered : AllRegistered registry (name :: names)) : AllRegistered registry names :=
  fun other mem => registered other (List.mem_cons_of_mem _ mem)

/-- Every registered module has an outcome, in the order of the list. -/
theorem map_outcomes {registry : Registry η} (overrides : Json) {names : List String}
    (registered : AllRegistered registry names) (host : η) :
    (outcomes registry overrides names host).map Prod.fst = names := by
  induction names generalizing host with
  | nil => rfl
  | cons name names ih =>
      obtain ⟨module, found⟩ := registered name List.mem_cons_self
      simp only [outcomes, found, List.map_cons, ih registered.tail]

/-! ## The apply loop -/

/-- The call that the loop makes behind the given outcomes, from a list of booted modules. -/
def callBehind (booted : List String) (before : List ApplyOutcome) (outcome : ApplyOutcome) :
    ApplyCall :=
  ⟨outcome.1, booted ++ succeeded before⟩

theorem callBehind_cons (booted : List String) (first : ApplyOutcome)
    (before : List ApplyOutcome) (outcome : ApplyOutcome) :
    callBehind booted (first :: before) outcome =
      callBehind (booted ++ succeeded [first]) before outcome := by
  have together : succeeded (first :: before) = succeeded [first] ++ succeeded before :=
    List.filterMap_append (l := [first])
  rw [callBehind, callBehind, together, List.append_assoc]

/-- What the apply loop makes of the outcomes that it would get. -/
structure Assembled (registry : Registry η) (entries : List ApplyOutcome) (start : Assembly η)
    (run : AssemblyEnd × Assembly η) : Prop where
  mem_calls (call : ApplyCall) : call ∈ run.2.calls ↔ call ∈ start.calls ∨
    ∃ before outcome after, entries = before ++ outcome :: after ∧
      (∀ earlier ∈ before, Passable registry earlier) ∧
      call = callBehind start.booted before outcome
  skipped : ∀ name ∈ run.2.skipped.map Prod.fst,
    name ∈ start.skipped.map Prod.fst ∨ ∃ error, (name, .error error) ∈ entries
  finished : run.1 = .finished → ∀ outcome ∈ entries, Passable registry outcome
  returns : run.1 ≠ .panicked

namespace Assembled

variable {registry : Registry η} {overrides : Json} {entries : List ApplyOutcome}
  {start next : Assembly η} {run : AssemblyEnd × Assembly η} {outcome : ApplyOutcome}

theorem nil : Assembled registry [] start (.finished, start) where
  mem_calls call := by simp
  skipped name mem := Or.inl mem
  finished := nofun
  returns := nofun

/-- A module was applied and the loop goes on. -/
theorem cons (passable : Passable registry outcome)
    (calls : next.calls = start.calls ++ [callBehind start.booted [] outcome])
    (booted : next.booted = start.booted ++ succeeded [outcome])
    (skips : ∀ name ∈ next.skipped.map Prod.fst,
      name ∈ start.skipped.map Prod.fst ∨ ∃ error, (name, .error error) = outcome)
    (later : Assembled registry entries next run) :
    Assembled registry (outcome :: entries) start run where
  mem_calls call := by
    rw [later.mem_calls, calls, booted, List.mem_append, List.mem_singleton]
    constructor
    · rintro ((early | rfl) | ⟨before, other, after, rfl, passes, rfl⟩)
      · exact Or.inl early
      · exact Or.inr ⟨[], outcome, entries, rfl, nofun, rfl⟩
      · exact Or.inr ⟨outcome :: before, other, after, rfl,
          List.forall_mem_cons.mpr ⟨passable, passes⟩, (callBehind_cons ..).symm⟩
    · rintro (early | ⟨before, other, after, split, passes, rfl⟩)
      · exact Or.inl (Or.inl early)
      · cases before with
        | nil =>
            cases split
            exact Or.inl (Or.inr rfl)
        | cons first before =>
            cases split
            exact Or.inr ⟨before, other, after, rfl, (List.forall_mem_cons.mp passes).2,
              callBehind_cons ..⟩
  skipped name mem := by
    rcases later.skipped name mem with before | ⟨error, mem⟩
    · rcases skips name before with early | ⟨error, same⟩
      · exact Or.inl early
      · exact Or.inr ⟨error, same ▸ List.mem_cons_self⟩
    · exact Or.inr ⟨error, List.mem_cons_of_mem _ mem⟩
  finished ends := by
    intro other mem
    rcases List.mem_cons.mp mem with rfl | mem
    · exact passable
    · exact later.finished ends other mem
  returns := later.returns

/-- A required module failed. -/
theorem stop (required : ¬ Passable registry outcome) {error : RuntimeError}
    (calls : next.calls = start.calls ++ [callBehind start.booted [] outcome])
    (skipped : next.skipped = start.skipped) :
    Assembled registry (outcome :: entries) start (.failed error, next) where
  mem_calls call := by
    rw [calls, List.mem_append, List.mem_singleton]
    constructor
    · rintro (early | rfl)
      · exact Or.inl early
      · exact Or.inr ⟨[], outcome, entries, rfl, nofun, rfl⟩
    · rintro (early | ⟨before, other, after, split, passes, rfl⟩)
      · exact Or.inl early
      · cases before with
        | nil =>
            cases split
            exact Or.inr rfl
        | cons first before =>
            cases split
            exact absurd (passes _ List.mem_cons_self) required
  skipped name mem := Or.inl (skipped ▸ mem)
  finished := nofun
  returns := nofun

end Assembled

theorem applyAll_assembled {registry : Registry η} (overrides : Json) {names : List String}
    (registered : AllRegistered registry names) (assembly : Assembly η) :
    Assembled registry (outcomes registry overrides names assembly.host) assembly
      (applyAll registry overrides names assembly) := by
  induction names generalizing assembly with
  | nil => exact .nil
  | cons name names ih =>
      obtain ⟨module, found⟩ := registered name List.mem_cons_self
      have optional : registry.isOptional name = module.optional := by
        simp only [Registry.isOptional, found, Option.map_some, Option.getD_some]
      simp only [outcomes, applyAll, found]
      cases outcome : (module.run overrides name assembly.host).1 with
      | ok =>
          have later := ih registered.tail
            { assembly with
              host := (module.run overrides name assembly.host).2
              booted := assembly.booted ++ [name]
              calls := assembly.calls ++ [⟨name, assembly.booted⟩] }
          refine .cons nofun ?_ ?_ ?_ later
          · simp [callBehind, succeeded]
          · simp [succeeded]
          · exact fun other mem => Or.inl mem
      | error e =>
          simp only
          split
          · next skips =>
              have later := ih registered.tail
                { assembly with
                  host := (module.run overrides name assembly.host).2
                  skipped := assembly.skipped ++ [(name, e.display)]
                  calls := assembly.calls ++ [⟨name, assembly.booted⟩] }
              refine .cons ?_ ?_ ?_ ?_ later
              · exact fun _ _ => optional.trans skips
              · simp [callBehind, succeeded]
              · simp [succeeded]
              · intro other mem
                simp only [List.map_append, List.mem_append] at mem
                rcases mem with early | last
                · exact Or.inl early
                · exact Or.inr ⟨e, by simpa using last⟩
          · next required =>
              refine .stop ?_ ?_ rfl
              · intro passable
                exact required (optional ▸ passable e rfl)
              · simp [callBehind, succeeded]

/-! ## A whole boot -/

/-- What the dependencies of modules promise of a boot. -/
structure DependenciesSatisfied (registry : Registry η) (role : Role) (overrides : Json)
    (booting : Booting η) : Prop where
  /-- Whatever an applied module requires was booted before. -/
  applied : ∀ call ∈ booting.assembly.calls, ∀ dep ∈ registry.requiresOf call.name,
    dep ∈ call.booted
  /-- A wanted module that requires an unwanted or a skipped one is not applied: it is
  skipped if it is optional, and the boot fails otherwise. -/
  unsatisfied : ∀ want, wantedModules role overrides = .ok want → ∀ name ∈ want,
    ∀ dep ∈ registry.requiresOf name,
      dep ∉ want ∨ dep ∈ booting.assembly.skipped.map Prod.fst →
        (∀ call ∈ booting.assembly.calls, call.name ≠ name) ∧
        if registry.isOptional name then
          ∀ result, booting.result = some (.ok result) → name ∈ result.skipped.map Prod.fst
        else ∃ error, booting.result = some (.error error)

/-- The modules of the boot order, up to the first required one that fails, require wanted
modules that do not fail. -/
def DependenciesHold (registry : Registry η) (host : η) (role : Role) (overrides : Json) : Prop :=
  ∀ want order, wantedModules role overrides = .ok want →
    bootOrder registry role overrides = .ok order →
      ∀ before outcome after,
        outcomes registry overrides order host = before ++ outcome :: after →
        (∀ earlier ∈ before, Passable registry earlier) →
          ∀ dep ∈ registry.requiresOf outcome.1, dep ∈ want ∧
            ∀ error, (dep, .error error) ∉ outcomes registry overrides order host

section Boot

variable {registry : Registry η} {role : Role} {overrides : Json} {want order : List String}

theorem bootOrder_ok (sorted : bootOrder registry role overrides = .ok order) :
    ∃ want, wantedModules role overrides = .ok want ∧ AllRegistered registry order ∧
      Graphs.DependencyOrder want registry.requiresOf order ∧
      ∀ name, name ∈ order ↔ name ∈ want := by
  unfold bootOrder at sorted
  split at sorted
  · cases sorted
  · next want wanted =>
      split at sorted
      · cases sorted
      · next available =>
          split at sorted
          · cases sorted
          · next sorts =>
              cases sorted
              obtain ⟨ordered, complete⟩ := Graphs.topoSort_ok sorts
              refine ⟨want, wanted, fun name mem => ?_, ordered, complete⟩
              have listed := List.find?_eq_none.mp available name ((complete name).mp mem)
              exact Registry.mem_names.mp (by simpa using listed)

theorem boot_error {error : RuntimeError} (fails : bootOrder registry role overrides = .error error)
    (host : η) : boot registry host role overrides = ⟨{ host := host }, some (.error error)⟩ := by
  unfold boot
  rw [fails]

theorem boot_ok (sorted : bootOrder registry role overrides = .ok order) (host : η) :
    boot registry host role overrides =
      ⟨(applyAll registry overrides order { host := host }).2,
        (applyAll registry overrides order { host := host }).1.result
          (applyAll registry overrides order { host := host }).2⟩ := by
  unfold boot
  rw [sorted]

theorem finished_of_result {ended : AssemblyEnd} {assembly : Assembly η} {result : BootResult η}
    (done : ended.result assembly = some (.ok result)) : ended = .finished := by
  cases ended with
  | finished => rfl
  | failed error => cases done
  | panicked => cases done

/-- An outcome of a duplicate-free list is the only one of its module. -/
theorem outcome_unique {entries : List ApplyOutcome} (distinct : (entries.map Prod.fst).Nodup)
    {name : String} {first second : Except RuntimeError Unit} (mem : (name, first) ∈ entries)
    (memSecond : (name, second) ∈ entries) : first = second := by
  have same := List.inj_on_of_nodup_map distinct mem memSecond rfl
  exact congrArg Prod.snd same

theorem mem_boot_calls (sorted : bootOrder registry role overrides = .ok order) (host : η)
    (call : ApplyCall) :
    call ∈ (boot registry host role overrides).assembly.calls ↔
      ∃ before outcome after,
        outcomes registry overrides order host = before ++ outcome :: after ∧
        (∀ earlier ∈ before, Passable registry earlier) ∧ call = callBehind [] before outcome := by
  obtain ⟨-, -, registered, -⟩ := bootOrder_ok sorted
  rw [boot_ok sorted, (applyAll_assembled overrides registered { host := host }).mem_calls]
  exact or_iff_right List.not_mem_nil

/-- A boot that applied every module without a required failure left none out. -/
theorem exists_call_of_finished (sorted : bootOrder registry role overrides = .ok order) (host : η)
    (finished : (applyAll registry overrides order { host := host }).1 = .finished) {name : String}
    (mem : name ∈ order) :
    ∃ call ∈ (boot registry host role overrides).assembly.calls, call.name = name := by
  obtain ⟨-, -, registered, -⟩ := bootOrder_ok sorted
  have passes := (applyAll_assembled overrides registered { host := host }).finished finished
  rw [← map_outcomes overrides registered host] at mem
  obtain ⟨outcome, memOutcome, rfl⟩ := List.mem_map.mp mem
  obtain ⟨before, after, split⟩ := List.append_of_mem memOutcome
  refine ⟨callBehind [] before outcome, (mem_boot_calls sorted host _).mpr
    ⟨before, outcome, after, split, fun earlier early => passes earlier ?_, rfl⟩, rfl⟩
  rw [split]
  exact List.mem_append_left _ early

theorem holds_of_satisfied {host : η}
    (satisfied : DependenciesSatisfied registry role overrides
      (boot registry host role overrides)) :
    DependenciesHold registry host role overrides := by
  intro want order wanted sorted before outcome after split passes dep depends
  obtain ⟨want', wanted', registered, ordered, complete⟩ := bootOrder_ok sorted
  obtain rfl : want = want' := Except.ok.inj (wanted.symm.trans wanted')
  have called := (mem_boot_calls sorted host _).mpr ⟨before, outcome, after, split, passes, rfl⟩
  have booted : (dep, .ok ()) ∈ before := mem_succeeded.mp (satisfied.applied _ called dep depends)
  have succeeds : (dep, .ok ()) ∈ outcomes registry overrides order host := by
    rw [split]
    exact List.mem_append_left _ booted
  have names := map_outcomes overrides registered host
  refine ⟨(complete dep).mp ?_, fun error fails => ?_⟩
  · rw [← names]
    exact List.mem_map_of_mem succeeds
  · have distinct := ordered.nodup
    rw [← names] at distinct
    cases outcome_unique distinct succeeds fails

/-- What a module requires is booted before it, if it is wanted and does not fail. -/
theorem applied_of_holds {host : η} (hold : DependenciesHold registry host role overrides)
    (sorted : bootOrder registry role overrides = .ok order) :
    ∀ call ∈ (boot registry host role overrides).assembly.calls,
      ∀ dep ∈ registry.requiresOf call.name, dep ∈ call.booted := by
  intro call called dep depends
  obtain ⟨want, wanted, registered, ordered, -⟩ := bootOrder_ok sorted
  obtain ⟨before, outcome, after, split, passes, rfl⟩ := (mem_boot_calls sorted host call).mp called
  obtain ⟨isWanted, sound⟩ :=
    hold want order wanted sorted before outcome after split passes dep depends
  have place : order = before.map Prod.fst ++ outcome.1 :: after.map Prod.fst := by
    rw [← map_outcomes overrides registered host, split, List.map_append, List.map_cons]
  obtain ⟨⟨_, result⟩, mem, rfl⟩ := List.mem_map.mp (ordered.before place depends isWanted)
  cases result with
  | ok => exact mem_succeeded.mpr mem
  | error e =>
      refine absurd ?_ (sound e)
      rw [split]
      exact List.mem_append_left _ mem

/-- No module is applied that requires an unwanted or a skipped one. -/
theorem not_applied_of_holds {host : η} (hold : DependenciesHold registry host role overrides)
    (sorted : bootOrder registry role overrides = .ok order)
    (wanted : wantedModules role overrides = .ok want) {name dep : String}
    (depends : dep ∈ registry.requiresOf name)
    (missing : dep ∉ want ∨
      dep ∈ (boot registry host role overrides).assembly.skipped.map Prod.fst) :
    ∀ call ∈ (boot registry host role overrides).assembly.calls, call.name ≠ name := by
  rintro call called rfl
  obtain ⟨-, -, registered, -⟩ := bootOrder_ok sorted
  obtain ⟨before, outcome, after, split, passes, rfl⟩ := (mem_boot_calls sorted host call).mp called
  obtain ⟨isWanted, sound⟩ :=
    hold want order wanted sorted before outcome after split passes dep depends
  rcases missing with unwanted | skipped
  · exact unwanted isWanted
  · rw [boot_ok sorted] at skipped
    rcases (applyAll_assembled overrides registered { host := host }).skipped dep skipped with
      early | ⟨error, fails⟩
    · cases early
    · exact sound error fails

theorem satisfied_of_holds {host : η} (hold : DependenciesHold registry host role overrides) :
    DependenciesSatisfied registry role overrides (boot registry host role overrides) := by
  cases sorted : bootOrder registry role overrides with
  | error e =>
      rw [boot_error sorted]
      refine ⟨nofun, fun want _ name _ dep _ _ => ⟨nofun, ?_⟩⟩
      split
      · exact nofun
      · exact ⟨e, rfl⟩
  | ok order =>
      refine ⟨applied_of_holds hold sorted, ?_⟩
      intro want wanted name mem dep depends missing
      obtain ⟨want', wanted', registered, -, complete⟩ := bootOrder_ok sorted
      obtain rfl : want = want' := Except.ok.inj (wanted.symm.trans wanted')
      have out := not_applied_of_holds hold sorted wanted depends missing
      have unfinished : (applyAll registry overrides order { host := host }).1 ≠ .finished := by
        intro finished
        obtain ⟨call, called, same⟩ :=
          exists_call_of_finished sorted host finished ((complete name).mpr mem)
        exact out call called same
      refine ⟨out, ?_⟩
      rw [boot_ok sorted]
      split
      · exact fun result done => absurd (finished_of_result done) unfinished
      · cases ended : (applyAll registry overrides order { host := host }).1 with
        | finished => exact absurd ended unfinished
        | failed error => exact ⟨error, rfl⟩
        | panicked =>
            exact absurd ended (applyAll_assembled overrides registered { host := host }).returns

end Boot

/--
A boot satisfies the dependencies of its modules if and only if none of those it comes to
requires a module that is not wanted or one that fails.
-/
theorem dependencies_satisfied_iff (registry : Registry η) (host : η) (role : Role)
    (overrides : Json) :
    DependenciesSatisfied registry role overrides (boot registry host role overrides) ↔
      DependenciesHold registry host role overrides :=
  ⟨holds_of_satisfied, satisfied_of_holds⟩

/-- An optional module that fails, and a module that requires it. -/
def failingOptional : Registry Unit :=
  (Registry.new.store
      { name := "auth", optional := true
        apply := fun _ _ host => (.error (.moduleError "boom"), host) })
    |>.store { name := "share", requires := ["auth"], apply := fun _ _ host => (.ok (), host) }

def sharing : Json := .obj [("modules", .arr [.str "share", .str "auth"])]

theorem bootOrder_sharing :
    bootOrder failingOptional (.custom "test") sharing = .ok ["auth", "share"] := by
  have share : failingOptional.requiresOf "share" = ["auth"] := by decide
  have auth : failingOptional.requiresOf "auth" = [] := by decide
  have visitAuth : Graphs.visit ["share", "auth"] failingOptional.requiresOf ["share"] [] "auth" =
      .ok ["auth"] := by
    rw [Graphs.visit, if_neg (by decide), dif_neg (by decide), auth]
    rfl
  have visitShare : Graphs.visit ["share", "auth"] failingOptional.requiresOf [] [] "share" =
      .ok ["auth", "share"] := by
    rw [Graphs.visit, if_neg (by decide), dif_neg (by decide), share, List.foldlM_cons,
      dif_pos (by decide), visitAuth]
    rfl
  have visitAgain : Graphs.visit ["share", "auth"] failingOptional.requiresOf []
      ["auth", "share"] "auth" = .ok ["auth", "share"] := by
    rw [Graphs.visit, if_pos (by decide)]
  have sorts : Graphs.topoSort ["share", "auth"] failingOptional.requiresOf =
      .ok ["auth", "share"] := by
    rw [Graphs.topoSort, List.foldlM_cons, visitShare]
    exact congrArg (fun found : Except String (List String) => found >>= pure) visitAgain
  have wanted : wantedModules (.custom "test") sharing = .ok ["share", "auth"] := rfl
  have available : (["share", "auth"].find? (· ∉ failingOptional.names)) = none := by decide
  simp only [bootOrder, wanted, available, sorts]

/-- The module is applied although the one that it requires was skipped. -/
theorem boot_applies_without_dependency :
    ¬ ∀ (registry : Registry Unit) (host : Unit) (role : Role) (overrides : Json),
      DependenciesSatisfied registry role overrides (boot registry host role overrides) := by
  intro satisfied
  have applied := (satisfied failingOptional () (.custom "test") sharing).applied
  rw [boot_ok bootOrder_sharing] at applied
  have calls : (applyAll failingOptional sharing ["auth", "share"] { host := () }).2.calls =
      [⟨"auth", []⟩, ⟨"share", []⟩] := rfl
  rw [calls] at applied
  exact absurd (applied ⟨"share", []⟩ (by simp) "auth" (by decide)) List.not_mem_nil

end AiPowerGateway.Runtime

import Mathlib.Data.Finset.Card
import Mathlib.Data.List.Basic
import Mathlib.Logic.Relation

/-!
# Depth-first topological sorting

An order of wanted items in which each comes behind the wanted items it depends on,
by depth-first search; dependencies that are not wanted play no part.  The search
fails at an item that it reaches again while it still visits it, which happens if and
only if wanted items depend on each other in a cycle.
-/

namespace AiPowerGateway.Graphs

variable {α : Type}

/-! ## Orders -/

/-- An order built by appending wanted items whose wanted dependencies are in it. -/
inductive DependencyOrder (want : List α) (deps : α → List α) : List α → Prop where
  | nil : DependencyOrder want deps []
  | snoc {order : List α} {name : α} : DependencyOrder want deps order → name ∈ want →
      name ∉ order → (∀ dep ∈ deps name, dep ∈ want → dep ∈ order) →
      DependencyOrder want deps (order ++ [name])

namespace DependencyOrder

variable {want order : List α} {deps : α → List α}

theorem nodup (ordered : DependencyOrder want deps order) : order.Nodup := by
  induction ordered with
  | nil => exact List.nodup_nil
  | snoc _ _ fresh _ ih => exact List.nodup_append_comm.mp (List.nodup_cons.mpr ⟨fresh, ih⟩)

theorem wanted (ordered : DependencyOrder want deps order) {name : α} (mem : name ∈ order) :
    name ∈ want := by
  induction ordered with
  | nil => cases mem
  | snoc _ isWanted _ _ ih =>
      rcases List.mem_append.mp mem with early | last
      · exact ih early
      · rw [List.mem_singleton.mp last]
        exact isWanted

/-- The wanted dependencies of an item stand before it. -/
theorem before (ordered : DependencyOrder want deps order) {front rest : List α} {name dep : α}
    (split : order = front ++ name :: rest) (depends : dep ∈ deps name) (isWanted : dep ∈ want) :
    dep ∈ front := by
  induction ordered generalizing rest with
  | nil => simp at split
  | snoc _ _ _ closed ih =>
      rcases List.eq_nil_or_concat rest with rfl | ⟨rest, last, rfl⟩
      · obtain ⟨rfl, same⟩ := List.append_inj' split rfl
        rw [List.cons.inj same |>.1] at closed
        exact closed dep depends isWanted
      · rw [List.concat_eq_append, ← List.cons_append, ← List.append_assoc] at split
        exact ih (List.append_inj' split rfl).1

end DependencyOrder

/-! ## The search -/

section Search

variable [DecidableEq α]

/-- Append an item behind its dependencies.  What is in the order was visited, and
`visiting` holds the items whose dependencies are being visited. -/
def visit (want : List α) (deps : α → List α) (visiting order : List α) (name : α) :
    Except α (List α) :=
  if name ∈ order then .ok order
  else if _cycle : name ∈ visiting then .error name
  else
    ((deps name).foldlM (fun order dep =>
      if _wanted : dep ∈ want then visit want deps (name :: visiting) order dep
      else .ok order) order).map (· ++ [name])
termination_by (insert name want.toFinset \ visiting.toFinset).card
decreasing_by
  apply Finset.card_lt_card
  refine Finset.ssubset_iff_subset_ne.mpr ⟨?_, ?_⟩
  · intro item mem
    simp only [List.toFinset_cons, Finset.mem_sdiff, Finset.mem_insert, List.mem_toFinset,
      not_or] at mem ⊢
    rcases mem with ⟨rfl | mem, -, fresh⟩
    · exact ⟨Or.inr _wanted, fresh⟩
    · exact ⟨Or.inr mem, fresh⟩
  · intro same
    have mem : name ∈ insert name want.toFinset \ visiting.toFinset := by simp [_cycle]
    rw [← same] at mem
    simp at mem

/-- Visit the wanted items in turn. -/
def topoSort (want : List α) (deps : α → List α) : Except α (List α) :=
  want.foldlM (visit want deps []) []

end Search

/-! ## What it finds -/

/-- What a part of the search makes of an order, while items are being visited. -/
structure Extends (want : List α) (deps : α → List α) (visiting order later : List α) : Prop where
  ordered : DependencyOrder want deps later
  keeps : ∀ name ∈ order, name ∈ later
  avoids : ∀ name ∈ visiting, name ∈ later → name ∈ order

namespace Extends

variable {want visiting order later last : List α} {deps : α → List α}

theorem refl (ordered : DependencyOrder want deps order) :
    Extends want deps visiting order order :=
  ⟨ordered, fun _ mem => mem, fun _ _ mem => mem⟩

theorem trans (first : Extends want deps visiting order later)
    (second : Extends want deps visiting later last) :
    Extends want deps visiting order last where
  ordered := second.ordered
  keeps name mem := second.keeps name (first.keeps name mem)
  avoids name visited mem := first.avoids name visited (second.avoids name visited mem)

/-- Visiting items in turn, where each visit extends the order and puts its item there. -/
theorem foldlM (visiting : List α) (places : α → Prop) {step : List α → α → Except α (List α)}
    {names : List α} (steps : ∀ name ∈ names, ∀ order later, DependencyOrder want deps order →
      step order name = .ok later →
        Extends want deps visiting order later ∧ (places name → name ∈ later))
    (ordered : DependencyOrder want deps order) (runs : names.foldlM step order = .ok later) :
    Extends want deps visiting order later ∧ ∀ name ∈ names, places name → name ∈ later := by
  induction names generalizing order with
  | nil =>
      cases runs
      exact ⟨refl ordered, nofun⟩
  | cons name names ih =>
      rw [List.foldlM_cons] at runs
      cases stepped : step order name with
      | error cycle =>
          rw [stepped] at runs
          cases runs
      | ok between =>
          rw [stepped] at runs
          obtain ⟨first, placed⟩ := steps name List.mem_cons_self order between ordered stepped
          obtain ⟨second, others⟩ :=
            ih (fun other mem => steps other (List.mem_cons_of_mem _ mem)) first.ordered runs
          refine ⟨first.trans second, fun other mem placesOther => ?_⟩
          rcases List.mem_cons.mp mem with rfl | mem
          · exact second.keeps other (placed placesOther)
          · exact others other mem placesOther

end Extends

section Order

variable [DecidableEq α]

/-- A visit extends the order by its item and what the item depends on. -/
theorem visit_ok {want : List α} {deps : α → List α} (visiting order : List α) (name : α)
    (isWanted : name ∈ want) (ordered : DependencyOrder want deps order) {later : List α}
    (runs : visit want deps visiting order name = .ok later) :
    Extends want deps visiting order later ∧ name ∈ later := by
  induction visiting, order, name using visit.induct want generalizing later with
  | case1 visiting order name visited =>
      rw [visit, if_pos visited] at runs
      cases runs
      exact ⟨.refl ordered, visited⟩
  | case2 visiting order name unvisited cycle =>
      rw [visit, if_neg unvisited, dif_pos cycle] at runs
      cases runs
  | case3 visiting order name unvisited noCycle ih =>
      rw [visit, if_neg unvisited, dif_neg noCycle] at runs
      generalize visits : ((deps name).foldlM _ order : Except α (List α)) = found at runs
      cases found with
      | error cycle => cases runs
      | ok between =>
          cases runs
          obtain ⟨extended, placed⟩ :=
            Extends.foldlM (name :: visiting) (· ∈ want)
              (fun dep _ order later ordered stepped => by
                split at stepped
                · next isWanted =>
                    obtain ⟨extended, placed⟩ := ih order dep isWanted isWanted ordered stepped
                    exact ⟨extended, fun _ => placed⟩
                · next unwanted =>
                    cases stepped
                    exact ⟨.refl ordered, fun isWanted => absurd isWanted unwanted⟩)
              ordered visits
          have fresh : name ∉ between :=
            fun mem => unvisited (extended.avoids name List.mem_cons_self mem)
          refine ⟨⟨.snoc extended.ordered isWanted fresh placed, ?_, ?_⟩, by simp⟩
          · exact fun other mem => List.mem_append_left _ (extended.keeps other mem)
          · intro other visited mem
            rcases List.mem_append.mp mem with mem | last
            · exact extended.avoids other (List.mem_cons_of_mem _ visited) mem
            · rw [List.mem_singleton.mp last] at visited
              exact absurd visited noCycle

/-- A sorted order holds the wanted items, each behind the wanted ones it depends on. -/
theorem topoSort_ok {want order : List α} {deps : α → List α}
    (sorts : topoSort want deps = .ok order) :
    DependencyOrder want deps order ∧ ∀ name, name ∈ order ↔ name ∈ want := by
  have steps (name : α) (mem : name ∈ want) (order later : List α)
      (ordered : DependencyOrder want deps order)
      (visits : visit want deps [] order name = .ok later) :
      Extends want deps [] order later ∧ (True → name ∈ later) := by
    obtain ⟨extended, placed⟩ := visit_ok [] order name mem ordered visits
    exact ⟨extended, fun _ => placed⟩
  obtain ⟨extended, placed⟩ := Extends.foldlM [] (fun _ => True) steps .nil sorts
  exact ⟨extended.ordered, fun name =>
    ⟨extended.ordered.wanted, fun mem => placed name mem trivial⟩⟩

end Order

/-! ## Cycles -/

/-- One wanted item depends on another. -/
def Needs (want : List α) (deps : α → List α) (name dep : α) : Prop :=
  name ∈ want ∧ dep ∈ want ∧ dep ∈ deps name

def Acyclic (want : List α) (deps : α → List α) : Prop :=
  ∀ name, ¬ Relation.TransGen (Needs want deps) name name

namespace DependencyOrder

variable {want order : List α} {deps : α → List α}

/-- What an item depends on through others stands before it as well. -/
theorem before_of_path (ordered : DependencyOrder want deps order) {front rest : List α}
    {name dep : α} (path : Relation.TransGen (Needs want deps) name dep)
    (split : order = front ++ name :: rest) : dep ∈ front := by
  induction path with
  | single needs => exact ordered.before split needs.2.2 needs.2.1
  | tail _ needs ih =>
      obtain ⟨early, late, rfl⟩ := List.append_of_mem ih
      rw [List.append_assoc, List.cons_append] at split
      exact List.mem_append_left _ (ordered.before split needs.2.2 needs.2.1)

/-- There is no order of all wanted items where some of them form a cycle. -/
theorem acyclic (ordered : DependencyOrder want deps order)
    (complete : ∀ name, name ∈ order ↔ name ∈ want) : Acyclic want deps := by
  intro name cycle
  have isWanted : name ∈ want := by
    cases cycle with
    | single needs => exact needs.1
    | tail _ needs => exact needs.2.1
  obtain ⟨front, rest, split⟩ := List.append_of_mem ((complete name).mpr isWanted)
  have early : name ∈ front := ordered.before_of_path cycle split
  have distinct := ordered.nodup
  rw [split] at distinct
  exact List.disjoint_of_nodup_append distinct early List.mem_cons_self

end DependencyOrder

theorem exists_of_foldlM_error {β ε : Type} {step : β → α → Except ε β} {names : List α}
    {start : β} {error : ε} (fails : names.foldlM step start = .error error) :
    ∃ name ∈ names, ∃ reached, step reached name = .error error := by
  induction names generalizing start with
  | nil => cases fails
  | cons name names ih =>
      rw [List.foldlM_cons] at fails
      cases stepped : step start name with
      | error other =>
          rw [stepped] at fails
          cases fails
          exact ⟨name, List.mem_cons_self, start, stepped⟩
      | ok next =>
          rw [stepped] at fails
          obtain ⟨other, mem, reached, stops⟩ := ih fails
          exact ⟨other, List.mem_cons_of_mem _ mem, reached, stops⟩

variable [DecidableEq α] {want : List α} {deps : α → List α}

/-- A visit fails at an item of a cycle, when it is reached from all that are being
visited. -/
theorem visit_error (visiting order : List α) (name : α) (isWanted : name ∈ want)
    (reached : ∀ other ∈ visiting, Relation.TransGen (Needs want deps) other name) {cycle : α}
    (fails : visit want deps visiting order name = .error cycle) :
    Relation.TransGen (Needs want deps) cycle cycle := by
  induction visiting, order, name using visit.induct want with
  | case1 visiting order name visited =>
      rw [visit, if_pos visited] at fails
      cases fails
  | case2 visiting order name unvisited again =>
      rw [visit, if_neg unvisited, dif_pos again] at fails
      cases fails
      exact reached _ again
  | case3 visiting order name unvisited fresh ih =>
      rw [visit, if_neg unvisited, dif_neg fresh] at fails
      generalize visits : ((deps name).foldlM _ order : Except α (List α)) = found at fails
      cases found with
      | ok between => cases fails
      | error other =>
          cases fails
          obtain ⟨dep, depends, between, stops⟩ := exists_of_foldlM_error visits
          split at stops
          · next depWanted =>
              have needs : Needs want deps name dep := ⟨isWanted, depWanted, depends⟩
              refine ih between dep depWanted depWanted (fun other mem => ?_) stops
              rcases List.mem_cons.mp mem with rfl | mem
              · exact .single needs
              · exact (reached other mem).tail needs
          · cases stops

theorem topoSort_error {cycle : α} (fails : topoSort want deps = .error cycle) :
    Relation.TransGen (Needs want deps) cycle cycle := by
  obtain ⟨name, isWanted, order, stops⟩ := exists_of_foldlM_error fails
  exact visit_error [] order name isWanted nofun stops

/-- The wanted items can be sorted if and only if they do not depend on each other in a
cycle. -/
theorem exists_topoSort_ok_iff : (∃ order, topoSort want deps = .ok order) ↔ Acyclic want deps := by
  constructor
  · rintro ⟨order, sorts⟩
    obtain ⟨ordered, complete⟩ := topoSort_ok sorts
    exact ordered.acyclic complete
  · intro acyclic
    cases sorts : topoSort want deps with
    | ok order => exact ⟨order, rfl⟩
    | error cycle => exact absurd (topoSort_error sorts) (acyclic cycle)

end AiPowerGateway.Graphs

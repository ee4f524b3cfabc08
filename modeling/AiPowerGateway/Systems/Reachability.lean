import Mathlib.Logic.Relation

/-!
# Reachable states

A system of states that starts somewhere and moves in steps, the states it can
reach, and the rule that proves a property of all of them from one step.
-/

namespace AiPowerGateway.Systems

structure TransitionSystem (σ : Type) where
  start : σ → Prop
  step : σ → σ → Prop

namespace TransitionSystem

variable {σ : Type} {system : TransitionSystem σ} {inv : σ → Prop}

/-- A state at the end of some run. -/
def Reachable (system : TransitionSystem σ) (state : σ) : Prop :=
  ∃ first, system.start first ∧ Relation.ReflTransGen system.step first state

/-- A property of the start states that every step keeps. -/
structure Inductive (system : TransitionSystem σ) (inv : σ → Prop) : Prop where
  start {state : σ} : system.start state → inv state
  step {state next : σ} : inv state → system.step state next → inv next

theorem reachable_start {state : σ} (starts : system.start state) : system.Reachable state :=
  ⟨state, starts, .refl⟩

theorem Reachable.step {state next : σ} (reached : system.Reachable state)
    (moves : system.step state next) : system.Reachable next := by
  obtain ⟨first, starts, run⟩ := reached
  exact ⟨first, starts, run.tail moves⟩

/-- An inductive property holds along a run from a state that has it. -/
theorem Inductive.run (keeps : system.Inductive inv) {first last : σ} (holds : inv first)
    (run : Relation.ReflTransGen system.step first last) : inv last := by
  induction run with
  | refl => exact holds
  | tail _ moves ih => exact keeps.step ih moves

/-- An inductive property holds of every reachable state. -/
theorem Inductive.reachable (keeps : system.Inductive inv) {state : σ}
    (reached : system.Reachable state) : inv state := by
  obtain ⟨first, starts, run⟩ := reached
  exact keeps.run (keeps.start starts) run

/-! ## Since the latest marked step -/

/-- A run, with the state right after its latest marked step if it has one. -/
inductive RunSince (system : TransitionSystem σ) (mark : σ → σ → Prop) : Option σ → σ → Prop where
  | start {state : σ} (starts : system.start state) : RunSince system mark none state
  | marked {latest : Option σ} {state next : σ} (run : RunSince system mark latest state)
      (moves : system.step state next) (marks : mark state next) :
      RunSince system mark (some next) next
  | unmarked {latest : Option σ} {state next : σ} (run : RunSince system mark latest state)
      (moves : system.step state next) (plain : ¬ mark state next) :
      RunSince system mark latest next

variable {mark : σ → σ → Prop} {latest : Option σ} {state : σ}

theorem RunSince.reachable (run : system.RunSince mark latest state) : system.Reachable state := by
  induction run with
  | start starts => exact reachable_start starts
  | marked _ moves _ ih => exact ih.step moves
  | unmarked _ moves _ ih => exact ih.step moves

/-- Every reachable state has such a run. -/
theorem Reachable.exists_runSince (reached : system.Reachable state) (mark : σ → σ → Prop) :
    ∃ latest, system.RunSince mark latest state := by
  obtain ⟨first, starts, run⟩ := reached
  induction run with
  | refl => exact ⟨none, .start starts⟩
  | @tail middle last _ moves ih =>
      obtain ⟨latest, run⟩ := ih
      by_cases marks : mark middle last
      · exact ⟨some last, run.marked moves marks⟩
      · exact ⟨latest, run.unmarked moves marks⟩

theorem RunSince.exists_marked (run : system.RunSince mark latest state) {last : σ}
    (isLatest : latest = some last) :
    ∃ before, system.Reachable before ∧ system.step before last ∧ mark before last := by
  induction run with
  | start starts => cases isLatest
  | @marked _ before next run moves marks =>
      cases isLatest
      exact ⟨before, run.reachable, moves, marks⟩
  | unmarked _ _ _ ih => exact ih isLatest

/-- What plain steps keep is as it was after the latest marked step, or at the start. -/
theorem RunSince.kept {α : Type} {quantity : σ → α}
    (keeps : ∀ {state next : σ}, system.step state next → ¬ mark state next →
      quantity next = quantity state)
    (run : system.RunSince mark latest state) :
    ∃ origin, (latest = some origin ∨ latest = none ∧ system.start origin) ∧
      quantity state = quantity origin := by
  induction run with
  | @start state starts => exact ⟨state, .inr ⟨rfl, starts⟩, rfl⟩
  | @marked _ _ next _ _ _ => exact ⟨next, .inl rfl, rfl⟩
  | unmarked _ moves plain ih =>
      obtain ⟨origin, isOrigin, same⟩ := ih
      exact ⟨origin, isOrigin, (keeps moves plain).trans same⟩

end TransitionSystem

end AiPowerGateway.Systems

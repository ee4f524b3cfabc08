import Mathlib.Tactic.TypeStar

/-!
# Runs of events

A state that changes with each event of a list: a property of every state on the
way, a condition on every event in the state it meets, and the rule that makes the
two equivalent when they are equivalent for one event.
-/

namespace AiPowerGateway.Systems.EventRuns

variable {σ ε : Type*} {step : ε → σ → σ} {inv : σ → Prop} {fits : ε → σ → Prop}

/-- The state after the events. -/
def final (step : ε → σ → σ) : List ε → σ → σ
  | [], state => state
  | event :: events, state => final step events (step event state)

/-- The property holds in every state of the run. -/
def Throughout (step : ε → σ → σ) (inv : σ → Prop) : List ε → σ → Prop
  | [], state => inv state
  | event :: events, state => inv state ∧ Throughout step inv events (step event state)

/-- Every event of the run fits the state it meets. -/
def Fitting (step : ε → σ → σ) (fits : ε → σ → Prop) : List ε → σ → Prop
  | [], _ => True
  | event :: events, state => fits event state ∧ Fitting step fits events (step event state)

@[simp] theorem final_nil (state : σ) : final step [] state = state := rfl

@[simp] theorem final_cons (event : ε) (events : List ε) (state : σ) :
    final step (event :: events) state = final step events (step event state) := rfl

theorem final_append (events more : List ε) (state : σ) :
    final step (events ++ more) state = final step more (final step events state) := by
  induction events generalizing state with
  | nil => rfl
  | cons event events ih => exact ih (step event state)

@[simp] theorem throughout_nil (state : σ) : Throughout step inv [] state ↔ inv state := .rfl

@[simp] theorem throughout_cons (event : ε) (events : List ε) (state : σ) :
    Throughout step inv (event :: events) state ↔
      inv state ∧ Throughout step inv events (step event state) := .rfl

@[simp] theorem fitting_nil (state : σ) : Fitting step fits [] state := trivial

@[simp] theorem fitting_cons (event : ε) (events : List ε) (state : σ) :
    Fitting step fits (event :: events) state ↔
      fits event state ∧ Fitting step fits events (step event state) := .rfl

theorem Throughout.first {events : List ε} {state : σ}
    (holds : Throughout step inv events state) : inv state := by
  cases events with
  | nil => exact holds
  | cons event events => exact holds.1

/-- A run with one more event visits one more state. -/
theorem throughout_concat {events : List ε} {event : ε} {state : σ} :
    Throughout step inv (events ++ [event]) state ↔
      Throughout step inv events state ∧ inv (step event (final step events state)) := by
  induction events generalizing state with
  | nil => simp
  | cons first events ih => simp [ih, and_assoc]

theorem Throughout.last {events : List ε} {state : σ}
    (holds : Throughout step inv events state) : inv (final step events state) := by
  induction events generalizing state with
  | nil => exact holds
  | cons event events ih => exact ih holds.2

theorem Throughout.imp {weaker : σ → Prop} (implies : ∀ state, inv state → weaker state)
    {events : List ε} {state : σ} (holds : Throughout step inv events state) :
    Throughout step weaker events state := by
  induction events generalizing state with
  | nil => exact implies state holds
  | cons event events ih => exact ⟨implies state holds.1, ih holds.2⟩

theorem Fitting.and {also : ε → σ → Prop} {events : List ε} {state : σ}
    (first : Fitting step fits events state) (second : Fitting step also events state) :
    Fitting step (fun event state => fits event state ∧ also event state) events state := by
  induction events generalizing state with
  | nil => exact trivial
  | cons event events ih => exact ⟨⟨first.1, second.1⟩, ih first.2 second.2⟩

/-- What fitting events keep holds throughout. -/
theorem throughout_of_fitting
    (keeps : ∀ event state, fits event state → inv state → inv (step event state))
    {events : List ε} {state : σ} (fitting : Fitting step fits events state) (holds : inv state) :
    Throughout step inv events state := by
  induction events generalizing state with
  | nil => exact holds
  | cons event events ih => exact ⟨holds, ih fitting.2 (keeps event state fitting.1 holds)⟩

/-- The rule: what is exact for one event is exact for a run; exactness may need something
that every event keeps. -/
theorem throughout_iff_fitting_of (also : σ → Prop)
    (carries : ∀ event state, also state → also (step event state))
    (exact_step : ∀ event state, inv state → also state →
      (inv (step event state) ↔ fits event state))
    {state : σ} (holds : inv state) (starts : also state) (events : List ε) :
    Throughout step inv events state ↔ Fitting step fits events state := by
  induction events generalizing state with
  | nil => simp [holds]
  | cons event events ih =>
      rw [throughout_cons, fitting_cons, and_iff_right holds]
      constructor
      · intro rest
        have next : inv (step event state) := rest.first
        exact ⟨(exact_step event state holds starts).mp next,
          (ih next (carries event state starts)).mp rest⟩
      · rintro ⟨fit, rest⟩
        exact (ih ((exact_step event state holds starts).mpr fit)
          (carries event state starts)).mpr rest

/-- The same rule where the property is enough. -/
theorem throughout_iff_fitting
    (exact_step : ∀ event state, inv state → (inv (step event state) ↔ fits event state))
    {state : σ} (holds : inv state) (events : List ε) :
    Throughout step inv events state ↔ Fitting step fits events state :=
  throughout_iff_fitting_of (fun _ => True) (fun _ _ _ => trivial)
    (fun event state holds _ => exact_step event state holds) holds trivial events

/-- The same rule where the events have something to fulfil as well, and exactness needs
more than the property, namely something that holds as long as the property does. -/
theorem throughout_and_fitting_iff_of {keeps : ε → σ → Prop} (also : σ → Prop)
    (carries : ∀ event state, inv state → also state → inv (step event state) →
      also (step event state))
    (exact_step : ∀ event state, inv state → also state →
      (inv (step event state) ∧ fits event state ↔ keeps event state))
    {state : σ} (holds : inv state) (starts : also state) (events : List ε) :
    Throughout step inv events state ∧ Fitting step fits events state ↔
      Fitting step keeps events state := by
  induction events generalizing state with
  | nil => simp [holds]
  | cons event events ih =>
      rw [throughout_cons, fitting_cons, fitting_cons, and_iff_right holds]
      constructor
      · rintro ⟨rest, fit, later⟩
        have next : inv (step event state) := rest.first
        exact ⟨(exact_step event state holds starts).mp ⟨next, fit⟩,
          (ih next (carries event state holds starts next)).mp ⟨rest, later⟩⟩
      · rintro ⟨keep, later⟩
        obtain ⟨next, fit⟩ := (exact_step event state holds starts).mpr keep
        obtain ⟨rest, fits⟩ := (ih next (carries event state holds starts next)).mpr later
        exact ⟨rest, fit, fits⟩

/-- The same rule where the property is enough. -/
theorem throughout_and_fitting_iff {keeps : ε → σ → Prop}
    (exact_step : ∀ event state, inv state →
      (inv (step event state) ∧ fits event state ↔ keeps event state))
    {state : σ} (holds : inv state) (events : List ε) :
    Throughout step inv events state ∧ Fitting step fits events state ↔
      Fitting step keeps events state :=
  throughout_and_fitting_iff_of (fun _ => True) (fun _ _ _ _ _ => trivial)
    (fun event state holds _ => exact_step event state holds) holds trivial events

/-! ## Events with answers -/

/-- The answers to the events. -/
def answers {ρ : Type*} (call : ε → σ → ρ × σ) : List ε → σ → List ρ
  | [], _ => []
  | event :: events, state => (call event state).1 :: answers call events (call event state).2

/-- Two systems answer alike when every event keeps a relation between them. -/
theorem answers_eq_of_simulation {ρ τ : Type*} {call : ε → σ → ρ × σ} {other : ε → τ → ρ × τ}
    {shows : σ → τ → Prop}
    (simulates : ∀ event state shown, shows state shown →
      (call event state).1 = (other event shown).1 ∧
        shows (call event state).2 (other event shown).2)
    (events : List ε) {state : σ} {shown : τ} (starts : shows state shown) :
    answers call events state = answers other events shown ∧
      shows (final (fun event state => (call event state).2) events state)
        (final (fun event shown => (other event shown).2) events shown) := by
  induction events generalizing state shown with
  | nil => exact ⟨rfl, starts⟩
  | cons event events ih =>
      obtain ⟨same, next⟩ := simulates event state shown starts
      obtain ⟨alike, ends⟩ := ih next
      exact ⟨by rw [answers, answers, same, alike], ends⟩

end AiPowerGateway.Systems.EventRuns

import AiPowerGateway.Collections.HashMap
import AiPowerGateway.Collections.Slots
import AiPowerGateway.Systems.EventRuns

/-!
# The event bus

Modules subscribe to events by name and are called in the order in which they subscribed.
The id of a subscription is its place among the handlers of its event; one that is cancelled
leaves a handler that does nothing, and the others keep their ids.
-/

namespace AiPowerGateway.Runtime

open Systems EventRuns

variable {π ε : Type}

/-- What a subscriber does with the name of an event and a payload, in order. -/
abbrev EventHandler (π ε : Type) := String → π → List ε

/-- The handler that stands where a subscription was cancelled. -/
def EventHandler.noop : EventHandler π ε := fun _ _ => []

structure EventBus (π ε : Type) where
  handlers : HashMap (List (EventHandler π ε)) := ∅

namespace EventBus

/-- Subscribe, and return the id that cancels. -/
def subscribe (event : String) (handler : EventHandler π ε) (bus : EventBus π ε) :
    Nat × EventBus π ε :=
  let list := (bus.handlers.lookup event).getD [] ++ [handler]
  (list.length - 1, ⟨bus.handlers.insert event list⟩)

/-- Call all subscribers, and return what they did. -/
def emit (event : String) (payload : π) (bus : EventBus π ε) : List ε :=
  match bus.handlers.lookup event with
  | none => []
  | some list => list.flatMap fun handler => handler event payload

def unsubscribe (event : String) (id : Nat) (bus : EventBus π ε) : EventBus π ε :=
  match bus.handlers.lookup event with
  | none => bus
  | some list =>
      if id < list.length then ⟨bus.handlers.insert event (list.set id .noop)⟩ else bus

def hasSubscribers (event : String) (bus : EventBus π ε) : Bool :=
  (bus.handlers.lookup event).isSome

end EventBus

/-! ## What a bus is for -/

/-- A subscription that was not cancelled. -/
structure Subscription (π ε : Type) where
  event : String
  id : Nat
  handler : EventHandler π ε

/-- The subscriptions in their order, and how many there ever were to an event. -/
structure Subscriptions (π ε : Type) where
  live : List (Subscription π ε) := []
  issued : String → Nat := fun _ => 0

inductive BusCall (π ε : Type) where
  | subscribe (event : String) (handler : EventHandler π ε)
  | emit (event : String) (payload : π)
  | unsubscribe (event : String) (id : Nat)
  | hasSubscribers (event : String)

inductive BusAnswer (ε : Type) where
  | subscribed (id : Nat)
  | called (effects : List ε)
  | unsubscribed
  | has (subscribers : Bool)

/-- The answer of the bus. -/
def EventBus.call : BusCall π ε → EventBus π ε → BusAnswer ε × EventBus π ε
  | .subscribe event handler, bus =>
      (.subscribed (bus.subscribe event handler).1, (bus.subscribe event handler).2)
  | .emit event payload, bus => (.called (bus.emit event payload), bus)
  | .unsubscribe event id, bus => (.unsubscribed, bus.unsubscribe event id)
  | .hasSubscribers event, bus => (.has (bus.hasSubscribers event), bus)

namespace Subscriptions

def subscribedTo (event : String) (subscriptions : Subscriptions π ε) : List (Subscription π ε) :=
  subscriptions.live.filter fun subscription => subscription.event = event

/-- The answer that is meant: an event calls who is subscribed to it, once each; but it counts
as subscribed for ever. -/
def call : BusCall π ε → Subscriptions π ε → BusAnswer ε × Subscriptions π ε
  | .subscribe event handler, ⟨live, issued⟩ =>
      (.subscribed (issued event), ⟨live ++ [⟨event, issued event, handler⟩],
        Function.update issued event (issued event + 1)⟩)
  | .emit event payload, subscriptions =>
      (.called ((subscriptions.subscribedTo event).flatMap fun subscription =>
        subscription.handler event payload), subscriptions)
  | .unsubscribe event id, ⟨live, issued⟩ =>
      (.unsubscribed, ⟨live.filter fun subscription =>
        ¬ (subscription.event = event ∧ subscription.id = id), issued⟩)
  | .hasSubscribers event, subscriptions =>
      (.has (0 < subscriptions.issued event), subscriptions)

end Subscriptions

/-! ## The bus is one -/

section Shows

variable {bus : EventBus π ε} {subscriptions : Subscriptions π ε}
  {list : Option (List (EventHandler π ε))} {slots : List (Option (EventHandler π ε))}
  {event other : String}

/-- A list of handlers holds these slots. -/
def Occupies (list : Option (List (EventHandler π ε))) (slots : List (Option (EventHandler π ε))) :
    Prop :=
  list = if slots = [] then none else some (slots.map fun slot => slot.getD .noop)

/-- The handlers of every event are slots, of which its subscriptions are the filled ones. -/
def EventBus.Shows (bus : EventBus π ε) (subscriptions : Subscriptions π ε) : Prop :=
  ∀ event, ∃ slots, Occupies (bus.handlers.lookup event) slots ∧
    Slots.filled slots =
      (subscriptions.subscribedTo event).map (fun shown => (shown.id, shown.handler)) ∧
    subscriptions.issued event = slots.length

theorem Occupies.getD (occupies : Occupies list slots) :
    list.getD [] = slots.map fun slot => slot.getD .noop := by
  subst occupies
  by_cases empty : slots = [] <;> simp [empty]

theorem occupies_concat (slots : List (Option (EventHandler π ε))) (handler : EventHandler π ε) :
    Occupies (some ((slots.map fun slot => slot.getD .noop) ++ [handler]))
      (slots ++ [some handler]) := by
  simp [Occupies]

theorem Occupies.isSome (occupies : Occupies list slots) :
    list.isSome = decide (0 < slots.length) := by
  subst occupies
  cases slots <;> simp

theorem Occupies.flatMap (occupies : Occupies list slots) (yields : EventHandler π ε → List ε)
    (silent : yields .noop = []) :
    (list.getD []).flatMap yields =
      (Slots.filled slots).flatMap fun entry => yields entry.2 := by
  rw [occupies.getD, Slots.flatMap_filled, List.flatMap_map]
  refine List.flatMap_congr fun slot _ => ?_
  cases slot with
  | none => exact silent
  | some handler => rfl

theorem shows_subscribe (handler : EventHandler π ε) (shows : bus.Shows subscriptions) :
    (bus.subscribe event handler).1 = subscriptions.issued event ∧
      (bus.subscribe event handler).2.Shows
        (subscriptions.call (.subscribe event handler)).2 := by
  obtain ⟨slots, occupies, filled, issued⟩ := shows event
  constructor
  · simp [EventBus.subscribe, occupies.getD, issued]
  · intro other
    by_cases same : other = event
    · subst same
      refine ⟨slots ++ [some handler], ?_, ?_, ?_⟩
      · rw [EventBus.subscribe, AList.lookup_insert, occupies.getD]
        exact occupies_concat slots handler
      · rw [Slots.filled_concat, filled, ← issued]
        simp [Subscriptions.subscribedTo, Subscriptions.call]
      · simp [Subscriptions.call, issued]
    · obtain ⟨slots, occupies, filled, issued⟩ := shows other
      refine ⟨slots, ?_, ?_, ?_⟩
      · rwa [EventBus.subscribe, AList.lookup_insert_ne same]
      · rw [filled]
        simp [Subscriptions.subscribedTo, Subscriptions.call, Ne.symm same]
      · rw [← issued]
        exact Function.update_of_ne same _ _

theorem lookup_unsubscribe (id : Nat) :
    (bus.unsubscribe event id).handlers.lookup event =
      (bus.handlers.lookup event).map fun list => list.set id .noop := by
  cases known : bus.handlers.lookup event with
  | none => simp [EventBus.unsubscribe, known]
  | some list =>
      by_cases inside : id < list.length
      · simp [EventBus.unsubscribe, known, inside]
      · simp [EventBus.unsubscribe, known, inside,
          List.set_eq_of_length_le (Nat.le_of_not_lt inside)]

theorem lookup_unsubscribe_ne (differ : other ≠ event) (id : Nat) :
    (bus.unsubscribe event id).handlers.lookup other = bus.handlers.lookup other := by
  cases known : bus.handlers.lookup event with
  | none => simp [EventBus.unsubscribe, known]
  | some list =>
      by_cases inside : id < list.length <;>
        simp [EventBus.unsubscribe, known, inside, AList.lookup_insert_ne differ]

theorem Occupies.clear (occupies : Occupies list slots) (id : Nat) :
    Occupies (list.map fun list => list.set id .noop) (slots.set id none) := by
  subst occupies
  by_cases empty : slots = []
  · simp [Occupies, empty]
  · simp [Occupies, empty, List.map_set]

theorem shows_unsubscribe (id : Nat) (shows : bus.Shows subscriptions) :
    (bus.unsubscribe event id).Shows (subscriptions.call (.unsubscribe event id)).2 := by
  intro other
  obtain ⟨slots, occupies, filled, issued⟩ := shows other
  by_cases same : other = event
  · subst same
    refine ⟨slots.set id none, ?_, ?_, by rw [List.length_set]; exact issued⟩
    · rw [lookup_unsubscribe]
      exact occupies.clear id
    · rw [Slots.filled_clear, filled, List.filter_map]
      simp only [Subscriptions.subscribedTo, Subscriptions.call, List.filter_filter]
      refine congrArg (List.map _) (List.filter_congr fun subscription _ => ?_)
      by_cases mine : subscription.event = other <;> simp [mine]
  · refine ⟨slots, by rwa [lookup_unsubscribe_ne same], ?_, issued⟩
    rw [filled]
    simp only [Subscriptions.subscribedTo, Subscriptions.call, List.filter_filter]
    refine congrArg (List.map _) (List.filter_congr fun subscription _ => ?_)
    by_cases mine : subscription.event = other <;> simp [mine, same]

theorem emit_of_shows (shows : bus.Shows subscriptions) (payload : π) :
    bus.emit event payload =
      (subscriptions.subscribedTo event).flatMap fun subscription =>
        subscription.handler event payload := by
  obtain ⟨slots, occupies, filled, -⟩ := shows event
  have called : bus.emit event payload =
      ((bus.handlers.lookup event).getD []).flatMap fun handler => handler event payload := by
    cases known : bus.handlers.lookup event <;> simp [EventBus.emit, known]
  rw [called, occupies.flatMap _ rfl, filled, List.flatMap_map]

/-- One call. -/
theorem shows_call (call : BusCall π ε) (shows : bus.Shows subscriptions) :
    (bus.call call).1 = (subscriptions.call call).1 ∧
      (bus.call call).2.Shows (subscriptions.call call).2 := by
  cases call with
  | subscribe event handler =>
      have made : (bus.subscribe event handler).1 = subscriptions.issued event ∧ _ :=
        shows_subscribe handler shows
      exact ⟨congrArg BusAnswer.subscribed made.1, made.2⟩
  | emit event payload => exact ⟨congrArg BusAnswer.called (emit_of_shows shows payload), shows⟩
  | unsubscribe event id => exact ⟨rfl, shows_unsubscribe id shows⟩
  | hasSubscribers event =>
      obtain ⟨slots, occupies, -, issued⟩ := shows event
      refine ⟨congrArg BusAnswer.has ?_, shows⟩
      rw [EventBus.hasSubscribers, occupies.isSome, issued]

theorem pairwise_subscribedTo (shows : bus.Shows subscriptions) (event : String) :
    (subscriptions.subscribedTo event).Pairwise fun first next => first.id < next.id := by
  obtain ⟨slots, -, filled, -⟩ := shows event
  have ascends := Slots.pairwise_filled slots
  rwa [filled, List.pairwise_map] at ascends

end Shows

theorem shows_empty : ({} : EventBus π ε).Shows {} :=
  fun _ => ⟨[], rfl, rfl, rfl⟩

/--
Whatever modules subscribe, emit, cancel and ask for on a new bus, in any order: it answers
as the list of live subscriptions does, in which the ids of an event ascend, so that a
cancellation takes out one subscription at most.
-/
theorem bus_serves_subscriptions (calls : List (BusCall π ε)) :
    answers EventBus.call calls {} = answers Subscriptions.call calls {} ∧
      ∀ event, ((final (fun call subscriptions => (Subscriptions.call call subscriptions).2)
        calls ({} : Subscriptions π ε)).subscribedTo event).Pairwise
          fun first next => first.id < next.id := by
  obtain ⟨same, shows⟩ := answers_eq_of_simulation
    (fun call _ _ shows => shows_call call shows) calls (shows_empty : ({} : EventBus π ε).Shows _)
  exact ⟨same, pairwise_subscribedTo shows⟩

end AiPowerGateway.Runtime

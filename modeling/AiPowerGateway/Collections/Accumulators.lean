import Mathlib.Data.List.Basic
import Mathlib.Data.List.Forall2
import Mathlib.Data.List.Induction

/-!
# Accumulators of a loop

What a loop over a list keeps of its items: the first value, the last one, all texts
joined, or the length of the run at the end.  Each accumulator of a loop state is computed
on its own, whatever the other accumulators of the same state do.
-/

namespace AiPowerGateway.Accumulators

variable {α β σ ε : Type}

/-! ## What a list keeps -/

def first (value : α → Option β) (items : List α) : Option β := (items.filterMap value).head?

def last (value : α → Option β) (items : List α) : Option β := (items.filterMap value).getLast?

def joined (text : α → Option String) (items : List α) : String :=
  String.join (items.filterMap text)

section Keep

variable (value : α → Option β) (text : α → Option String)

@[simp] theorem first_nil : first value [] = none := rfl

@[simp] theorem last_nil : last value [] = none := rfl

@[simp] theorem joined_nil : joined text [] = "" := rfl

theorem first_append (items more : List α) :
    first value (items ++ more) = (first value items).or (first value more) := by
  simp [first]

theorem last_append (items more : List α) :
    last value (items ++ more) = (last value more).or (last value items) := by
  simp [last]

theorem joined_append (items more : List α) :
    joined text (items ++ more) = joined text items ++ joined text more := by
  simp [joined]

@[simp] theorem first_singleton (item : α) : first value [item] = value item := by
  cases kept : value item <;> simp [first, kept]

@[simp] theorem last_singleton (item : α) : last value [item] = value item := by
  cases kept : value item <;> simp [last, kept]

@[simp] theorem joined_singleton (item : α) : joined text [item] = (text item).getD "" := by
  cases kept : text item <;> simp [joined, kept]

theorem first_cons (item : α) (items : List α) :
    first value (item :: items) = (value item).or (first value items) := by
  rw [← List.singleton_append, first_append, first_singleton]

theorem last_cons (item : α) (items : List α) :
    last value (item :: items) = (last value items).or (value item) := by
  rw [← List.singleton_append, last_append, last_singleton]

theorem joined_cons (item : α) (items : List α) :
    joined text (item :: items) = (text item).getD "" ++ joined text items := by
  rw [← List.singleton_append, joined_append, joined_singleton]

end Keep

/-! ## The run at the end -/

/-- The number of items at the end that all have a property. -/
def trailingRun (counts : α → Bool) (items : List α) : Nat :=
  (items.reverse.takeWhile counts).length

section Run

variable {counts : α → Bool}

@[simp] theorem trailingRun_nil : trailingRun counts [] = 0 := rfl

theorem trailingRun_counted {item : α} (counted : counts item = true) (items : List α) :
    trailingRun counts (items ++ [item]) = trailingRun counts items + 1 := by
  simp [trailingRun, counted]

theorem trailingRun_stopped {item : α} (stopped : counts item = false) (items : List α) :
    trailingRun counts (items ++ [item]) = 0 := by
  simp [trailingRun, stopped]

/-- Counted items make the run longer. -/
theorem trailingRun_append {more : List α} (counted : ∀ item ∈ more, counts item = true)
    (items : List α) :
    trailingRun counts (items ++ more) = trailingRun counts items + more.length := by
  induction more generalizing items with
  | nil => simp
  | cons item more ih =>
      have rest : ∀ other ∈ more, counts other = true := fun other mem =>
        counted other (List.mem_cons_of_mem _ mem)
      rw [List.append_cons, ih rest, trailingRun_counted (counted item List.mem_cons_self),
        List.length_cons, Nat.add_assoc, Nat.add_comm 1]

end Run

/-! ## One accumulator of a loop -/

section Loop

variable {step : σ → α → σ}

/-- An accumulator that is written once keeps the first value. -/
theorem foldl_first (kept : σ → Option β) {value : α → Option β}
    (writes : ∀ state item, kept (step state item) = (kept state).or (value item))
    (items : List α) (state : σ) :
    kept (items.foldl step state) = (kept state).or (first value items) := by
  induction items generalizing state with
  | nil => simp
  | cons item items ih => rw [List.foldl_cons, ih, writes, first_cons, Option.or_assoc]

/-- An accumulator that is overwritten keeps the last value. -/
theorem foldl_last (kept : σ → Option β) {value : α → Option β}
    (writes : ∀ state item, kept (step state item) = (value item).or (kept state))
    (items : List α) (state : σ) :
    kept (items.foldl step state) = (last value items).or (kept state) := by
  induction items generalizing state with
  | nil => simp
  | cons item items ih => rw [List.foldl_cons, ih, writes, last_cons, Option.or_assoc]

/-- The same for an accumulator that starts with a default. -/
theorem foldl_last_getD (kept : σ → β) {value : α → Option β}
    (writes : ∀ state item, kept (step state item) = (value item).getD (kept state))
    (items : List α) (state : σ) :
    kept (items.foldl step state) = (last value items).getD (kept state) := by
  induction items generalizing state with
  | nil => simp
  | cons item items ih =>
      rw [List.foldl_cons, ih, writes, last_cons]
      cases last value items <;> rfl

/-- An accumulator that is appended to keeps all texts in their order. -/
theorem foldl_joined (kept : σ → String) {text : α → Option String}
    (writes : ∀ state item, kept (step state item) = kept state ++ (text item).getD "")
    (items : List α) (state : σ) :
    kept (items.foldl step state) = kept state ++ joined text items := by
  induction items generalizing state with
  | nil => simp
  | cons item items ih => rw [List.foldl_cons, ih, writes, joined_cons, String.append_assoc]

/-- A counter modulo some number that other items reset counts the run at the end. -/
theorem foldl_trailingRun (kept : σ → Nat) {counts : α → Bool} {modulus : Nat}
    (writes : ∀ state item, kept (step state item) =
      if counts item then (kept state + 1) % modulus else 0)
    (items : List α) {state : σ} (zero : kept state = 0) :
    kept (items.foldl step state) = trailingRun counts items % modulus := by
  induction items using List.reverseRecOn with
  | nil => rw [List.foldl_nil, zero, trailingRun_nil, Nat.zero_mod]
  | append_singleton items item ih =>
      rw [List.foldl_append, List.foldl_cons, List.foldl_nil, writes, ih]
      cases counted : counts item with
      | true => rw [if_pos rfl, trailingRun_counted counted, Nat.mod_add_mod]
      | false => rw [if_neg Bool.false_ne_true, trailingRun_stopped counted, Nat.zero_mod]

end Loop

/-! ## Items that are read first -/

section Read

variable {read : α → Except ε β}

theorem mapM_ok {items : List α} {values : List β} (all : items.mapM read = .ok values) :
    values = items.filterMap fun item => (read item).toOption := by
  induction items generalizing values with
  | nil =>
      rw [List.mapM_nil] at all
      cases all
      rfl
  | cons item items ih =>
      rw [List.mapM_cons] at all
      cases head : read item with
      | error e =>
          rw [head] at all
          cases all
      | ok value =>
          cases tail : items.mapM read with
          | error e =>
              rw [head, tail] at all
              cases all
          | ok rest =>
              rw [head, tail] at all
              cases all
              simp [head, Except.toOption, ih tail]

/-- A list is read when each of its items is. -/
theorem mapM_ok_iff {items : List α} {values : List β} :
    items.mapM read = .ok values ↔ List.Forall₂ (fun item value => read item = .ok value)
      items values := by
  induction items generalizing values with
  | nil => simp [pure, Except.pure, List.forall₂_nil_left_iff, eq_comm]
  | cons item items ih =>
      rw [List.mapM_cons, List.forall₂_cons_left_iff]
      simp only [← ih]
      cases head : read item with
      | error e => simp [bind, Except.bind]
      | ok value =>
          cases tail : items.mapM read with
          | error e => simp [bind, Except.bind]
          | ok rest => simp [bind, Except.bind, pure, Except.pure, eq_comm]

/-- Reading a list fails exactly when an item cannot be read. -/
theorem mapM_error_iff {items : List α} :
    (∃ e, items.mapM read = .error e) ↔ ∃ item ∈ items, (read item).toOption = none := by
  induction items with
  | nil => simp [pure, Except.pure]
  | cons item items ih =>
      rw [List.mapM_cons, List.exists_mem_cons_iff, ← ih]
      cases head : read item with
      | error e => simp [bind, Except.bind, Except.toOption]
      | ok value =>
          cases tail : items.mapM read with
          | error e => simp [bind, Except.bind, Except.toOption]
          | ok rest => simp [bind, Except.bind, Except.toOption, pure, Except.pure]

end Read

/-- What succeeds for every item succeeds for the list. -/
theorem mapM_of_isSome {f : α → Option β} {items : List α}
    (all : ∀ item ∈ items, (f item).isSome) : items.mapM f = some (items.filterMap f) := by
  induction items with
  | nil => rfl
  | cons item items ih =>
      obtain ⟨value, found⟩ := Option.isSome_iff_exists.mp (all item List.mem_cons_self)
      have rest := ih fun other mem => all other (List.mem_cons_of_mem item mem)
      rw [List.mapM_cons, found, rest, List.filterMap_cons_some found]
      rfl

end AiPowerGateway.Accumulators

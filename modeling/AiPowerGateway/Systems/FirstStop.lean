import Mathlib.Data.List.Basic

/-!
# Loops that stop at the first result

A loop over a list whose body either gives a reason to go on to the next item or a
result to stop with.  A run records the items it visited with their positions.
-/

namespace AiPowerGateway.Systems.FirstStop

variable {α ε ρ : Type}

inductive Outcome (ε ρ : Type) where
  | advance (reason : ε)
  | stop (result : ρ)
  deriving DecidableEq, Repr

/-- The visited items, and the result or the last reason. -/
structure Trace (α ε ρ : Type) where
  visited : List (α × Nat)
  result : Except ε ρ

/-- Run from a position on, with the reason that stands if no item gives one. -/
def run (body : Nat → α → Outcome ε ρ) : Nat → ε → List α → Trace α ε ρ
  | _, reason, [] => ⟨[], .error reason⟩
  | position, _, item :: rest =>
      match body position item with
      | .stop result => ⟨[(item, position)], .ok result⟩
      | .advance reason =>
          let later := run body (position + 1) reason rest
          ⟨(item, position) :: later.visited, later.result⟩

/-- The loop goes on past every item. -/
def Passes (body : Nat → α → Outcome ε ρ) (start : Nat) (items : List α) : Prop :=
  ∀ i item, items[i]? = some item → ∃ reason, body (start + i) item = .advance reason

variable {body : Nat → α → Outcome ε ρ}

theorem passes_cons {start : Nat} {item : α} {items : List α} :
    Passes body start (item :: items) ↔
      (∃ reason, body start item = .advance reason) ∧ Passes body (start + 1) items := by
  constructor
  · intro passes
    refine ⟨passes 0 item rfl, fun i other found => ?_⟩
    rw [Nat.add_right_comm]
    exact passes (i + 1) other found
  · rintro ⟨first, rest⟩ i other found
    cases i with
    | zero =>
        rw [List.getElem?_cons_zero, Option.some.injEq] at found
        exact found ▸ first
    | succ i =>
        rw [Nat.add_succ, ← Nat.succ_add]
        exact rest i other found

/-- Every item was visited, and the last reason stands. -/
theorem run_passes {start : Nat} {items : List α} (passes : Passes body start items)
    (reason : ε) :
    (run body start reason items).visited = items.zipIdx start ∧
      ∃ last, (run body start reason items).result = .error last := by
  induction items generalizing start reason with
  | nil => exact ⟨rfl, reason, rfl⟩
  | cons item items ih =>
      obtain ⟨⟨next, advances⟩, rest⟩ := passes_cons.mp passes
      obtain ⟨visited, last, result⟩ := ih rest next
      refine ⟨?_, last, ?_⟩
      · simp only [run, advances, visited, List.zipIdx_cons]
      · simp only [run, advances, result]

/-- The loop stops at the first item that stops it. -/
theorem run_stop {start : Nat} {before after : List α} {item : α} {result : ρ}
    (passes : Passes body start before)
    (stops : body (start + before.length) item = .stop result) (reason : ε) :
    run body start reason (before ++ item :: after) =
      ⟨(before ++ [item]).zipIdx start, .ok result⟩ := by
  induction before generalizing start reason with
  | nil =>
      rw [List.length_nil, Nat.add_zero] at stops
      simp [run, stops]
  | cons first before ih =>
      obtain ⟨⟨next, advances⟩, rest⟩ := passes_cons.mp passes
      have later : body (start + 1 + before.length) item = .stop result := by
        rw [← stops, List.length_cons, Nat.add_assoc, Nat.add_comm 1]
      simp [run, advances, ih rest later next]

/-- A run stops somewhere or passes everything. -/
theorem passes_or_stops (body : Nat → α → Outcome ε ρ) (start : Nat) (items : List α) :
    Passes body start items ∨
      ∃ before item after result, items = before ++ item :: after ∧ Passes body start before ∧
        body (start + before.length) item = .stop result := by
  induction items generalizing start with
  | nil => exact Or.inl fun i item found => by simp at found
  | cons item items ih =>
      cases outcome : body start item with
      | stop result =>
          exact Or.inr ⟨[], item, items, result, rfl, fun i other found => by simp at found,
            outcome⟩
      | advance reason =>
          rcases ih (start + 1) with passes | ⟨before, stopper, after, result, split, passes, stops⟩
          · exact Or.inl (passes_cons.mpr ⟨⟨reason, outcome⟩, passes⟩)
          · refine Or.inr ⟨item :: before, stopper, after, result, by rw [split]; rfl,
              passes_cons.mpr ⟨⟨reason, outcome⟩, passes⟩, ?_⟩
            rw [List.length_cons, ← stops, Nat.add_assoc, Nat.add_comm 1]

/-- Only items of the list are visited. -/
theorem mem_of_visited {start : Nat} {items : List α} {reason : ε} {visited : α × Nat}
    (mem : visited ∈ (run body start reason items).visited) : visited.1 ∈ items := by
  induction items generalizing start reason with
  | nil => cases mem
  | cons item items ih =>
      cases outcome : body start item with
      | stop result =>
          simp only [run, outcome, List.mem_singleton] at mem
          exact mem ▸ List.mem_cons_self
      | advance next =>
          simp only [run, outcome, List.mem_cons] at mem
          rcases mem with here | later
          · exact here ▸ List.mem_cons_self
          · exact List.mem_cons_of_mem _ (ih later)

/-- A result comes from a visited item. -/
theorem exists_visited_of_result {start : Nat} {items : List α} {reason : ε} {result : ρ}
    (ends : (run body start reason items).result = .ok result) :
    ∃ item position, (item, position) ∈ (run body start reason items).visited ∧
      body position item = .stop result := by
  rcases passes_or_stops body start items with
    passes | ⟨before, stopper, after, found, rfl, passes, stops⟩
  · obtain ⟨-, last, failed⟩ := run_passes passes reason
    rw [failed] at ends
    cases ends
  · rw [run_stop passes stops] at ends ⊢
    cases ends
    refine ⟨stopper, start + before.length, ?_, stops⟩
    rw [List.mk_add_mem_zipIdx_iff_getElem?]
    simp

/-- An item that stops the loop bounds the item at which a run ends. -/
theorem exists_result_of_stop {start i : Nat} {items : List α} {item : α} {result : ρ}
    (found : items[i]? = some item) (stops : body (start + i) item = .stop result) (reason : ε) :
    ∃ j other ended, j ≤ i ∧ items[j]? = some other ∧ body (start + j) other = .stop ended ∧
      (run body start reason items).result = .ok ended := by
  rcases passes_or_stops body start items with
    passes | ⟨before, stopper, after, ended, rfl, passes, stopped⟩
  · obtain ⟨next, advances⟩ := passes i item found
    rw [stops] at advances
    cases advances
  · refine ⟨before.length, stopper, ended, ?_, by simp, stopped, by rw [run_stop passes stopped]⟩
    by_contra later
    have early : before[i]? = some item := by
      rw [← found, List.getElem?_append_left (Nat.lt_of_not_le later)]
    obtain ⟨next, advances⟩ := passes i item early
    rw [stops] at advances
    cases advances

theorem Passes.take {start : Nat} {items : List α} (passes : Passes body start items) (n : Nat) :
    Passes body start (items.take n) := by
  intro i item found
  have small : i < n := by
    by_contra large
    rw [List.getElem?_take_eq_none (Nat.le_of_not_lt large)] at found
    cases found
  rw [List.getElem?_take_of_lt small] at found
  exact passes i item found

/-- An item is visited exactly when the loop goes on past every earlier one. -/
theorem mem_visited_iff {start : Nat} {items : List α} {reason : ε} {i : Nat} {item : α} :
    (item, start + i) ∈ (run body start reason items).visited ↔
      items[i]? = some item ∧ Passes body start (items.take i) := by
  rcases passes_or_stops body start items with
    passes | ⟨before, stopper, after, result, rfl, passes, stops⟩
  · rw [(run_passes passes reason).1, List.mk_add_mem_zipIdx_iff_getElem?]
    exact ⟨fun found => ⟨found, passes.take i⟩, And.left⟩
  · rw [run_stop passes stops, List.mk_add_mem_zipIdx_iff_getElem?]
    by_cases early : i ≤ before.length
    · have sameItem : (before ++ [stopper])[i]? = (before ++ stopper :: after)[i]? := by
        rw [List.append_cons before stopper after]
        exact (List.getElem?_append_left (by simp; omega)).symm
      rw [sameItem, List.take_append_of_le_length early]
      exact ⟨fun found => ⟨found, passes.take i⟩, And.left⟩
    · constructor
      · intro found
        rw [List.getElem?_eq_none (by simp; omega)] at found
        cases found
      · rintro ⟨-, passesAll⟩
        have reached : ((before ++ stopper :: after).take i)[before.length]? = some stopper := by
          rw [List.getElem?_take_of_lt (by omega)]
          simp
        obtain ⟨reason, advances⟩ := passesAll before.length stopper reached
        rw [stops] at advances
        cases advances

end AiPowerGateway.Systems.FirstStop

import Mathlib.Data.List.Perm.Basic

/-!
# Calls and their answers

A conversation in which some turns call for answers by name: every calling turn
is followed at once by one answer to each of its calls, in any order, and no
answer stands anywhere else.
-/

namespace AiPowerGateway.Protocols

/-- A turn: one that concerns no call, one that makes calls, or one answer. -/
inductive Turn (ι : Type) where
  | plain
  | calls (ids : List ι)
  | answer (id : ι)
  deriving DecidableEq, Repr

namespace Turn

variable {ι : Type}

inductive Answered : List (Turn ι) → Prop where
  | nil : Answered []
  | plain {rest : List (Turn ι)} : Answered rest → Answered (plain :: rest)
  | calls {ids answers : List ι} {rest : List (Turn ι)} :
      answers.Perm ids → Answered rest → Answered (calls ids :: (answers.map answer ++ rest))

/-- The turns answer the waiting calls first and are in order from there on. -/
def Owing (pending : List ι) (turns : List (Turn ι)) : Prop :=
  ∃ (answers : List ι) (rest : List (Turn ι)),
    turns = answers.map answer ++ rest ∧ answers.Perm pending ∧ Answered rest

/-- A turn that is no answer stands only where nothing waits. -/
theorem owing_cons {turn : Turn ι} (notAnswer : ∀ id, turn ≠ answer id) {pending : List ι}
    {turns : List (Turn ι)} :
    Owing pending (turn :: turns) ↔ pending = [] ∧ Answered (turn :: turns) := by
  constructor
  · rintro ⟨answers, rest, split, same, rests⟩
    cases answers with
    | nil =>
        rw [List.map_nil, List.nil_append] at split
        exact ⟨same.symm.eq_nil, split ▸ rests⟩
    | cons first answers =>
        rw [List.map_cons, List.cons_append, List.cons.injEq] at split
        exact absurd split.1 (notAnswer first)
  · rintro ⟨rfl, rests⟩
    exact ⟨[], turn :: turns, rfl, .refl _, rests⟩

theorem answered_plain {turns : List (Turn ι)} :
    Answered (plain :: turns) ↔ Owing [] turns := by
  constructor
  · intro answered
    cases answered with
    | plain rests => exact ⟨[], turns, rfl, .refl _, rests⟩
  · rintro ⟨answers, rest, split, same, rests⟩
    rw [same.eq_nil] at split
    exact .plain (by simpa [split] using rests)

theorem answered_calls {ids : List ι} {turns : List (Turn ι)} :
    Answered (calls ids :: turns) ↔ Owing ids turns := by
  constructor
  · intro answered
    cases answered with
    | calls same rests => exact ⟨_, _, rfl, same, rests⟩
  · rintro ⟨answers, rest, rfl, same, rests⟩
    exact .calls same rests

variable [DecidableEq ι]

/-- Read the turns with the calls that still wait for their answers. -/
def settles : List ι → List (Turn ι) → Bool
  | pending, [] => pending.isEmpty
  | pending, plain :: rest => pending.isEmpty && settles [] rest
  | pending, calls ids :: rest => pending.isEmpty && settles ids rest
  | pending, answer id :: rest => id ∈ pending && settles (pending.erase id) rest

theorem owing_answer {id : ι} {pending : List ι} {turns : List (Turn ι)} :
    Owing pending (answer id :: turns) ↔ id ∈ pending ∧ Owing (pending.erase id) turns := by
  constructor
  · rintro ⟨answers, rest, split, same, rests⟩
    cases answers with
    | nil =>
        rw [List.map_nil, List.nil_append] at split
        subst split
        cases rests
    | cons first answers =>
        simp only [List.map_cons, List.cons_append, List.cons.injEq, answer.injEq] at split
        obtain ⟨rfl, split⟩ := split
        obtain ⟨waits, same⟩ := List.cons_perm_iff_perm_erase.mp same
        exact ⟨waits, answers, rest, split, same, rests⟩
  · rintro ⟨waits, answers, rest, split, same, rests⟩
    exact ⟨id :: answers, rest, by simp [split],
      List.cons_perm_iff_perm_erase.mpr ⟨waits, same⟩, rests⟩

/-- Reading succeeds when the waiting calls are answered first and the rest is in order. -/
theorem settles_iff (pending : List ι) (turns : List (Turn ι)) :
    settles pending turns ↔ Owing pending turns := by
  induction turns generalizing pending with
  | nil =>
      rw [settles, List.isEmpty_iff]
      constructor
      · rintro rfl
        exact ⟨[], [], rfl, .refl _, .nil⟩
      · rintro ⟨answers, rest, split, same, -⟩
        rw [List.map_eq_nil_iff.mp (List.append_eq_nil_iff.mp split.symm).1] at same
        exact same.symm.eq_nil
  | cons turn turns ih =>
      cases turn with
      | plain =>
          rw [settles, Bool.and_eq_true, List.isEmpty_iff, ih, ← answered_plain,
            owing_cons (by simp)]
      | calls ids =>
          rw [settles, Bool.and_eq_true, List.isEmpty_iff, ih, ← answered_calls,
            owing_cons (by simp)]
      | answer id =>
          rw [settles, Bool.and_eq_true, decide_eq_true_eq, ih, owing_answer]

/-- Every call is answered in place exactly when nothing waits at the end of the reading. -/
theorem answered_iff_settles (turns : List (Turn ι)) : Answered turns ↔ settles [] turns := by
  rw [settles_iff, ← answered_plain]
  constructor
  · exact .plain
  · intro answered
    cases answered with
    | plain rests => exact rests

instance (turns : List (Turn ι)) : Decidable (Answered turns) :=
  decidable_of_iff _ (answered_iff_settles turns).symm

theorem settles_plain (pending : List ι) (rest : List (Turn ι)) :
    settles pending (plain :: rest) ↔ pending = [] ∧ settles [] rest := by
  simp [settles]

theorem settles_calls (ids : List ι) (rest : List (Turn ι)) :
    settles [] (calls ids :: rest) ↔ settles ids rest := by
  simp [settles]

/-- Answers to exactly the waiting calls leave none waiting. -/
theorem settles_answers {answers pending : List ι} (same : answers.Perm pending)
    (rest : List (Turn ι)) : settles pending (answers.map answer ++ rest) = settles [] rest := by
  induction answers generalizing pending with
  | nil => simp [same.symm.eq_nil]
  | cons id answers ih =>
      obtain ⟨waits, same⟩ := List.cons_perm_iff_perm_erase.mp same
      simp [settles, waits, ih same]

end Turn

end AiPowerGateway.Protocols

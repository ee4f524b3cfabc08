import AiPowerGateway.Systems.Reachability
import Mathlib.Algebra.BigOperators.Group.List.Basic
import Mathlib.Data.List.Perm.Basic

/-!
# Threads over a shared state

Any number of threads take turns on one shared state.  A turn is one atomic step of
one thread and may fork further threads; the environment starts a thread whenever it
likes and supplies an input to every turn.  A schedule may be restricted by a
condition on the pool before each action.  Finished threads stay in the pool.
-/

namespace AiPowerGateway.Systems.Threads

variable {ι σ ℓ β : Type}

structure Pool (σ ℓ : Type) where
  shared : σ
  threads : List ℓ
  deriving DecidableEq, Repr

inductive Action (ι ℓ : Type) where
  | start (thread : ℓ)
  | turn (index : Nat) (input : ι)

/-- What one turn leaves behind. -/
structure Turn (σ ℓ : Type) where
  shared : σ
  thread : ℓ
  forked : List ℓ := []

structure Program (ι σ ℓ : Type) where
  /-- The threads that the environment may start. -/
  entry : ℓ → Bool
  /-- The next step of a thread; none when it is finished or has to wait. -/
  advance : ι → σ → ℓ → Option (Turn σ ℓ)

namespace Program

variable {program : Program ι σ ℓ} {allowed : Pool σ ℓ → Action ι ℓ → Prop}
  {pool next : Pool σ ℓ} {index : Nat} {input : ι} {thread : ℓ}

/-- The threads after the turn of one of them. -/
def afterTurn (threads : List ℓ) (index : Nat) (turn : Turn σ ℓ) : List ℓ :=
  threads.set index turn.thread ++ turn.forked

def perform (program : Program ι σ ℓ) (pool : Pool σ ℓ) : Action ι ℓ → Option (Pool σ ℓ)
  | .start thread =>
      if program.entry thread then some ⟨pool.shared, pool.threads ++ [thread]⟩ else none
  | .turn index input =>
      match pool.threads[index]? with
      | none => none
      | some thread =>
          (program.advance input pool.shared thread).map fun turn =>
            ⟨turn.shared, afterTurn pool.threads index turn⟩

/-- Everything one action can do. -/
theorem perform_cases {action : Action ι ℓ} (moves : program.perform pool action = some next) :
    (∃ thread, action = .start thread ∧ program.entry thread = true ∧
        next = ⟨pool.shared, pool.threads ++ [thread]⟩) ∨
      ∃ index input thread turn, action = .turn index input ∧
        pool.threads[index]? = some thread ∧
        program.advance input pool.shared thread = some turn ∧
        next = ⟨turn.shared, afterTurn pool.threads index turn⟩ := by
  cases action with
  | start thread =>
      by_cases entry : program.entry thread
      · simp only [perform, entry, ↓reduceIte, Option.some.injEq] at moves
        exact Or.inl ⟨thread, rfl, entry, moves.symm⟩
      · simp [perform, entry] at moves
  | turn index input =>
      cases found : pool.threads[index]? with
      | none => simp [perform, found] at moves
      | some thread =>
          simp only [perform, found, Option.map_eq_some_iff] at moves
          obtain ⟨turn, advances, rfl⟩ := moves
          exact Or.inr ⟨index, input, thread, turn, rfl, found, advances, rfl⟩

/-! ## Schedules -/

/-- The pools that a restricted schedule can reach from the first one. -/
def system (program : Program ι σ ℓ) (first : Pool σ ℓ)
    (allowed : Pool σ ℓ → Action ι ℓ → Prop) : TransitionSystem (Pool σ ℓ) where
  start := (· = first)
  step pool next := ∃ action, allowed pool action ∧ program.perform pool action = some next

/-- No restriction. -/
def anySchedule (_ : Pool σ ℓ) (_ : Action ι ℓ) : Prop := True

instance (pool : Pool σ ℓ) (action : Action ι ℓ) : Decidable (anySchedule pool action) :=
  inferInstanceAs (Decidable True)

/-- Follow a list of actions, each of them allowed. -/
def follow (program : Program ι σ ℓ) (allowed : Pool σ ℓ → Action ι ℓ → Prop)
    [∀ pool action, Decidable (allowed pool action)] :
    List (Action ι ℓ) → Pool σ ℓ → Option (Pool σ ℓ)
  | [], pool => some pool
  | action :: rest, pool =>
      if allowed pool action then
        match program.perform pool action with
        | some next => follow program allowed rest next
        | none => none
      else none

theorem follow_reachable [∀ pool action, Decidable (allowed pool action)]
    {first : Pool σ ℓ} (actions : List (Action ι ℓ)) {last : Pool σ ℓ}
    (reached : (program.system first allowed).Reachable pool)
    (followed : program.follow allowed actions pool = some last) :
    (program.system first allowed).Reachable last := by
  induction actions generalizing pool with
  | nil =>
      cases followed
      exact reached
  | cons action actions ih =>
      by_cases may : allowed pool action
      · cases moves : program.perform pool action with
        | none => simp [follow, may, moves] at followed
        | some next =>
            simp only [follow, may, moves, ↓reduceIte] at followed
            exact ih (reached.step ⟨action, may, moves⟩) followed
      · simp [follow, may] at followed

/-- A schedule all of whose actions may be taken in every pool. -/
theorem follow_reachable_of {first : Pool σ ℓ} {actions : List (Action ι ℓ)} {last : Pool σ ℓ}
    (may : ∀ action ∈ actions, ∀ pool, allowed pool action)
    (reached : (program.system first allowed).Reachable pool)
    (followed : program.follow anySchedule actions pool = some last) :
    (program.system first allowed).Reachable last := by
  induction actions generalizing pool with
  | nil =>
      cases followed
      exact reached
  | cons action actions ih =>
      cases moves : program.perform pool action with
      | none => simp [follow, anySchedule, moves] at followed
      | some next =>
          simp only [follow, anySchedule, moves, ↓reduceIte] at followed
          exact ih (fun other mem => may other (List.mem_cons_of_mem _ mem))
            (reached.step ⟨action, may action (List.mem_cons_self ..) pool, moves⟩) followed

/-- The pool at the end of a schedule that can be followed from the first one. -/
theorem get_follow_reachable [∀ pool action, Decidable (allowed pool action)]
    {actions : List (Action ι ℓ)} (ends : (program.follow allowed actions pool).isSome) :
    (program.system pool allowed).Reachable ((program.follow allowed actions pool).get ends) :=
  follow_reachable actions (TransitionSystem.reachable_start rfl) (Option.some_get ends).symm

/-! ## The threads after a turn -/

theorem mem_afterTurn {threads : List ℓ} {turn : Turn σ ℓ} {other : ℓ}
    (mem : other ∈ afterTurn threads index turn) :
    other = turn.thread ∨ other ∈ turn.forked ∨
      ∃ position, position ≠ index ∧ threads[position]? = some other := by
  rcases List.mem_append.mp mem with stays | forked
  · obtain ⟨position, found⟩ := List.mem_iff_getElem?.mp stays
    rw [List.getElem?_set] at found
    by_cases same : index = position
    · subst same
      split at found
      · split at found
        · exact Or.inl (Option.some.inj found).symm
        · cases found
      · contradiction
    · rw [if_neg same] at found
      exact Or.inr (Or.inr ⟨position, Ne.symm same, found⟩)
  · exact Or.inr (Or.inl forked)

/-- What held of every thread and holds of the new ones holds of every thread. -/
theorem forall_mem_afterTurn {property : ℓ → Prop} {threads : List ℓ} {turn : Turn σ ℓ}
    (before : ∀ other ∈ threads, property other) (own : property turn.thread)
    (children : ∀ child ∈ turn.forked, property child) :
    ∀ other ∈ afterTurn threads index turn, property other := by
  intro other mem
  rcases mem_afterTurn mem with rfl | forked | ⟨position, -, stays⟩
  · exact own
  · exact children other forked
  · exact before other (List.mem_of_getElem? stays)

/-- What held of every thread and holds of the one that starts holds of every thread. -/
theorem forall_mem_start {property : ℓ → Prop} {threads : List ℓ}
    (before : ∀ other ∈ threads, property other) (own : property thread) :
    ∀ other ∈ threads ++ [thread], property other := by
  intro other mem
  rcases List.mem_append.mp mem with stays | new
  · exact before other stays
  · rw [List.mem_singleton.mp new]
    exact own

theorem thread_mem_afterTurn {threads : List ℓ} {turn : Turn σ ℓ}
    (found : threads[index]? = some thread) : turn.thread ∈ afterTurn threads index turn := by
  obtain ⟨bound, -⟩ := List.getElem?_eq_some_iff.mp found
  exact List.mem_append.mpr (Or.inl (List.mem_set bound turn.thread))

theorem forked_mem_afterTurn {threads : List ℓ} {turn : Turn σ ℓ} {child : ℓ}
    (mem : child ∈ turn.forked) : child ∈ afterTurn threads index turn :=
  List.mem_append.mpr (Or.inr mem)

theorem other_mem_afterTurn {threads : List ℓ} {turn : Turn σ ℓ} {position : Nat} {other : ℓ}
    (differ : position ≠ index) (found : threads[position]? = some other) :
    other ∈ afterTurn threads index turn := by
  have stays : (threads.set index turn.thread)[position]? = some other := by
    rw [List.getElem?_set_ne (Ne.symm differ), found]
  exact List.mem_append.mpr (Or.inl (List.mem_of_getElem? stays))

/-! ## Invariants -/

/-- What an invariant owes: the first pool, every thread that starts, every turn. -/
theorem inductive_of {inv : Pool σ ℓ → Prop} {first : Pool σ ℓ} (starts : inv first)
    (entry : ∀ {pool : Pool σ ℓ} {thread : ℓ}, inv pool → program.entry thread = true →
      inv ⟨pool.shared, pool.threads ++ [thread]⟩)
    (turn : ∀ {pool : Pool σ ℓ} {index : Nat} {input : ι} {thread : ℓ} {turn : Turn σ ℓ},
      allowed pool (.turn index input) → inv pool → pool.threads[index]? = some thread →
      program.advance input pool.shared thread = some turn →
      inv ⟨turn.shared, afterTurn pool.threads index turn⟩) :
    (program.system first allowed).Inductive inv where
  start := by
    rintro pool rfl
    exact starts
  step := by
    rintro pool next holds ⟨action, may, moves⟩
    rcases perform_cases moves with
      ⟨thread, rfl, enters, rfl⟩ | ⟨index, input, thread, taken, rfl, found, advances, rfl⟩
    · exact entry holds enters
    · exact turn may holds found advances

/-! ## Debts: what some thread still owes -/

/-- Either the goal is met or some thread still owes it. -/
def Owed (goal : σ → Prop) (owes : ℓ → Prop) (pool : Pool σ ℓ) : Prop :=
  goal pool.shared ∨ ∃ thread ∈ pool.threads, owes thread

/-- A turn keeps a debt when it meets the goal itself or its thread or a child owes it. -/
theorem Owed.turn {goal : σ → Prop} {owes : ℓ → Prop} (owed : Owed goal owes pool)
    {turn : Turn σ ℓ} (found : pool.threads[index]? = some thread)
    (kept : goal pool.shared ∨ owes thread →
      goal turn.shared ∨ owes turn.thread ∨ ∃ child ∈ turn.forked, owes child) :
    Owed goal owes ⟨turn.shared, afterTurn pool.threads index turn⟩ := by
  have settle : goal pool.shared ∨ owes thread →
      Owed goal owes ⟨turn.shared, afterTurn pool.threads index turn⟩ := by
    intro own
    rcases kept own with met | owes | ⟨child, mem, owes⟩
    · exact Or.inl met
    · exact Or.inr ⟨turn.thread, thread_mem_afterTurn found, owes⟩
    · exact Or.inr ⟨child, forked_mem_afterTurn mem, owes⟩
  rcases owed with met | ⟨debtor, mem, owes⟩
  · exact settle (Or.inl met)
  · obtain ⟨position, debtorFound⟩ := List.mem_iff_getElem?.mp mem
    by_cases same : position = index
    · subst same
      rw [found] at debtorFound
      cases debtorFound
      exact settle (Or.inr owes)
    · exact Or.inr ⟨debtor, other_mem_afterTurn same debtorFound, owes⟩

theorem Owed.start {goal : σ → Prop} {owes : ℓ → Prop} (owed : Owed goal owes pool)
    (thread : ℓ) : Owed goal owes ⟨pool.shared, pool.threads ++ [thread]⟩ := by
  rcases owed with met | ⟨debtor, mem, owes⟩
  · exact Or.inl met
  · exact Or.inr ⟨debtor, List.mem_append.mpr (Or.inl mem), owes⟩

/-- Nobody owes anything any more. -/
theorem Owed.settled {goal : σ → Prop} {owes : ℓ → Prop} (owed : Owed goal owes pool)
    (quiet : ∀ thread ∈ pool.threads, ¬ owes thread) : goal pool.shared := by
  rcases owed with met | ⟨debtor, mem, owes⟩
  · exact met
  · exact absurd owes (quiet debtor mem)

/-! ## Counting and collecting over the threads -/

/-- One turn exchanges one thread and adds the forked ones. -/
theorem countP_afterTurn (test : ℓ → Bool) {threads : List ℓ} (turn : Turn σ ℓ)
    (found : threads[index]? = some thread) :
    (afterTurn threads index turn).countP test + (if test thread then 1 else 0) =
      threads.countP test + (if test turn.thread then 1 else 0) + turn.forked.countP test := by
  obtain ⟨bound, rfl⟩ := List.getElem?_eq_some_iff.mp found
  have positive : test threads[index] = true → 0 < threads.countP test := fun passes =>
    List.countP_pos_iff.mpr ⟨threads[index], List.getElem_mem bound, passes⟩
  rw [afterTurn, List.countP_append, List.countP_set bound]
  by_cases passes : test threads[index] = true
  · have := positive passes
    simp only [passes, ↓reduceIte]
    omega
  · simp only [passes, Bool.false_eq_true, ↓reduceIte]
    omega

/-- A turn among threads that are not counted. -/
theorem countP_afterTurn_same {test : ℓ → Bool} {threads : List ℓ} {turn : Turn σ ℓ}
    (found : threads[index]? = some thread) (own : test thread = false)
    (next : test turn.thread = false) (children : ∀ child ∈ turn.forked, test child = false) :
    (afterTurn threads index turn).countP test = threads.countP test := by
  have counted := countP_afterTurn test turn found
  have none : turn.forked.countP test = 0 :=
    List.countP_eq_zero.mpr fun child mem => by simp [children child mem]
  simpa [own, next, none] using counted

/-- The weight of the threads after one of them has been exchanged. -/
theorem sum_map_set {μ : Type} [AddCommMonoid μ] (weight : ℓ → μ) {threads : List ℓ} (after : ℓ)
    (found : threads[index]? = some thread) :
    ((threads.set index after).map weight).sum + weight thread =
      (threads.map weight).sum + weight after := by
  induction threads generalizing index with
  | nil =>
      rw [List.getElem?_nil] at found
      cases found
  | cons first rest ih =>
      cases index with
      | zero =>
          rw [List.getElem?_cons_zero, Option.some.injEq] at found
          subst found
          rw [List.set_cons_zero, List.map_cons, List.map_cons, List.sum_cons, List.sum_cons,
            add_comm (weight after), add_right_comm, add_comm (rest.map weight).sum]
      | succ index =>
          rw [List.getElem?_cons_succ] at found
          have later := ih found
          rw [List.set_cons_succ, List.map_cons, List.map_cons, List.sum_cons, List.sum_cons,
            add_assoc, later, add_assoc]

/-- What the threads have done, after one thread has been exchanged. -/
theorem filterMap_set_perm (did : ℓ → Option β) {threads : List ℓ} (after : ℓ)
    (found : threads[index]? = some thread) :
    ((did after).toList ++ threads.filterMap did).Perm
      ((did thread).toList ++ (threads.set index after).filterMap did) := by
  have split (item : ℓ) (items : List ℓ) : (item :: items).filterMap did =
      (did item).toList ++ items.filterMap did := by
    cases result : did item <;> simp [result]
  induction threads generalizing index with
  | nil => simp at found
  | cons first rest ih =>
      cases index with
      | zero =>
          rw [List.getElem?_cons_zero, Option.some.injEq] at found
          subst found
          rw [List.set_cons_zero, split, split]
          exact List.perm_append_comm_assoc _ _ _
      | succ index =>
          rw [List.getElem?_cons_succ] at found
          rw [List.set_cons_succ, split, split]
          have swapped := (ih found).append_left (did first).toList
          exact (List.perm_append_comm_assoc _ _ _).trans
            (swapped.trans (List.perm_append_comm_assoc _ _ _))

/-- A turn that adds no result. -/
theorem filterMap_afterTurn_same {did : ℓ → Option β} {threads : List ℓ} {turn : Turn σ ℓ}
    (found : threads[index]? = some thread) (same : did turn.thread = did thread)
    (childless : turn.forked = []) :
    (threads.filterMap did).Perm ((afterTurn threads index turn).filterMap did) := by
  have exchanged := filterMap_set_perm did turn.thread found
  rw [same, List.perm_append_left_iff] at exchanged
  rwa [afterTurn, childless, List.append_nil]

/-- A turn that adds one result. -/
theorem filterMap_afterTurn_new {did : ℓ → Option β} {threads : List ℓ} {turn : Turn σ ℓ}
    {result : β} (found : threads[index]? = some thread) (before : did thread = none)
    (after : did turn.thread = some result) (childless : turn.forked = []) :
    (result :: threads.filterMap did).Perm ((afterTurn threads index turn).filterMap did) := by
  have exchanged := filterMap_set_perm did turn.thread found
  rw [before, after] at exchanged
  rwa [afterTurn, childless, List.append_nil]

end Program

end AiPowerGateway.Systems.Threads

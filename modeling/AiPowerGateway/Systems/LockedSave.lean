import AiPowerGateway.Systems.Threads
import Mathlib.Algebra.BigOperators.Group.List.Basic

/-!
# A value behind a readers-writer lock, saved after every change

Each call changes the value under the write lock, lets the lock go, and then saves:
it takes the read lock, serialises the value, writes the file and lets go again.
Savers may overlap each other and wait behind later changes.  The file still ends up
with the last value, because no change happens while a saver holds its lock.
-/

namespace AiPowerGateway.Systems.LockedSave

open Threads

variable {κ α : Type}

/-- What the calls do to the value; some return without touching it. -/
structure Calls (κ α : Type) where
  skips : κ → Bool
  apply : κ → α → α
  /-- The value of a process that finds no readable file. -/
  empty : α

inductive Phase (α : Type) where
  | waiting
  | changed
  /-- The read lock is held and the value is serialised. -/
  | serialised (content : α)
  /-- The file is written, the read lock still held. -/
  | written
  | returned

instance (phase : Phase α) : Decidable (phase = .returned) :=
  match phase with
  | .waiting | .changed | .serialised _ | .written => isFalse nofun
  | .returned => isTrue rfl

structure Caller (κ α : Type) where
  call : κ
  phase : Phase α

structure Store (κ α : Type) where
  memory : α
  readers : Nat
  file : Option α
  /-- The calls that changed the value, in the order in which they held the lock. -/
  applied : List κ

abbrev Processes (κ α : Type) := Pool (Store κ α) (Caller κ α)

namespace Calls

variable (calls : Calls κ α)

/-- The value that a new process reads from a file. -/
def load (file : Option α) : α := file.getD calls.empty

def advance (_ : Unit) (store : Store κ α) (caller : Caller κ α) :
    Option (Turn (Store κ α) (Caller κ α)) :=
  match caller.phase with
  | .waiting =>
      if calls.skips caller.call then some ⟨store, { caller with phase := .returned }, []⟩
      else if store.readers = 0 then
        some ⟨{ store with
            memory := calls.apply caller.call store.memory
            applied := store.applied ++ [caller.call] },
          { caller with phase := .changed }, []⟩
      else none
  | .changed =>
      some ⟨{ store with readers := store.readers + 1 },
        { caller with phase := .serialised store.memory }, []⟩
  | .serialised content =>
      some ⟨{ store with file := some content }, { caller with phase := .written }, []⟩
  | .written =>
      some ⟨{ store with readers := store.readers - 1 },
        { caller with phase := .returned }, []⟩
  | .returned => none

def program : Program Unit (Store κ α) (Caller κ α) where
  entry caller := match caller.phase with
    | .waiting => true
    | _ => false
  advance := calls.advance

/-- A process over a file, before its first call. -/
def opened (file : Option α) : Processes κ α :=
  ⟨⟨calls.load file, 0, file, []⟩, []⟩

/-- Any number of calls in any interleaving. -/
def system (file : Option α) : TransitionSystem (Processes κ α) :=
  calls.program.system (calls.opened file) Program.anySchedule

end Calls

/-! ## Who holds what -/

def Caller.holdsLock (caller : Caller κ α) : Bool :=
  match caller.phase with
  | .serialised _ => true
  | .written => true
  | _ => false

/-- The save of the call is still ahead, or serialised and not yet written. -/
def Caller.OwesSave (caller : Caller κ α) : Prop :=
  caller.phase = .changed ∨ ∃ content, caller.phase = .serialised content

/-- The change that a call has made. -/
def Caller.changedBy (calls : Calls κ α) (caller : Caller κ α) : Option κ :=
  match caller.phase with
  | .waiting => none
  | _ => if calls.skips caller.call then none else some caller.call

/-- Every call has returned. -/
def Quiet (pool : Processes κ α) : Prop :=
  ∀ caller ∈ pool.threads, caller.phase = .returned

instance (pool : Processes κ α) : Decidable (Quiet pool) :=
  inferInstanceAs (Decidable (∀ caller ∈ pool.threads, caller.phase = .returned))

/-- The file holds the value, or nothing was ever changed and it is still the opened one. -/
def Saved (calls : Calls κ α) (file : Option α) (store : Store κ α) : Prop :=
  store.file = some store.memory ∨
    store.applied = [] ∧ store.file = file ∧ store.memory = calls.load file

/-- What holds in every reachable pool. -/
structure Sound (calls : Calls κ α) (file : Option α) (pool : Processes κ α) :
    Prop where
  readers : pool.shared.readers = pool.threads.countP Caller.holdsLock
  snapshots : ∀ caller ∈ pool.threads, ∀ content,
    caller.phase = .serialised content → content = pool.shared.memory
  saved : Program.Owed (Saved calls file) Caller.OwesSave pool
  memory : pool.shared.memory = pool.shared.applied.foldl (fun value call => calls.apply call value)
    (calls.load file)
  applied : pool.shared.applied.Perm (pool.threads.filterMap (Caller.changedBy calls))

variable {calls : Calls κ α} {file : Option α} {pool : Processes κ α}

theorem sound_opened : Sound calls file (calls.opened file) where
  readers := rfl
  snapshots caller mem := by cases mem
  saved := Or.inl (Or.inr ⟨rfl, rfl, rfl⟩)
  memory := rfl
  applied := .nil

/-- A new call owes nothing and has done nothing. -/
theorem Sound.start (sound : Sound calls file pool) {caller : Caller κ α}
    (waits : caller.phase = .waiting) :
    Sound calls file ⟨pool.shared, pool.threads ++ [caller]⟩ where
  readers := by simpa [Caller.holdsLock, waits] using sound.readers
  snapshots := Program.forall_mem_start sound.snapshots fun content serialised => by
    rw [waits] at serialised
    cases serialised
  saved := sound.saved.start caller
  memory := sound.memory
  applied := by simpa [Caller.changedBy, waits] using sound.applied

/-- Everything a turn can do. -/
theorem advance_cases {store : Store κ α} {caller : Caller κ α}
    {turn : Turn (Store κ α) (Caller κ α)} (advances : calls.advance () store caller = some turn) :
    (caller.phase = .waiting ∧ calls.skips caller.call = true ∧
        turn = ⟨store, { caller with phase := .returned }, []⟩) ∨
    (caller.phase = .waiting ∧ calls.skips caller.call = false ∧ store.readers = 0 ∧
        turn = ⟨{ store with
            memory := calls.apply caller.call store.memory
            applied := store.applied ++ [caller.call] },
          { caller with phase := .changed }, []⟩) ∨
    (caller.phase = .changed ∧
        turn = ⟨{ store with readers := store.readers + 1 },
          { caller with phase := .serialised store.memory }, []⟩) ∨
    (∃ content, caller.phase = .serialised content ∧
        turn = ⟨{ store with file := some content }, { caller with phase := .written }, []⟩) ∨
    (caller.phase = .written ∧
        turn = ⟨{ store with readers := store.readers - 1 },
          { caller with phase := .returned }, []⟩) := by
  unfold Calls.advance at advances
  cases phase : caller.phase with
  | waiting =>
      simp only [phase] at advances
      by_cases skips : calls.skips caller.call = true
      · rw [if_pos skips, Option.some.injEq] at advances
        exact Or.inl ⟨rfl, skips, advances.symm⟩
      · by_cases free : store.readers = 0
        · rw [if_neg skips, if_pos free, Option.some.injEq] at advances
          exact Or.inr (Or.inl ⟨rfl, by simpa using skips, free, advances.symm⟩)
        · rw [if_neg skips, if_neg free] at advances
          cases advances
  | changed =>
      simp only [phase, Option.some.injEq] at advances
      exact Or.inr (Or.inr (Or.inl ⟨rfl, advances.symm⟩))
  | serialised content =>
      simp only [phase, Option.some.injEq] at advances
      exact Or.inr (Or.inr (Or.inr (Or.inl ⟨content, rfl, advances.symm⟩)))
  | written =>
      simp only [phase, Option.some.injEq] at advances
      exact Or.inr (Or.inr (Or.inr (Or.inr ⟨rfl, advances.symm⟩)))
  | returned => simp [phase] at advances

/-- While a saver holds its lock, nobody changes the value. -/
theorem Sound.no_holder (sound : Sound calls file pool) (free : pool.shared.readers = 0)
    {caller : Caller κ α} (mem : caller ∈ pool.threads) : caller.holdsLock = false := by
  have none : pool.threads.countP Caller.holdsLock = 0 := by rw [← sound.readers, free]
  simpa using List.countP_eq_zero.mp none caller mem

/-- Once it has changed the value, a call stays on the list of those that did. -/
theorem Caller.changedBy_of_ne_waiting {caller : Caller κ α} (ahead : caller.phase ≠ .waiting) :
    caller.changedBy calls = if calls.skips caller.call then none else some caller.call := by
  unfold Caller.changedBy
  split
  · contradiction
  · rfl

/-- A call that has changed the value and goes on is on the list already. -/
theorem Sound.applied_ahead (sound : Sound calls file pool) {index : Nat} {caller : Caller κ α}
    {turn : Turn (Store κ α) (Caller κ α)} (found : pool.threads[index]? = some caller)
    (ahead : caller.phase ≠ .waiting) (same : turn.thread.call = caller.call)
    (further : turn.thread.phase ≠ .waiting) (childless : turn.forked = []) :
    pool.shared.applied.Perm
      ((Program.afterTurn pool.threads index turn).filterMap (Caller.changedBy calls)) := by
  refine sound.applied.trans (Program.filterMap_afterTurn_same found ?_ childless)
  rw [Caller.changedBy_of_ne_waiting further, Caller.changedBy_of_ne_waiting ahead, same]

theorem Sound.turn (sound : Sound calls file pool) {index : Nat} {caller : Caller κ α}
    {turn : Turn (Store κ α) (Caller κ α)} (found : pool.threads[index]? = some caller)
    (advances : calls.advance () pool.shared caller = some turn) :
    Sound calls file ⟨turn.shared, Program.afterTurn pool.threads index turn⟩ := by
  have counted := Program.countP_afterTurn Caller.holdsLock turn found
  rcases advance_cases advances with
    ⟨phase, skips, rfl⟩ | ⟨phase, acts, free, rfl⟩ | ⟨phase, rfl⟩ | ⟨content, phase, rfl⟩ |
      ⟨phase, rfl⟩
  · -- The call returns at once.
    constructor
    · simp only [Caller.holdsLock, phase] at counted
      simpa [sound.readers] using counted.symm
    · exact Program.forall_mem_afterTurn sound.snapshots (by simp) (by simp)
    · refine sound.saved.turn found fun own => Or.inl (own.resolve_right ?_)
      simp [Caller.OwesSave, phase]
    · exact sound.memory
    · refine sound.applied.trans (Program.filterMap_afterTurn_same found ?_ rfl)
      simp [Caller.changedBy, phase, skips]
  · -- The call changes the value; no saver holds the lock.
    constructor
    · simp only [Caller.holdsLock, phase] at counted
      simpa [sound.readers] using counted.symm
    · refine Program.forall_mem_afterTurn (fun other mem content serialised => ?_) (by simp)
        (by simp)
      have idle := sound.no_holder free mem
      simp [Caller.holdsLock, serialised] at idle
    · exact sound.saved.turn found fun _ => Or.inr (Or.inl (Or.inl rfl))
    · simp [sound.memory, List.foldl_append]
    · refine (List.perm_append_singleton _ _).trans ((sound.applied.cons _).trans ?_)
      exact Program.filterMap_afterTurn_new found (by simp [Caller.changedBy, phase])
        (by simp [Caller.changedBy, acts]) rfl
  · -- The call takes the read lock and serialises what it sees.
    constructor
    · simp only [Caller.holdsLock, phase] at counted
      simpa [sound.readers] using counted.symm
    · exact Program.forall_mem_afterTurn sound.snapshots (by simp) (by simp)
    · exact sound.saved.turn found fun _ => Or.inr (Or.inl (Or.inr ⟨_, rfl⟩))
    · exact sound.memory
    · exact sound.applied_ahead found (by simp [phase]) rfl (by simp) rfl
  · -- The file is written: it is the value, unchanged since it was serialised.
    have current := sound.snapshots caller (List.mem_of_getElem? found) content phase
    constructor
    · simp only [Caller.holdsLock, phase] at counted
      simpa [sound.readers] using counted.symm
    · exact Program.forall_mem_afterTurn sound.snapshots (by simp) (by simp)
    · exact sound.saved.turn found fun _ => Or.inl (Or.inl (congrArg some current))
    · exact sound.memory
    · exact sound.applied_ahead found (by simp [phase]) rfl (by simp) rfl
  · -- The read lock is released.
    constructor
    · simp only [Caller.holdsLock, phase] at counted
      exact Nat.sub_eq_of_eq_add (sound.readers.trans (by simpa using counted.symm))
    · exact Program.forall_mem_afterTurn sound.snapshots (by simp) (by simp)
    · refine sound.saved.turn found fun own => Or.inl (own.resolve_right ?_)
      simp [Caller.OwesSave, phase]
    · exact sound.memory
    · exact sound.applied_ahead found (by simp [phase]) rfl (by simp) rfl

theorem sound_inductive : (calls.system file).Inductive (Sound calls file) := by
  refine Program.inductive_of sound_opened (fun {pool caller} sound entry => ?_)
    fun _ sound found advances => sound.turn found advances
  refine sound.start ?_
  cases phase : caller.phase <;> simp [Calls.program, phase] at entry
  rfl

/-! ## Once every call has returned -/

/-- The calls that touched the value, in the order in which they were started. -/
def acting (calls : Calls κ α) (pool : Processes κ α) : List κ :=
  (pool.threads.map Caller.call).filter fun call => !calls.skips call

theorem filterMap_changedBy (quiet : Quiet pool) :
    pool.threads.filterMap (Caller.changedBy calls) = acting calls pool := by
  have each (caller : Caller κ α) (mem : caller ∈ pool.threads) :
      caller.changedBy calls = (Option.guard (fun call => !calls.skips call) caller.call) := by
    rw [Caller.changedBy_of_ne_waiting (by simp [quiet caller mem])]
    cases skips : calls.skips caller.call <;> simp [Option.guard, skips]
  rw [List.filterMap_congr each, acting, ← List.filterMap_eq_filter, List.filterMap_map]
  rfl

/-- No change is lost: the value is the fold of all of them in lock order, and a new
process over the file finds it again. -/
theorem nothing_lost (reached : (calls.system file).Reachable pool) (quiet : Quiet pool) :
    pool.shared.applied.Perm (acting calls pool) ∧
      pool.shared.memory =
        pool.shared.applied.foldl (fun value call => calls.apply call value) (calls.load file) ∧
      calls.load pool.shared.file = pool.shared.memory ∧
      (acting calls pool ≠ [] → pool.shared.file = some pool.shared.memory) := by
  have sound := sound_inductive.reachable reached
  have applied := sound.applied
  rw [filterMap_changedBy quiet] at applied
  have saved : Saved calls file pool.shared := by
    refine sound.saved.settled fun caller mem owes => ?_
    simp [Caller.OwesSave, quiet caller mem] at owes
  refine ⟨applied, sound.memory, ?_, fun some => ?_⟩
  · rcases saved with holds | ⟨-, same, opened⟩
    · rw [holds]
      rfl
    · rw [same, opened]
  · rcases saved with holds | ⟨none, -, -⟩
    · exact holds
    · rw [none, List.nil_perm] at applied
      exact absurd applied some

end AiPowerGateway.Systems.LockedSave

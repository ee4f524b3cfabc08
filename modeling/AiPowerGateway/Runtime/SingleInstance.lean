import AiPowerGateway.Systems.EventRuns

/-!
# One instance at a time

On Unix a process takes the lock of an application by creating a file, which the guard
removes when it is dropped.  Only a return from `main` drops it: a process that exits
itself or is killed leaves the file behind, and the next one takes it for a running
instance.
-/

namespace AiPowerGateway.Runtime

open Systems EventRuns

abbrev Pid := UInt32

/-- The lock file, with the process that created it, and the live processes that hold a
guard.  All processes of a run share one `temp_dir`, and so the path of the file. -/
structure LockWorld where
  lockFile : Option Pid := none
  holders : List Pid := []

namespace LockWorld

/-- `SingleInstance::acquire` on Unix: whether the caller gets a guard.  The file may be
impossible to create for another reason than that it is there. -/
def acquire (world : LockWorld) (creatable : Bool) : Bool :=
  world.lockFile.isNone && creatable

/-- What a process does with the lock; nothing but `returns` drops the guard. -/
inductive Event where
  /-- A process starts; without a guard it exits at once. -/
  | starts (pid : Pid) (creatable : Bool)
  /-- `main` returns, and the guard tries to remove the file. -/
  | returns (pid : Pid) (removed : Bool)
  /-- The process calls `std::process::exit`. -/
  | exits (pid : Pid)
  | killed (pid : Pid)
  deriving DecidableEq, Repr

def step (event : Event) (world : LockWorld) : LockWorld :=
  match event with
  | .starts pid creatable =>
      if world.acquire creatable then ⟨some pid, pid :: world.holders⟩ else world
  | .returns pid removed =>
      if pid ∈ world.holders then
        ⟨if removed then none else world.lockFile, world.holders.erase pid⟩
      else world
  | .exits pid => { world with holders := world.holders.erase pid }
  | .killed pid => { world with holders := world.holders.erase pid }

/-- At most one live process holds a guard, and a lock file belongs to a live one, so that
a process can start when there is none. -/
structure Single (world : LockWorld) : Prop where
  exclusive : world.holders.length ≤ 1
  recoverable : world.lockFile.isSome → world.holders ≠ []

/-- A process that starts is refused only if a live one holds a guard. -/
def RefusedByHolder (event : Event) (world : LockWorld) : Prop :=
  match event with
  | .starts _ creatable => world.acquire creatable = false → world.holders ≠ []
  | _ => True

/-- Holders return from `main` and remove the file, and a file that is not there can be
created. -/
def Orderly (event : Event) (world : LockWorld) : Prop :=
  match event with
  | .starts _ creatable => world.lockFile = none → creatable = true
  | .returns pid removed => pid ∈ world.holders → removed = true
  | .exits pid => pid ∉ world.holders
  | .killed pid => pid ∉ world.holders

/-! ## Exclusion in every run -/

/-- However processes end, a holder has the lock file, and is the only one. -/
structure Exclusive (world : LockWorld) : Prop where
  atMostOne : world.holders.length ≤ 1
  locked : world.holders ≠ [] → world.lockFile.isSome

variable {world : LockWorld} {event : Event}

theorem Exclusive.start : Exclusive {} := ⟨Nat.zero_le _, fun holds => absurd rfl holds⟩

/-- When the holder is gone, nobody holds a guard, and the file was there. -/
theorem Exclusive.erase_eq_nil (exclusive : world.Exclusive) {pid : Pid}
    (holds : pid ∈ world.holders) : world.holders.erase pid = [] ∧ world.lockFile.isSome := by
  have some : world.holders ≠ [] := List.ne_nil_of_mem holds
  refine ⟨?_, exclusive.locked some⟩
  rw [← List.length_eq_zero_iff, List.length_erase_of_mem holds]
  have atMostOne := exclusive.atMostOne
  omega

/-- Without a lock file nobody holds a guard. -/
theorem Exclusive.holders_eq_nil (exclusive : world.Exclusive) (free : world.lockFile = none) :
    world.holders = [] := by
  cases holders : world.holders with
  | nil => rfl
  | cons pid rest =>
      have locked := exclusive.locked (by simp [holders])
      rw [free] at locked
      cases locked

/-- A holder that ends otherwise than by a return. -/
theorem Exclusive.dropped (exclusive : world.Exclusive) (pid : Pid) :
    Exclusive { world with holders := world.holders.erase pid } where
  atMostOne := Nat.le_trans List.length_erase_le exclusive.atMostOne
  locked holds := exclusive.locked fun none => holds (by simp [none])

theorem Exclusive.step (exclusive : world.Exclusive) (event : Event) :
    (LockWorld.step event world).Exclusive := by
  cases event with
  | starts pid creatable =>
      rw [LockWorld.step]
      split
      · next acquires =>
          have free : world.lockFile = none := by
            rw [acquire, Bool.and_eq_true, Option.isNone_iff_eq_none] at acquires
            exact acquires.1
          have holders := exclusive.holders_eq_nil free
          exact ⟨by simp [holders], fun _ => rfl⟩
      · exact exclusive
  | returns pid removed =>
      rw [LockWorld.step]
      split
      · next holds =>
          have gone := (exclusive.erase_eq_nil holds).1
          exact ⟨by simp [gone], fun holds => absurd gone holds⟩
      · exact exclusive
  | exits pid => exact exclusive.dropped pid
  | killed pid => exact exclusive.dropped pid

/-- At most one live process holds a guard, in every run. -/
theorem throughout_exclusive (events : List Event) (exclusive : world.Exclusive) :
    Throughout step Exclusive events world := by
  induction events generalizing world with
  | nil => exact exclusive
  | cons event events ih => exact ⟨exclusive, ih (exclusive.step event)⟩

/-! ## Recovery -/

theorem Exclusive.single_start : Single {} := ⟨Nat.zero_le _, nofun⟩

/-- A holder that leaves the file behind locks everybody out. -/
theorem Exclusive.single_dropped_iff (exclusive : world.Exclusive) (single : world.Single)
    (pid : Pid) :
    Single { world with holders := world.holders.erase pid } ↔ pid ∉ world.holders := by
  constructor
  · intro still holds
    obtain ⟨gone, locked⟩ := exclusive.erase_eq_nil holds
    exact still.recoverable locked gone
  · intro other
    rw [List.erase_of_not_mem other]
    exact single

theorem Exclusive.single_returns_iff (exclusive : world.Exclusive) (single : world.Single)
    (pid : Pid) (removed : Bool) :
    (LockWorld.step (.returns pid removed) world).Single ↔
      (pid ∈ world.holders → removed = true) := by
  rw [LockWorld.step]
  split
  · next holds =>
      obtain ⟨gone, locked⟩ := exclusive.erase_eq_nil holds
      rw [forall_prop_of_true holds, gone]
      cases removed with
      | true => exact iff_of_true ⟨Nat.zero_le _, nofun⟩ rfl
      | false => exact iff_of_false (fun still => still.recoverable locked rfl) nofun
  · next other => exact iff_of_true single fun holds => absurd holds other

theorem Exclusive.single_starts_iff (exclusive : world.Exclusive) (single : world.Single)
    (pid : Pid) (creatable : Bool) :
    (LockWorld.step (.starts pid creatable) world).Single ∧
        RefusedByHolder (.starts pid creatable) world ↔
      (world.lockFile = none → creatable = true) := by
  rw [LockWorld.step, RefusedByHolder, acquire]
  cases locked : world.lockFile with
  | some owner =>
      have holders := single.recoverable (by simp [locked])
      simp [single, holders]
  | none =>
      have holders := exclusive.holders_eq_nil locked
      cases creatable with
      | true => exact iff_of_true ⟨⟨by simp [holders], by simp⟩, by simp⟩ fun _ => rfl
      | false => simp [holders]

theorem Exclusive.single_step_iff (exclusive : world.Exclusive) (single : world.Single)
    (event : Event) :
    (LockWorld.step event world).Single ∧ RefusedByHolder event world ↔
      Orderly event world := by
  cases event with
  | starts pid creatable => exact exclusive.single_starts_iff single pid creatable
  | returns pid removed =>
      exact (and_iff_left trivial).trans (exclusive.single_returns_iff single pid removed)
  | exits pid => exact (and_iff_left trivial).trans (exclusive.single_dropped_iff single pid)
  | killed pid => exact (and_iff_left trivial).trans (exclusive.single_dropped_iff single pid)

/--
At most one process holds a guard, and only a live holder keeps another one from starting,
in every state of a run if and only if each holder of the run returns from `main` and
removes the file, and the file can be created when it is not there.
-/
theorem single_instance_iff (events : List Event) :
    Throughout step Single events {} ∧ Fitting step RefusedByHolder events {} ↔
      Fitting step Orderly events {} :=
  throughout_and_fitting_iff_of Exclusive
    (fun event _ _ exclusive _ => exclusive.step event)
    (fun event _ single exclusive => exclusive.single_step_iff single event)
    Exclusive.single_start .start events

/-- Quit from the tray menu, and start again. -/
theorem not_single_tray_quit :
    ¬ (Throughout step Single [.starts 1 true, .exits 1, .starts 2 true] {} ∧
      Fitting step RefusedByHolder [.starts 1 true, .exits 1, .starts 2 true] {}) := by
  rintro ⟨-, -, -, refused, -⟩
  exact refused rfl rfl

end LockWorld

end AiPowerGateway.Runtime

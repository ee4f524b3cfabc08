import AiPowerGateway.Share.AdminTasks
import AiPowerGateway.Share.ConfigFiles

/-!
# When the health poller runs

The scheduling loop should run exactly while some configured entry is polled.  It is
started by `ensure_running`, in three critical sections, and leaves in two.  As long as
these do not overlap, and an entry only becomes polled where somebody notices, there is
one loop whenever it is needed.
-/

namespace AiPowerGateway.Share

open Systems.Threads Systems.Threads.Program

/-! ## What is polled, and who notices -/

/-- What the polling of an entry depends on. -/
def BackendEntry.pollKey (entry : BackendEntry) : String × Bool :=
  (entry.backendId, entry.isExecutor)

namespace AdminState

/-- An entry with this key is configured, and polled. -/
def polled (state : AdminState) (key : String × Bool) : Bool :=
  state.entries.any (fun entry => entry.pollKey = key) && (state.health.config key.1 key.2).enabled

/-- The operation makes an entry polled that was not. -/
def startsPolling (state : AdminState) (op : AdminOp) : Bool :=
  (state.perform op).entries.any fun entry =>
    (state.perform op).polled entry.pollKey && !state.polled entry.pollKey

end AdminState

namespace AdminTask

def isLoop : AdminTask → Bool
  | .poll _ _ => true
  | _ => false

/-- An `ensure_running` that found no handle is still on its way. -/
def starting : AdminTask → Bool
  | .ensure .check => false
  | .ensure _ => true
  | _ => false

/-- It has started a loop, and has yet to keep its handle. -/
def keeping : AdminTask → Bool
  | .ensure .keep => true
  | _ => false

/-- An `ensure_running` has yet to look for the handle. -/
def willCheck : AdminTask → Bool
  | .ensure .check => true
  | _ => false

/-- An `ensure_running` has yet to read the list of entries. -/
def willList : AdminTask → Bool
  | .ensure .check | .ensure .list => true
  | _ => false

/-- The task will notice that entries with this key are polled. -/
def notices (key : String × Bool) : AdminTask → Bool
  | .ensure .check | .ensure .list => true
  | .ensure (.scan remaining) => remaining.any fun entry => entry.pollKey = key
  | .poll _ _ => true
  | _ => false

end AdminTask

/--
The calls that find no handle do not overlap; the loop leaves while no call is about to
keep a handle, and while every polled entry has a call that will look for the handle; and
an entry becomes polled by a save, by a probe or by the end of a deletion only while the
loop runs or a call has yet to read the list.
-/
def wellTimed (pool : AdminPool) : AdminAction → Bool
  | .start _ => true
  | .turn index _ =>
      match pool.threads[index]? with
      | some (.ensure .check) =>
          pool.shared.health.task.isSome || pool.threads.all fun task => !task.starting
      | some (.poll _ .leave) =>
          (pool.threads.all fun task => !task.keeping) &&
            ((pool.shared.entries.all fun entry => !pool.shared.polled entry.pollKey) ||
              pool.threads.any fun task => task.willCheck)
      | some (.post (.store entry)) => noticed pool (.save entry)
      | some (.probe entry _ (.store models)) =>
          noticed pool (.fill { entry with models := models })
      | some (.delete id .removeConfig) => noticed pool (.removeConfig id)
      | _ => true
where
  noticed (pool : AdminPool) (op : AdminOp) : Bool :=
    !pool.shared.startsPolling op ||
      pool.threads.any fun task => task.isLoop || task.willList

/-- No handler, no `ensure_running` and no loop that leaves is on its way. -/
def AdminTask.resting : AdminTask → Bool
  | .poll _ .leave => false
  | .poll _ _ | .probe _ _ _ | .finished _ => true
  | _ => false

/-! ## The invariant -/

/-- One loop or handle at most, and every polled key is noticed. -/
structure PollerSound (pool : AdminPool) : Prop where
  loops : pool.threads.countP AdminTask.isLoop =
    (if pool.shared.health.task.isSome then 1 else 0) + pool.threads.countP AdminTask.keeping
  alone : pool.threads.countP AdminTask.starting ≤ 1
  unheld : pool.shared.health.task.isSome = true → pool.threads.countP AdminTask.starting = 0
  noticed (key : String × Bool) :
    Owed (fun state => state.polled key = false) (fun task => task.notices key = true) pool

theorem AdminTask.starting_of_keeping {task : AdminTask} (keeps : task.keeping = true) :
    task.starting = true := by
  cases task with
  | ensure stage => cases stage <;> first | rfl | cases keeps
  | _ => cases keeps

namespace PollerSound

variable {pool : AdminPool}

theorem keeping_le (pool : AdminPool) :
    pool.threads.countP AdminTask.keeping ≤ pool.threads.countP AdminTask.starting :=
  List.countP_mono_left fun _ _ => AdminTask.starting_of_keeping

/-- At most one loop runs. -/
theorem loops_le (sound : PollerSound pool) : pool.threads.countP AdminTask.isLoop ≤ 1 := by
  have loops := sound.loops
  have alone := sound.alone
  have keeping := keeping_le pool
  cases held : pool.shared.health.task.isSome with
  | false =>
      simp only [held, Bool.false_eq_true, ↓reduceIte] at loops
      omega
  | true =>
      have none := sound.unheld held
      simp only [held, ↓reduceIte] at loops
      omega

end PollerSound

section Steps

variable {host : Host} {env : ProcessEnv} {yaml : SerdeYaml} {input : AdminInput}
  {state : AdminState} {op : AdminOp} {task : AdminTask} {step : AdminStep} {pool : AdminPool}
  {index : Nat} {key : String × Bool}

/-! ### What the operations make polled -/

/-- The operation changes what is polled. -/
def AdminOp.onPolled : AdminOp → Bool
  | .save _ | .fill _ | .remove _ | .setConfig _ _ | .removeConfig _ => true
  | _ => false

theorem AdminState.exists_of_polled (polled : state.polled key = true) :
    ∃ entry ∈ state.entries, entry.pollKey = key := by
  obtain ⟨entry, mem, same⟩ := List.any_eq_true.mp ((Bool.and_eq_true _ _).mp polled).1
  exact ⟨entry, mem, of_decide_eq_true same⟩

theorem AdminState.polled_perform (quiet : op.onPolled = false) :
    (state.perform op).polled key = state.polled key := by
  cases op with
  | save | fill | remove | setConfig | removeConfig => cases quiet
  | _ => rfl

theorem AdminState.polled_of_remove {id : String}
    (polled : (state.perform (.remove id)).polled key = true) : state.polled key = true := by
  obtain ⟨listed, enabled⟩ := (Bool.and_eq_true _ _).mp polled
  refine (Bool.and_eq_true _ _).mpr ⟨?_, enabled⟩
  obtain ⟨entry, mem, same⟩ := List.any_eq_true.mp listed
  exact List.any_eq_true.mpr ⟨entry, List.mem_of_mem_filter mem, same⟩

theorem AdminState.polled_of_disable {id : String} {cfg : PollConfig}
    (disables : cfg.enabled = false)
    (polled : (state.perform (.setConfig id cfg)).polled key = true) :
    state.polled key = true := by
  obtain ⟨listed, enabled⟩ := (Bool.and_eq_true _ _).mp polled
  refine (Bool.and_eq_true _ _).mpr ⟨listed, ?_⟩
  have config : (state.perform (.setConfig id cfg)).health = state.health.setConfig id cfg := rfl
  rw [config] at enabled
  by_cases same : key.1 = id
  · rw [same, HealthMonitor.config_setConfig_self, disables] at enabled
    cases enabled
  · rwa [HealthMonitor.config_setConfig_ne same] at enabled

theorem AdminState.polled_of_not_starts (quiet : state.startsPolling op = false)
    (polled : (state.perform op).polled key = true) : state.polled key = true := by
  obtain ⟨listed, -⟩ := (Bool.and_eq_true _ _).mp polled
  obtain ⟨entry, mem, same⟩ := List.any_eq_true.mp listed
  have same : entry.pollKey = key := by simpa using same
  subst same
  by_contra other
  have unpolled : state.polled entry.pollKey = false := by simpa using other
  have starts : state.startsPolling op = true :=
    List.any_eq_true.mpr ⟨entry, mem, by simp [polled, unpolled]⟩
  rw [quiet] at starts
  cases starts

/-! ### Tasks that are neither loop nor `ensure_running` -/

def AdminTask.isEnsure : AdminTask → Bool
  | .ensure _ => true
  | _ => false

/-- The other tasks start no loop, and no `ensure_running` that is past its check. -/
theorem step_uncounted (steps : task.step host env yaml input state = some step)
    (notLoop : task.isLoop = false) (notEnsure : task.isEnsure = false) :
    ∀ other ∈ step.next :: step.forked, other.isLoop = false ∧ other.starting = false := by
  by_cases kind : task.onStore = true
  · cases AdminTask.storeStep kind steps <;> simp [AdminTask.isLoop, AdminTask.starting]
  cases task with
  | post | probe | delete => exact absurd rfl kind
  | put id stage =>
      obtain rfl := Option.some.inj steps
      cases stage with
      | exist body =>
          by_cases listed : BackendStore.hasId state.list id <;>
            simp [PutStage.step, listed, AdminTask.isLoop, AdminTask.starting]
      | set cfg =>
          cases enabled : cfg.enabled <;>
            simp [PutStage.step, enabled, AdminTask.isLoop, AdminTask.starting]
      | _ => simp [PutStage.step, AdminTask.isLoop, AdminTask.starting]
  | ensure stage => cases notEnsure
  | poll lastPoll stage => cases notLoop
  | finished reply => cases steps

/-- What is polled after a turn was polled before, so it is noticed still. -/
theorem noticed_of_fewer (found : pool.threads[index]? = some task)
    (noticed : Owed (fun state => state.polled key = false) (fun task => task.notices key = true)
      pool)
    (own : task.notices key = false)
    (fewer : (pool.shared.perform step.op).polled key = true → pool.shared.polled key = true) :
    Owed (fun state => state.polled key = false) (fun task => task.notices key = true)
      ⟨pool.shared.perform step.op, afterTurn pool.threads index (step.turn pool.shared)⟩ := by
  refine owed_step noticed found fun before => Or.inl ?_
  have unpolled := before.resolve_right (by simp [own])
  by_contra polled
  have := fewer (by simpa using polled)
  rw [unpolled] at this
  cases this

/-- Another task notices it. -/
theorem noticed_by {other : AdminTask} {position : Nat} (differ : position ≠ index)
    (stays : pool.threads[position]? = some other) (notices : other.notices key = true) :
    Owed (fun state => state.polled key = false) (fun task => task.notices key = true)
      ⟨pool.shared.perform step.op, afterTurn pool.threads index (step.turn pool.shared)⟩ :=
  Or.inr ⟨other, other_mem_afterTurn differ stays, notices⟩

/-- An operation that makes entries polled where the schedule lets it. -/
theorem noticed_of_wellTimed (found : pool.threads[index]? = some task)
    (noticed : Owed (fun state => state.polled key = false) (fun task => task.notices key = true)
      pool)
    (notLoop : task.isLoop = false) (notEnsure : task.isEnsure = false)
    (may : wellTimed.noticed pool step.op = true) :
    Owed (fun state => state.polled key = false) (fun task => task.notices key = true)
      ⟨pool.shared.perform step.op, afterTurn pool.threads index (step.turn pool.shared)⟩ := by
  have own : task.notices key = false := by
    cases task with
    | ensure => cases notEnsure
    | poll => cases notLoop
    | _ => rfl
  cases starts : pool.shared.startsPolling step.op with
  | false => exact noticed_of_fewer found noticed own (AdminState.polled_of_not_starts starts)
  | true =>
      have seen : ∃ other ∈ pool.threads, (other.isLoop || other.willList) = true := by
        simpa [wellTimed.noticed, starts] using may
      obtain ⟨other, mem, sees⟩ := seen
      obtain ⟨position, stays⟩ := List.mem_iff_getElem?.mp mem
      have notices : other.notices key = true := by
        cases other with
        | ensure stage => cases stage <;> first | rfl | cases sees
        | poll => rfl
        | _ => cases sees
      refine noticed_by (fun same => ?_) stays notices
      subst same
      rw [Option.some.inj (found.symm.trans stays), notices] at own
      cases own

/-- Such a task leaves the handle alone. -/
theorem task_of_uncounted (steps : task.step host env yaml input state = some step)
    (notLoop : task.isLoop = false) (notEnsure : task.isEnsure = false) :
    (state.perform step.op).health.task = state.health.task := by
  cases changes : step.op.onHealth with
  | false => rw [AdminState.health_perform changes]
  | true =>
      rcases onHealth_cases steps changes with
        ⟨id, -, op⟩ | ⟨id, -, op⟩ | ⟨id, cfg, -, op⟩ | ⟨id, cfg, -, op⟩ | rfl | ⟨lastPoll, rfl⟩ |
          ⟨lastPoll, current, observed, ids, entries, rfl⟩
      · rw [op]; rfl
      · rw [op]; rfl
      · rw [op]; rfl
      · rw [op]; rfl
      · cases notEnsure
      · cases notLoop
      · cases notLoop

/-- What such a task makes polled is noticed. -/
theorem PollerSound.noticed_uncounted (sound : PollerSound pool)
    (may : wellTimed pool (.turn index input) = true)
    (found : pool.threads[index]? = some task)
    (steps : task.step host env yaml input pool.shared = some step)
    (notLoop : task.isLoop = false) (notEnsure : task.isEnsure = false) (key : String × Bool) :
    Owed (fun state => state.polled key = false) (fun task => task.notices key = true)
      ⟨pool.shared.perform step.op, afterTurn pool.threads index (step.turn pool.shared)⟩ := by
  have before := sound.noticed key
  have own : task.notices key = false := by
    cases task with
    | ensure => cases notEnsure
    | poll => cases notLoop
    | _ => rfl
  cases stores : step.op.onEntries with
  | true =>
      rcases onEntries_cases steps stores with
        ⟨entry, rfl, rfl⟩ | ⟨entry, since, models, rfl, rfl⟩ | ⟨id, rfl, rfl⟩
      · refine noticed_of_wellTimed found before notLoop notEnsure ?_
        simpa [wellTimed, found] using may
      · refine noticed_of_wellTimed found before notLoop notEnsure ?_
        simpa [wellTimed, found] using may
      · exact noticed_of_fewer found before own AdminState.polled_of_remove
  | false =>
      cases changes : step.op.onHealth with
      | false =>
          refine noticed_of_fewer found before own fun polled => ?_
          rwa [AdminState.polled_perform] at polled
          cases op : step.op <;> simp_all [AdminOp.onPolled, AdminOp.onEntries, AdminOp.onHealth]
      | true =>
          rcases onHealth_cases steps changes with
            ⟨id, -, op⟩ | ⟨id, rfl, op⟩ | ⟨id, cfg, rfl, op⟩ | ⟨id, cfg, -, op⟩ | rfl |
              ⟨lastPoll, rfl⟩ | ⟨lastPoll, current, observed, ids, entries, rfl⟩
          · refine noticed_of_fewer found before own fun polled => ?_
            rwa [op, AdminState.polled_perform rfl] at polled
          · refine noticed_of_wellTimed found before notLoop notEnsure ?_
            simpa [wellTimed, found, op] using may
          · cases enabled : cfg.enabled with
            | false =>
                refine noticed_of_fewer found before own fun polled => ?_
                rw [op] at polled
                exact AdminState.polled_of_disable enabled polled
            | true =>
                obtain rfl := Option.some.inj steps
                refine Or.inr ⟨.ensure .check, forked_mem_afterTurn ?_, rfl⟩
                simp [AdminStep.turn, PutStage.step, enabled]
          · refine noticed_of_fewer found before own fun polled => ?_
            rwa [op, AdminState.polled_perform rfl] at polled
          · cases notEnsure
          · cases notLoop
          · cases notLoop

/-- A turn that keeps the handle and the counts. -/
theorem PollerSound.recount (sound : PollerSound pool) {after : AdminPool}
    (handle : after.shared.health.task = pool.shared.health.task)
    (loops : after.threads.countP AdminTask.isLoop = pool.threads.countP AdminTask.isLoop)
    (keeping : after.threads.countP AdminTask.keeping = pool.threads.countP AdminTask.keeping)
    (starting : after.threads.countP AdminTask.starting = pool.threads.countP AdminTask.starting)
    (noticed : ∀ key, Owed (fun state => state.polled key = false)
      (fun task => task.notices key = true) after) : PollerSound after where
  loops := by
    rw [handle, loops, keeping]
    exact sound.loops
  alone := by
    rw [starting]
    exact sound.alone
  unheld := by
    rw [handle, starting]
    exact sound.unheld
  noticed := noticed

/-- A turn of a task that is neither a loop nor an `ensure_running`. -/
theorem PollerSound.turn_uncounted (sound : PollerSound pool)
    (may : wellTimed pool (.turn index input) = true)
    (found : pool.threads[index]? = some task)
    (steps : task.step host env yaml input pool.shared = some step)
    (notLoop : task.isLoop = false) (notEnsure : task.isEnsure = false) :
    PollerSound ⟨pool.shared.perform step.op,
      afterTurn pool.threads index (step.turn pool.shared)⟩ := by
  have rest := step_uncounted steps notLoop notEnsure
  have notStarting : task.starting = false := by
    cases task with
    | ensure => cases notEnsure
    | _ => rfl
  have notKeeping {other : AdminTask} (idle : other.starting = false) : other.keeping = false := by
    cases keeps : other.keeping with
    | false => rfl
    | true => rw [AdminTask.starting_of_keeping keeps] at idle; cases idle
  have loops := countP_step_same found notLoop fun other mem => (rest other mem).1
  have starting := countP_step_same found notStarting fun other mem => (rest other mem).2
  have keeping := countP_step_same found (notKeeping notStarting)
    fun other mem => notKeeping (rest other mem).2
  exact sound.recount (task_of_uncounted steps notLoop notEnsure) loops keeping starting
    (sound.noticed_uncounted may found steps notLoop notEnsure)

/-! ### `ensure_running` -/

/-- The counts after a step, as far as its own task and children change them. -/
theorem countP_step (test : AdminTask → Bool) (found : pool.threads[index]? = some task)
    (step : AdminStep) :
    (afterTurn pool.threads index (step.turn pool.shared)).countP test +
        (if test task then 1 else 0) =
      pool.threads.countP test + (if test step.next then 1 else 0) + step.forked.countP test :=
  countP_afterTurn test (step.turn pool.shared) found

/-- The same for the three kinds of tasks that are counted. -/
theorem counts_step (found : pool.threads[index]? = some task) (step : AdminStep) :
    ((afterTurn pool.threads index (step.turn pool.shared)).countP AdminTask.isLoop +
        (if task.isLoop then 1 else 0) = pool.threads.countP AdminTask.isLoop +
          (if step.next.isLoop then 1 else 0) + step.forked.countP AdminTask.isLoop) ∧
      ((afterTurn pool.threads index (step.turn pool.shared)).countP AdminTask.keeping +
        (if task.keeping then 1 else 0) = pool.threads.countP AdminTask.keeping +
          (if step.next.keeping then 1 else 0) + step.forked.countP AdminTask.keeping) ∧
      ((afterTurn pool.threads index (step.turn pool.shared)).countP AdminTask.starting +
        (if task.starting then 1 else 0) = pool.threads.countP AdminTask.starting +
          (if step.next.starting then 1 else 0) + step.forked.countP AdminTask.starting) :=
  ⟨countP_step _ found step, countP_step _ found step, countP_step _ found step⟩

/-- While a handle is kept, a loop runs. -/
theorem PollerSound.exists_loop (sound : PollerSound pool)
    (held : pool.shared.health.task.isSome = true) : ∃ task ∈ pool.threads, task.isLoop = true := by
  have loops := sound.loops
  rw [if_pos held] at loops
  exact List.countP_pos_iff.mp (by omega)

theorem PollerSound.turn_check (sound : PollerSound pool)
    (may : wellTimed pool (.turn index input) = true)
    (found : pool.threads[index]? = some (.ensure .check)) :
    PollerSound ⟨pool.shared.perform (EnsureStage.step pool.shared .check).op,
      afterTurn pool.threads index ((EnsureStage.step pool.shared .check).turn pool.shared)⟩ := by
  cases held : pool.shared.health.task.isSome with
  | true =>
      -- A loop runs already, and notices everything.
      have step : EnsureStage.step pool.shared .check = ⟨.look, .finished none, []⟩ := by
        simp [EnsureStage.step, held]
      rw [step]
      obtain ⟨loops, keeping, starting⟩ := counts_step found ⟨.look, .finished none, []⟩
      refine sound.recount rfl loops keeping starting fun key => ?_
      obtain ⟨loop, mem, runs⟩ := sound.exists_loop held
      obtain ⟨position, stays⟩ := List.mem_iff_getElem?.mp mem
      have notices : loop.notices key = true := by
        cases loop with
        | poll => rfl
        | _ => cases runs
      refine noticed_by (fun same => ?_) stays notices
      subst same
      rw [← Option.some.inj (found.symm.trans stays)] at runs
      cases runs
  | false =>
      have step : EnsureStage.step pool.shared .check = ⟨.look, .ensure .list, []⟩ := by
        simp [EnsureStage.step, held]
      rw [step]
      obtain ⟨loops, keeping, starting⟩ := counts_step found ⟨.look, .ensure .list, []⟩
      have nobody : pool.threads.countP AdminTask.starting = 0 := by
        rw [List.countP_eq_zero]
        simpa [wellTimed, found, held] using may
      constructor
      · exact loops.trans (sound.loops.trans (congrArg _ keeping.symm))
      · rw [nobody] at starting
        exact starting.le
      · intro kept
        rw [AdminState.health_perform rfl, held] at kept
        cases kept
      · exact fun key => owed_step (sound.noticed key) found fun _ => Or.inr (Or.inl rfl)

theorem PollerSound.turn_list (sound : PollerSound pool)
    (found : pool.threads[index]? = some (.ensure .list)) :
    PollerSound ⟨pool.shared.perform (EnsureStage.step pool.shared .list).op,
      afterTurn pool.threads index ((EnsureStage.step pool.shared .list).turn pool.shared)⟩ := by
  obtain ⟨loops, keeping, starting⟩ := counts_step found (EnsureStage.step pool.shared .list)
  refine sound.recount rfl loops keeping (Nat.add_right_cancel starting) fun key => ?_
  refine owed_step (sound.noticed key) found fun _ => ?_
  cases polled : pool.shared.polled key with
  | false => exact Or.inl polled
  | true =>
      right
      left
      obtain ⟨entry, mem, same⟩ := AdminState.exists_of_polled polled
      have perm : pool.shared.list.Perm pool.shared.entries := List.perm_insertionSort _ _
      exact List.any_eq_true.mpr ⟨entry, perm.mem_iff.mpr mem, by simpa using same⟩

/-- No entry asks for the loop, so nothing was left to notice. -/
theorem PollerSound.turn_scanned (sound : PollerSound pool)
    (found : pool.threads[index]? = some (.ensure (.scan []))) :
    PollerSound ⟨pool.shared.perform (EnsureStage.step pool.shared (.scan [])).op,
      afterTurn pool.threads index
        ((EnsureStage.step pool.shared (.scan [])).turn pool.shared)⟩ := by
  have loops := countP_step AdminTask.isLoop found ⟨.look, .finished none, []⟩
  have keeping := countP_step AdminTask.keeping found ⟨.look, .finished none, []⟩
  have starting : _ + 1 = _ := countP_step AdminTask.starting found ⟨.look, .finished none, []⟩
  have alone := sound.alone
  constructor
  · exact loops.trans (sound.loops.trans (congrArg _ keeping.symm))
  · exact (Nat.le_add_right _ 1).trans (starting.trans_le alone)
  · intro held
    have none := starting.trans (sound.unheld held)
    cases none
  · intro key
    refine owed_step (sound.noticed key) found fun before => Or.inl (before.resolve_right ?_)
    exact Bool.false_ne_true

/-- An entry asks for the loop, and it is started. -/
theorem PollerSound.turn_spawn (sound : PollerSound pool) {entry : BackendEntry}
    {remaining : List BackendEntry}
    (found : pool.threads[index]? = some (.ensure (.scan (entry :: remaining)))) :
    let step : AdminStep := ⟨.look, .ensure .keep, [.poll [] .collect]⟩
    PollerSound ⟨pool.shared.perform step.op,
      afterTurn pool.threads index (step.turn pool.shared)⟩ := by
  intro step
  obtain ⟨loops, keeping, starting⟩ := counts_step found step
  constructor
  · refine loops.trans ?_
    have before := sound.loops
    have after : _ = pool.threads.countP AdminTask.keeping + 1 := keeping
    exact (congrArg (· + 1) before).trans
      ((Nat.add_assoc _ _ 1).trans (congrArg _ after.symm))
  · exact (Nat.add_right_cancel starting).trans_le sound.alone
  · exact fun held => (Nat.add_right_cancel starting).trans (sound.unheld held)
  · refine fun key => owed_step (sound.noticed key) found fun _ => Or.inr (Or.inr ?_)
    exact ⟨.poll [] .collect, List.mem_singleton_self _, rfl⟩

/-- An entry that is not polled is passed over. -/
theorem PollerSound.turn_skip (sound : PollerSound pool) {entry : BackendEntry}
    {remaining : List BackendEntry}
    (found : pool.threads[index]? = some (.ensure (.scan (entry :: remaining))))
    (disabled : pool.shared.health.enabled entry = false) :
    let step : AdminStep := ⟨.look, .ensure (.scan remaining), []⟩
    PollerSound ⟨pool.shared.perform step.op,
      afterTurn pool.threads index (step.turn pool.shared)⟩ := by
  intro step
  obtain ⟨loops, keeping, starting⟩ := counts_step found step
  refine sound.recount rfl loops keeping (Nat.add_right_cancel starting) fun key => ?_
  refine owed_step (sound.noticed key) found fun before => ?_
  by_cases same : entry.pollKey = key
  · left
    have unpolled : pool.shared.polled key = false := by
      subst same
      have config : (pool.shared.health.config entry.pollKey.1 entry.pollKey.2).enabled =
        false := disabled
      rw [AdminState.polled, config, Bool.and_false]
    exact unpolled
  · rcases before with unpolled | notices
    · exact Or.inl unpolled
    · right
      left
      simpa [step, AdminTask.notices, same] using notices

theorem PollerSound.turn_scan (sound : PollerSound pool) (remaining : List BackendEntry)
    (found : pool.threads[index]? = some (.ensure (.scan remaining))) :
    PollerSound ⟨pool.shared.perform (EnsureStage.step pool.shared (.scan remaining)).op,
      afterTurn pool.threads index
        ((EnsureStage.step pool.shared (.scan remaining)).turn pool.shared)⟩ := by
  cases remaining with
  | nil => exact sound.turn_scanned found
  | cons entry remaining =>
      cases enabled : pool.shared.health.enabled entry with
      | true =>
          have step : EnsureStage.step pool.shared (.scan (entry :: remaining)) =
              ⟨.look, .ensure .keep, [.poll [] .collect]⟩ := by
            simp [EnsureStage.step, enabled]
          rw [step]
          exact sound.turn_spawn found
      | false =>
          have step : EnsureStage.step pool.shared (.scan (entry :: remaining)) =
              ⟨.look, .ensure (.scan remaining), []⟩ := by
            simp [EnsureStage.step, enabled]
          rw [step]
          exact sound.turn_skip found enabled

theorem PollerSound.turn_keep (sound : PollerSound pool)
    (found : pool.threads[index]? = some (.ensure .keep)) :
    PollerSound ⟨pool.shared.perform (EnsureStage.step pool.shared .keep).op,
      afterTurn pool.threads index ((EnsureStage.step pool.shared .keep).turn pool.shared)⟩ := by
  have loops : (afterTurn pool.threads index
      ((EnsureStage.step pool.shared .keep).turn pool.shared)).countP AdminTask.isLoop =
        pool.threads.countP AdminTask.isLoop :=
    countP_step AdminTask.isLoop found (EnsureStage.step pool.shared .keep)
  have keeping : (afterTurn pool.threads index
      ((EnsureStage.step pool.shared .keep).turn pool.shared)).countP AdminTask.keeping + 1 =
        pool.threads.countP AdminTask.keeping :=
    countP_step AdminTask.keeping found (EnsureStage.step pool.shared .keep)
  have starting : (afterTurn pool.threads index
      ((EnsureStage.step pool.shared .keep).turn pool.shared)).countP AdminTask.starting + 1 =
        pool.threads.countP AdminTask.starting :=
    countP_step AdminTask.starting found (EnsureStage.step pool.shared .keep)
  have alone := sound.alone
  have fewer := PollerSound.keeping_le pool
  have before := sound.loops
  have unheld : pool.shared.health.task.isSome = false := by
    cases held : pool.shared.health.task.isSome with
    | false => rfl
    | true =>
        have none := sound.unheld held
        omega
  rw [unheld, if_neg Bool.false_ne_true] at before
  constructor
  · have held : (pool.shared.perform
        (EnsureStage.step pool.shared .keep).op).health.task.isSome = true := rfl
    simp only [held, ↓reduceIte]
    omega
  · simp only
    omega
  · intro _
    simp only
    omega
  · intro key
    refine owed_step (sound.noticed key) found fun before => Or.inl (before.resolve_right ?_)
    exact Bool.false_ne_true

/-! ### The loop -/

theorem AdminTask.eq_check_of_willCheck {task : AdminTask} (checks : task.willCheck = true) :
    task = .ensure .check := by
  cases task with
  | ensure stage => cases stage <;> first | rfl | cases checks
  | _ => cases checks

theorem AdminState.unpolled_of_all {state : AdminState}
    (all : (state.entries.all fun entry => !state.polled entry.pollKey) = true)
    (key : String × Bool) : state.polled key = false := by
  by_contra other
  obtain ⟨entry, mem, rfl⟩ := AdminState.exists_of_polled (Bool.eq_true_of_not_eq_false other)
  have unpolled := List.all_eq_true.mp all entry mem
  rw [Bool.eq_true_of_not_eq_false other] at unpolled
  cases unpolled

theorem PollerSound.turn_leave (sound : PollerSound pool) {lastPoll : List String}
    (may : wellTimed pool (.turn index input) = true)
    (found : pool.threads[index]? = some (.poll lastPoll .leave)) :
    PollerSound ⟨pool.shared.perform (PollStage.step env input pool.shared lastPoll .leave).op,
      afterTurn pool.threads index
        ((PollStage.step env input pool.shared lastPoll .leave).turn pool.shared)⟩ := by
  have loops : (afterTurn pool.threads index
      ((PollStage.step env input pool.shared lastPoll .leave).turn pool.shared)).countP
        AdminTask.isLoop + 1 = pool.threads.countP AdminTask.isLoop :=
    countP_step AdminTask.isLoop found (PollStage.step env input pool.shared lastPoll .leave)
  have keeping : (afterTurn pool.threads index
      ((PollStage.step env input pool.shared lastPoll .leave).turn pool.shared)).countP
        AdminTask.keeping = pool.threads.countP AdminTask.keeping :=
    countP_step AdminTask.keeping found (PollStage.step env input pool.shared lastPoll .leave)
  have starting : (afterTurn pool.threads index
      ((PollStage.step env input pool.shared lastPoll .leave).turn pool.shared)).countP
        AdminTask.starting = pool.threads.countP AdminTask.starting :=
    countP_step AdminTask.starting found (PollStage.step env input pool.shared lastPoll .leave)
  have allowed : ((pool.threads.all fun task => !task.keeping) &&
      ((pool.shared.entries.all fun entry => !pool.shared.polled entry.pollKey) ||
        pool.threads.any fun task => task.willCheck)) = true := by
    simpa only [wellTimed, found] using may
  obtain ⟨unkept, awaited⟩ := (Bool.and_eq_true _ _).mp allowed
  have nobody : pool.threads.countP AdminTask.keeping = 0 := by
    rw [List.countP_eq_zero]
    simpa using unkept
  have atMost := sound.loops_le
  constructor
  · have dropped : (pool.shared.perform
        (PollStage.step env input pool.shared lastPoll .leave).op).health.task.isSome = false := rfl
    simp only [dropped, Bool.false_eq_true, ↓reduceIte]
    omega
  · exact starting.trans_le sound.alone
  · intro held
    cases held
  · intro key
    rcases (Bool.or_eq_true _ _).mp awaited with unpolled | checks
    · exact Or.inl (AdminState.unpolled_of_all unpolled key)
    · obtain ⟨other, mem, checks⟩ := List.any_eq_true.mp checks
      obtain ⟨position, stays⟩ := List.mem_iff_getElem?.mp mem
      obtain rfl := AdminTask.eq_check_of_willCheck checks
      refine noticed_by (fun same => ?_) stays rfl
      subst same
      cases found.symm.trans stays

/-- As long as the loop does not leave, it goes on. -/
theorem poll_goes_on (env : ProcessEnv) (input : AdminInput) (state : AdminState)
    (lastPoll : List String) {stage : PollStage} (stays : stage ≠ .leave) :
    (∃ visited after, (stage.step env input state lastPoll).next = .poll visited after) ∧
      (stage.step env input state lastPoll).forked = [] ∧
      (stage.step env input state lastPoll).op.onPolled = false ∧
      (state.perform (stage.step env input state lastPoll).op).health.task = state.health.task := by
  cases stage with
  | leave => exact absurd rfl stays
  | filter remaining enabled => cases remaining <;> exact ⟨⟨_, _, rfl⟩, rfl, rfl, rfl⟩
  | visit ids entries =>
      cases ids with
      | nil => exact ⟨⟨_, _, rfl⟩, rfl, rfl, rfl⟩
      | cons id ids =>
          cases found : BackendStore.find? entries id with
          | none =>
              have step : PollStage.step env input state lastPoll (.visit (id :: ids) entries) =
                  ⟨.look, .poll lastPoll (.visit ids entries), []⟩ := by
                simp [PollStage.step, found]
              rw [step]
              exact ⟨⟨_, _, rfl⟩, rfl, rfl, rfl⟩
          | some entry =>
              simp only [PollStage.step, found]
              split <;> exact ⟨⟨_, _, rfl⟩, rfl, rfl, rfl⟩
  | recheck current observed ids entries =>
      simp only [PollStage.step]
      split <;> exact ⟨⟨_, _, rfl⟩, rfl, rfl, rfl⟩
  | _ => exact ⟨⟨_, _, rfl⟩, rfl, rfl, rfl⟩

theorem PollerSound.turn_poll (sound : PollerSound pool) {lastPoll : List String}
    {stage : PollStage} (found : pool.threads[index]? = some (.poll lastPoll stage))
    (stays : stage ≠ .leave) :
    PollerSound ⟨pool.shared.perform (stage.step env input pool.shared lastPoll).op,
      afterTurn pool.threads index
        ((stage.step env input pool.shared lastPoll).turn pool.shared)⟩ := by
  obtain ⟨⟨visited, after, next⟩, childless, quiet, handle⟩ :=
    poll_goes_on env input pool.shared lastPoll stays
  obtain ⟨loops, keeping, starting⟩ := counts_step found (stage.step env input pool.shared lastPoll)
  rw [next, childless] at loops keeping starting
  refine sound.recount handle (Nat.add_right_cancel loops) keeping starting fun key => ?_
  refine owed_step (sound.noticed key) found fun _ => Or.inr (Or.inl ?_)
  rw [next]
  rfl

theorem pollerSound_inductive (host : Host) (env : ProcessEnv) (yaml : SerdeYaml)
    (store : BackendStore) (backends : RegistryInner) :
    ((adminProgram host env yaml).system (AdminPool.serving store backends)
      fun pool action => wellTimed pool action = true).Inductive PollerSound := by
  refine inductive_of ?_ ?_ ?_
  · refine ⟨rfl, Nat.zero_le 1, fun _ => rfl, fun key => Or.inr ?_⟩
    exact ⟨.ensure .check, List.mem_singleton_self _, rfl⟩
  · intro pool task sound enters
    have idle : task.isLoop = false ∧ task.keeping = false ∧ task.starting = false := by
      rcases isRequest_cases enters with ⟨body, rfl⟩ | ⟨id, rfl⟩ | ⟨id, body, rfl⟩ <;>
        exact ⟨rfl, rfl, rfl⟩
    refine ⟨?_, ?_, ?_, fun key => (sound.noticed key).start task⟩
    · simpa [List.countP_append, idle] using sound.loops
    · simpa [List.countP_append, idle] using sound.alone
    · simpa [List.countP_append, idle] using sound.unheld
  · intro pool index input task turn may sound found advances
    obtain ⟨step, steps, rfl⟩ := advance_adminProgram advances
    cases task with
    | ensure stage =>
        obtain rfl := Option.some.inj steps
        cases stage with
        | check => exact sound.turn_check may found
        | list => exact sound.turn_list found
        | scan remaining => exact sound.turn_scan remaining found
        | keep => exact sound.turn_keep found
    | poll lastPoll stage =>
        obtain rfl := Option.some.inj steps
        by_cases leaves : stage = .leave
        · subst leaves
          exact sound.turn_leave may found
        · exact sound.turn_poll found leaves
    | _ => exact sound.turn_uncounted may found steps rfl rfl

end Steps

/-! ## The result -/

/--
In well-timed runs at most one loop runs; and when no handler, no `ensure_running` and no
leaving loop is on its way, and some configured entry is polled, a loop runs and its
handle is kept.
-/
theorem poller_runs_when_needed (host : Host) (env : ProcessEnv) (yaml : SerdeYaml)
    (store : BackendStore) (backends : RegistryInner) {pool : AdminPool}
    (reached : ((adminProgram host env yaml).system (AdminPool.serving store backends)
      fun pool action => wellTimed pool action = true).Reachable pool) :
    pool.threads.countP AdminTask.isLoop ≤ 1 ∧
      ((∀ task ∈ pool.threads, task.resting = true) →
        pool.shared.health.hasEnabled pool.shared.entries = true →
          pool.threads.countP AdminTask.isLoop = 1 ∧ pool.shared.health.task.isSome = true) := by
  have sound := (pollerSound_inductive host env yaml store backends).reachable reached
  refine ⟨sound.loops_le, fun quiet polls => ?_⟩
  obtain ⟨entry, mem, enabled⟩ := List.any_eq_true.mp polls
  have polled : pool.shared.polled entry.pollKey = true :=
    (Bool.and_eq_true _ _).mpr ⟨List.any_eq_true.mpr ⟨entry, mem, by simp⟩, enabled⟩
  have runs : 0 < pool.threads.countP AdminTask.isLoop := by
    rcases sound.noticed entry.pollKey with unpolled | ⟨task, present, notices⟩
    · rw [polled] at unpolled
      cases unpolled
    · refine List.countP_pos_iff.mpr ⟨task, present, ?_⟩
      have rests := quiet task present
      cases task with
      | poll => rfl
      | ensure => cases rests
      | _ => cases notices
  have nobody : pool.threads.countP AdminTask.keeping = 0 := by
    rw [List.countP_eq_zero]
    intro task present keeps
    have rests := quiet task present
    cases task with
    | ensure => cases rests
    | _ => cases keeps
  have loops := sound.loops
  cases held : pool.shared.health.task.isSome with
  | false =>
      rw [held, if_neg Bool.false_ne_true] at loops
      omega
  | true =>
      rw [held, if_pos rfl] at loops
      exact ⟨by omega, rfl⟩

/-- A server that starts with the executor has started the loop. -/
def polledEnd : Option AdminPool :=
  (adminProgram Host.compact .none .compact).follow
    (fun pool action => wellTimed pool action = true) (turns 0 4) pairServer

theorem polledEnd_isSome : polledEnd.isSome := by decide

theorem polledEnd_reachable : ((adminProgram Host.compact .none .compact).system
    pairServer
    fun pool action => wellTimed pool action = true).Reachable (polledEnd.get polledEnd_isSome) :=
  get_follow_reachable polledEnd_isSome

theorem poller_runs_for_executor :
    (polledEnd.get polledEnd_isSome).threads.countP AdminTask.isLoop = 1 ∧
      (polledEnd.get polledEnd_isSome).shared.health.task.isSome = true :=
  (poller_runs_when_needed Host.compact .none .compact ⟨[pairEntry], ⟨none, none⟩⟩ .empty
    polledEnd_reachable).2 (by decide) (by decide)

/-- On an empty server the poller is not started, and then the executor is saved. -/
def unpolledEnd : Option AdminPool :=
  (adminProgram Host.compact .none .compact).follow anySchedule
    (turns 0 3 ++ .start (.post (.read (pairBody "http://10.0.0.5/v1"))) :: turns 1 6) emptyServer

theorem unpolledEnd_isSome : unpolledEnd.isSome := by decide

theorem unpolledEnd_reachable : ((adminProgram Host.compact .none .compact).system emptyServer
    anySchedule).Reachable (unpolledEnd.get unpolledEnd_isSome) :=
  get_follow_reachable unpolledEnd_isSome

/-- Without restriction a polled entry can be left without a loop. -/
theorem poller_not_running :
    ¬ ∀ host env yaml (store : BackendStore) backends pool,
      ((adminProgram host env yaml).system (AdminPool.serving store backends)
        anySchedule).Reachable pool →
      pool.threads.countP AdminTask.isLoop ≤ 1 ∧
        ((∀ task ∈ pool.threads, task.resting = true) →
          pool.shared.health.hasEnabled pool.shared.entries = true →
            pool.threads.countP AdminTask.isLoop = 1 ∧
              pool.shared.health.task.isSome = true) := by
  intro alwaysPolled
  have needed := (alwaysPolled _ _ _ _ _ _ unpolledEnd_reachable).2
  have runs := needed (by decide) (by decide)
  exact absurd runs.1 (by decide)

end AiPowerGateway.Share

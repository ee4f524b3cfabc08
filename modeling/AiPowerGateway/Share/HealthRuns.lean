import AiPowerGateway.Share.AdminTasks
import AiPowerGateway.Share.ConfigFiles

/-!
# The health table over runs

The poller probes a backend without holding a lock, and writes its result after looking
at one flag again.  As long as it only writes for a backend that is still polled and was
not reconfigured since the probe began, and no handler ends the polling of a backend
that has a state, the health table only speaks of polled backends.
-/

namespace AiPowerGateway.Share

open Systems.Threads Systems.Threads.Program

/-! ## The history of one id -/

namespace AdminOp

/-- `DELETE` removes this id, or `PUT` configures its polling. -/
def reconfigures (id : String) : AdminOp → Bool
  | .remove other => other = id
  | .setConfig other _ => other = id
  | _ => false

/-- The operation may change whether this id is polled. -/
def affects (id : String) : AdminOp → Bool
  | .save entry | .fill entry => entry.backendId = id
  | .remove other | .setConfig other _ | .removeConfig other => other = id
  | _ => false

/-- The observations of an id since its state was last reset, one operation later. -/
def noted (id : String) (log : List (Nat × Observation × PollConfig)) :
    AdminOp → List (Nat × Observation × PollConfig)
  | .observe other since observed => if other = id then log ++ [(since, observed)] else log
  | .reset other => if other = id then [] else log
  | _ => log

end AdminOp

namespace AdminState

/-- The id is a configured backend, and polled. -/
def polls (state : AdminState) (id : String) : Bool :=
  (BackendStore.find? state.entries id).any state.health.enabled

/-- The observations of an id since its last reset, each with the start of its probe. -/
def noted (state : AdminState) (id : String) : List (Nat × Observation × PollConfig) :=
  state.history.foldl (AdminOp.noted id) []

/-- Since this point the id was neither deleted nor reconfigured. -/
def fresh (state : AdminState) (id : String) (since : Nat) : Bool :=
  (state.later since).all fun op => !op.reconfigures id

/-- The id has no state, or it is polled and all its probes began after the last change. -/
def Clean (id : String) (state : AdminState) : Prop :=
  state.noted id = [] ∨
    state.polls id = true ∧ ∀ note ∈ state.noted id, state.fresh id note.1 = true

end AdminState

namespace AdminTask

/-- A handler of this id has yet to reset its state. -/
def willReset (id : String) : AdminTask → Bool
  | .put other (.resetState _) => other = id
  | .delete other (.commit _) | .delete other .forgetTest | .delete other .resetState => other = id
  | _ => false

/-- A handler is on its way. -/
def handles : AdminTask → Bool
  | .post _ | .delete _ _ | .put _ _ => true
  | _ => false

end AdminTask

/--
The poller writes for an id that is still polled and was not reconfigured since the probe
began; a save, the store of a probe and the end of a deletion leave an id with a state
polled; and a deletion fails only while its id has no state.  None of this is asked while
a handler has yet to reset the state.
-/
def tidy (host : Host) (env : ProcessEnv) (pool : AdminPool) : AdminAction → Bool
  | .start _ => true
  | .turn index input =>
      match pool.threads[index]? with
      | some (.poll _ (.write current _ _ _)) =>
          (pool.shared.polls current.id && pool.shared.fresh current.id current.since) ||
            pool.threads.any (AdminTask.willReset current.id)
      | some (.post (.store entry)) => staysPolled pool (.save entry) entry.backendId
      | some (.probe entry _ (.store models)) =>
          staysPolled pool (.fill { entry with models := models }) entry.backendId
      | some (.delete id .removeConfig) => staysPolled pool (.removeConfig id) id
      | some (.delete id (.commit stage)) =>
          !stage.fails host env input pool.shared ||
            (pool.shared.health.states.lookup id).isNone ||
            (pool.threads.eraseIdx index).any (AdminTask.willReset id)
      | _ => true
where
  staysPolled (pool : AdminPool) (op : AdminOp) (id : String) : Bool :=
    (pool.shared.health.states.lookup id).isNone || (pool.shared.perform op).polls id ||
      pool.threads.any (AdminTask.willReset id)

/-! ## The history after one more operation -/

section History

variable {state : AdminState} {op : AdminOp} {id : String} {since : Nat}

theorem AdminState.noted_perform :
    (state.perform op).noted id = op.noted id (state.noted id) := by
  simp [AdminState.noted, AdminState.perform]

theorem AdminState.fresh_perform (fresh : state.fresh id since = true)
    (quiet : op.reconfigures id = false) : (state.perform op).fresh id since = true := by
  rw [AdminState.fresh, AdminState.later, AdminState.perform, List.drop_append, List.all_append]
  refine (Bool.and_eq_true _ _).mpr ⟨fresh, ?_⟩
  exact List.all_eq_true.mpr fun other mem => by
    rw [List.mem_singleton.mp (List.mem_of_mem_drop mem), quiet]
    rfl

theorem AdminOp.not_reconfigures (apart : op.affects id = false) : op.reconfigures id = false := by
  cases op <;> first | rfl | exact apart

/-- An operation that is about other ids does not change whether this one is polled. -/
theorem AdminState.polls_perform (apart : op.affects id = false) :
    (state.perform op).polls id = state.polls id := by
  cases op with
  | save entry | fill entry =>
      have differ : id ≠ entry.backendId := by simpa [AdminOp.affects, eq_comm] using apart
      exact congrArg (fun found : Option BackendEntry => found.any state.health.enabled)
        (BackendStore.find?_upsertEntry_ne differ state.entries)
  | remove other =>
      have differ : id ≠ other := by simpa [AdminOp.affects, eq_comm] using apart
      exact congrArg (fun found : Option BackendEntry => found.any state.health.enabled)
        (BackendStore.find?_removeEntry_ne differ state.entries)
  | setConfig other cfg =>
      have differ : id ≠ other := by simpa [AdminOp.affects, eq_comm] using apart
      show (BackendStore.find? state.entries id).any (state.health.setConfig other cfg).enabled =
        (BackendStore.find? state.entries id).any state.health.enabled
      cases found : BackendStore.find? state.entries id with
      | none => rfl
      | some entry =>
          simp [HealthMonitor.enabled, BackendStore.find?_key found,
            HealthMonitor.config_setConfig_ne differ]
  | removeConfig other =>
      have differ : id ≠ other := by simpa [AdminOp.affects, eq_comm] using apart
      show (BackendStore.find? state.entries id).any (state.health.removeConfig other).enabled =
        (BackendStore.find? state.entries id).any state.health.enabled
      cases found : BackendStore.find? state.entries id with
      | none => rfl
      | some entry =>
          simp [HealthMonitor.enabled, BackendStore.find?_key found,
            HealthMonitor.config_removeConfig_ne differ]
  | _ => rfl

/-- The table holds what the observations since the last reset add up to. -/
def AdminState.Folds (state : AdminState) : Prop :=
  ∀ id, state.health.states.lookup id = ProviderState.fold ((state.noted id).map Prod.snd)

theorem AdminState.Folds.perform (folds : state.Folds) (op : AdminOp) :
    (state.perform op).Folds := by
  intro id
  rw [AdminState.noted_perform]
  cases op with
  | observe other since observed =>
      have states : (state.perform (.observe other since observed)).health.states =
          state.health.states.upsert other .fresh fun known => known.note observed := rfl
      rw [states]
      by_cases same : other = id
      · subst same
        rw [HashMap.lookup_upsert_self, folds, AdminOp.noted, if_pos rfl, List.map_append,
          List.map_singleton, ProviderState.fold_concat]
      · rw [HashMap.lookup_upsert_ne (Ne.symm same), folds, AdminOp.noted, if_neg same]
  | reset other =>
      have states : (state.perform (.reset other)).health.states =
          state.health.states.erase other := rfl
      rw [states]
      by_cases same : other = id
      · subst same
        rw [AList.lookup_erase, AdminOp.noted, if_pos rfl]
        rfl
      · rw [AList.lookup_erase_ne (Ne.symm same), folds, AdminOp.noted, if_neg same]
  | _ => exact folds id

theorem AdminState.Folds.noted_eq_nil (folds : state.Folds)
    (none : (state.health.states.lookup id).isNone = true) : state.noted id = [] := by
  rw [folds id] at none
  cases log : state.noted id with
  | nil => rfl
  | cons note rest => simp [log, ProviderState.fold] at none

/-- An operation that is about other ids keeps this one clean. -/
theorem AdminState.Clean.perform (clean : state.Clean id) (apart : op.affects id = false)
    (same : op.noted id (state.noted id) = state.noted id) : (state.perform op).Clean id := by
  unfold AdminState.Clean
  rw [AdminState.noted_perform, same, AdminState.polls_perform apart]
  exact clean.imp_right fun ⟨polls, all⟩ => ⟨polls, fun note mem =>
    AdminState.fresh_perform (all note mem) (AdminOp.not_reconfigures apart)⟩

/-- An id stays clean when it has no state, or is polled afterwards. -/
theorem AdminState.Clean.of_polls (clean : state.Clean id) (folds : state.Folds)
    (same : op.noted id (state.noted id) = state.noted id) (quiet : op.reconfigures id = false)
    (polls : (state.health.states.lookup id).isNone = true ∨ (state.perform op).polls id = true) :
    (state.perform op).Clean id := by
  unfold AdminState.Clean
  rw [AdminState.noted_perform, same]
  rcases polls with none | polls
  · exact Or.inl (folds.noted_eq_nil none)
  · exact clean.imp_right fun ⟨_, all⟩ => ⟨polls, fun note mem =>
      AdminState.fresh_perform (all note mem) quiet⟩

end History

/-! ## The invariant -/

structure HealthSound (pool : AdminPool) : Prop where
  folds : pool.shared.Folds
  clean (id : String) : Owed (AdminState.Clean id) (fun task => task.willReset id = true) pool

section Steps

variable {host : Host} {env : ProcessEnv} {yaml : SerdeYaml} {input : AdminInput}
  {task : AdminTask} {step : AdminStep} {pool : AdminPool} {index : Nat} {id : String}

/-- Another task will reset the state. -/
theorem clean_by {other : AdminTask} {position : Nat} (differ : position ≠ index)
    (stays : pool.threads[position]? = some other) (resets : other.willReset id = true) :
    Owed (AdminState.Clean id) (fun task => task.willReset id = true)
      ⟨pool.shared.perform step.op, afterTurn pool.threads index (step.turn pool.shared)⟩ :=
  Or.inr ⟨other, other_mem_afterTurn differ stays, resets⟩

theorem clean_by_any (found : pool.threads[index]? = some task) (own : task.willReset id = false)
    (resets : pool.threads.any (AdminTask.willReset id) = true) :
    Owed (AdminState.Clean id) (fun task => task.willReset id = true)
      ⟨pool.shared.perform step.op, afterTurn pool.threads index (step.turn pool.shared)⟩ := by
  obtain ⟨other, mem, resets⟩ := List.any_eq_true.mp resets
  obtain ⟨position, stays⟩ := List.mem_iff_getElem?.mp mem
  refine clean_by (fun same => ?_) stays resets
  subst same
  rw [Option.some.inj (found.symm.trans stays), resets] at own
  cases own

/-- An operation that may end the polling of an id, where the schedule lets it. -/
theorem HealthSound.clean_of_staysPolled (sound : HealthSound pool)
    (found : pool.threads[index]? = some task) (own : task.willReset id = false)
    (same : step.op.noted id (pool.shared.noted id) = pool.shared.noted id)
    (quiet : step.op.reconfigures id = false)
    (may : tidy.staysPolled pool step.op id = true) :
    Owed (AdminState.Clean id) (fun task => task.willReset id = true)
      ⟨pool.shared.perform step.op, afterTurn pool.threads index (step.turn pool.shared)⟩ := by
  rcases (Bool.or_eq_true _ _).mp may with kept | resets
  · refine owed_step (sound.clean id) found fun before => Or.inl ?_
    exact (before.resolve_right (by simp [own])).of_polls sound.folds same quiet
      ((Bool.or_eq_true _ _).mp kept)
  · exact clean_by_any found own resets

/-- An operation that is about other ids. -/
theorem HealthSound.clean_kept (sound : HealthSound pool)
    (found : pool.threads[index]? = some task) (apart : step.op.affects id = false)
    (same : step.op.noted id (pool.shared.noted id) = pool.shared.noted id)
    (own : task.willReset id = true → step.next.willReset id = true) :
    Owed (AdminState.Clean id) (fun task => task.willReset id = true)
      ⟨pool.shared.perform step.op, afterTurn pool.threads index (step.turn pool.shared)⟩ :=
  owed_step (sound.clean id) found fun before => before.elim
    (fun clean => Or.inl (clean.perform apart same)) fun owes => Or.inr (Or.inl (own owes))

/-- A turn that stores or removes an entry. -/
theorem HealthSound.clean_onEntries (sound : HealthSound pool)
    (may : tidy host env pool (.turn index input) = true)
    (found : pool.threads[index]? = some task)
    (steps : task.step host env yaml input pool.shared = some step)
    (stores : step.op.onEntries = true) (id : String) :
    Owed (AdminState.Clean id) (fun task => task.willReset id = true)
      ⟨pool.shared.perform step.op, afterTurn pool.threads index (step.turn pool.shared)⟩ := by
  rcases onEntries_cases steps stores with
    ⟨entry, rfl, rfl⟩ | ⟨entry, since, models, rfl, rfl⟩ | ⟨gone, rfl, rfl⟩
  · by_cases same : entry.backendId = id
    · subst same
      exact sound.clean_of_staysPolled found rfl rfl rfl (by simpa [tidy, found] using may)
    · exact sound.clean_kept found (decide_eq_false same) rfl (by simp [AdminTask.willReset])
  · by_cases same : entry.backendId = id
    · subst same
      exact sound.clean_of_staysPolled found rfl rfl rfl (by simpa [tidy, found] using may)
    · exact sound.clean_kept found (decide_eq_false same) rfl (by simp [AdminTask.willReset])
  · by_cases same : gone = id
    · subst same
      exact owed_step (sound.clean gone) found fun _ =>
        Or.inr (Or.inl (by simp [AdminTask.willReset]))
    · exact sound.clean_kept found (decide_eq_false same) rfl (by simp [AdminTask.willReset])

/-- After a reset the id is clean, and the others are as they were. -/
theorem HealthSound.clean_reset (sound : HealthSound pool)
    (found : pool.threads[index]? = some task) {other : String} (resets : step.op = .reset other)
    (own : other ≠ id → task.willReset id = false) :
    Owed (AdminState.Clean id) (fun task => task.willReset id = true)
      ⟨pool.shared.perform step.op, afterTurn pool.threads index (step.turn pool.shared)⟩ := by
  by_cases same : other = id
  · left
    left
    rw [AdminState.noted_perform, resets, AdminOp.noted, if_pos same]
  · refine sound.clean_kept found ?_ ?_ (by simp [own same])
    · rw [resets]
      rfl
    · rw [resets, AdminOp.noted, if_neg same]

/-- A new observation of a backend that is polled, from a probe after the last change. -/
theorem AdminState.Clean.observe {state : AdminState} (clean : state.Clean id)
    (polls : state.polls id = true) {since : Nat} (fresh : state.fresh id since = true)
    (observed : Observation × PollConfig) :
    (state.perform (.observe id since observed)).Clean id := by
  right
  rw [AdminState.polls_perform rfl, AdminState.noted_perform, AdminOp.noted, if_pos rfl]
  refine ⟨polls, fun note mem => ?_⟩
  rcases List.mem_append.mp mem with before | new
  · rcases clean with none | ⟨-, all⟩
    · rw [none] at before
      cases before
    · exact AdminState.fresh_perform (all note before) rfl
  · rw [List.mem_singleton.mp new]
    exact AdminState.fresh_perform fresh rfl

/-- The poller writes down a probe. -/
theorem HealthSound.clean_write (sound : HealthSound pool) {lastPoll ids : List String}
    {current : PollProbe} {observed : Observation} {entries : List BackendEntry}
    (may : tidy host env pool (.turn index input) = true)
    (found : pool.threads[index]? = some (.poll lastPoll (.write current observed ids entries)))
    (writes : step.op = .observe current.id current.since (observed, current.cfg)) (id : String) :
    Owed (AdminState.Clean id) (fun task => task.willReset id = true)
      ⟨pool.shared.perform step.op, afterTurn pool.threads index (step.turn pool.shared)⟩ := by
  by_cases same : current.id = id
  · subst same
    have allowed : ((pool.shared.polls current.id &&
        pool.shared.fresh current.id current.since) ||
          pool.threads.any (AdminTask.willReset current.id)) = true := by
      simpa only [tidy, found] using may
    rcases (Bool.or_eq_true _ _).mp allowed with unchanged | resets
    · obtain ⟨polls, fresh⟩ := (Bool.and_eq_true _ _).mp unchanged
      refine owed_step (sound.clean current.id) found fun before => Or.inl ?_
      rw [writes]
      exact (before.resolve_right (by simp [AdminTask.willReset])).observe polls fresh _
    · exact clean_by_any found rfl resets
  · refine sound.clean_kept found ?_ ?_ (by simp [AdminTask.willReset])
    · rw [writes]
      rfl
    · rw [writes]
      exact if_neg same

/-- A turn that changes the health monitor. -/
theorem HealthSound.clean_onHealth (sound : HealthSound pool)
    (may : tidy host env pool (.turn index input) = true)
    (found : pool.threads[index]? = some task)
    (steps : task.step host env yaml input pool.shared = some step)
    (changes : step.op.onHealth = true) (id : String) :
    Owed (AdminState.Clean id) (fun task => task.willReset id = true)
      ⟨pool.shared.perform step.op, afterTurn pool.threads index (step.turn pool.shared)⟩ := by
  rcases onHealth_cases steps changes with
    ⟨other, rfl, op⟩ | ⟨other, rfl, op⟩ | ⟨other, cfg, rfl, op⟩ | ⟨other, cfg, rfl, op⟩ | rfl |
      ⟨lastPoll, rfl⟩ | ⟨lastPoll, current, observed, ids, entries, rfl⟩
  · exact sound.clean_reset found op fun differ => by simpa [AdminTask.willReset] using differ
  · by_cases same : other = id
    · subst same
      refine sound.clean_of_staysPolled found rfl ?_ ?_ ?_
      · rw [op]; rfl
      · rw [op]; rfl
      · simpa [tidy, found, op] using may
    · refine sound.clean_kept found ?_ ?_ (by simp [AdminTask.willReset])
      · rw [op]
        exact decide_eq_false same
      · rw [op]; rfl
  · by_cases same : other = id
    · subst same
      refine owed_step (sound.clean other) found fun _ => Or.inr (Or.inl ?_)
      obtain rfl := Option.some.inj steps
      simp [PutStage.step, AdminTask.willReset]
    · refine sound.clean_kept found ?_ ?_ (by simp [AdminTask.willReset])
      · rw [op]
        exact decide_eq_false same
      · rw [op]; rfl
  · exact sound.clean_reset found op fun differ => by simpa [AdminTask.willReset] using differ
  · obtain rfl := Option.some.inj steps
    exact sound.clean_kept found rfl rfl (by simp [AdminTask.willReset])
  · obtain rfl := Option.some.inj steps
    exact sound.clean_kept found rfl rfl (by simp [AdminTask.willReset])
  · refine sound.clean_write may found ?_ id
    obtain rfl := Option.some.inj steps
    rfl

theorem CommitStage.fails_of_error {stage : CommitStage} {state : AdminState} {op : AdminOp}
    {message : String}
    (commits : stage.step host env yaml input state = (op, .error message)) :
    stage.fails host env input state = true := by
  cases stage with
  | save => cases commits
  | write entries =>
      by_cases saved : input.outcome.succeeds
      · simp [CommitStage.step, saved] at commits
      · simpa [CommitStage.fails] using saved
  | rebuild =>
      cases builds : buildBackends host.serde env state.list with
      | ok built => simp [CommitStage.step, builds] at commits
      | error error => simp [CommitStage.fails, builds, Except.toOption]
  | install built => cases commits

/-- A handler that gives up its reset is a deletion that fails. -/
theorem deletion_failed {state : AdminState}
    (steps : task.step host env yaml input state = some step)
    (keepsHealth : step.op.onHealth = false) (owed : task.willReset id = true)
    (lost : step.next.willReset id = false) :
    ∃ stage, task = .delete id (.commit stage) ∧ stage.fails host env input state = true := by
  cases task with
  | delete other stage =>
      obtain rfl := Option.some.inj steps
      cases stage with
      | commit stage =>
          have same : other = id := by simpa [AdminTask.willReset] using owed
          subst same
          refine ⟨stage, rfl, ?_⟩
          rcases commits : stage.step host env yaml input state with ⟨op, message | ⟨_ | next⟩⟩
          · exact CommitStage.fails_of_error commits
          · simp [DeleteStage.step, commits, AdminTask.willReset] at lost
          · simp [DeleteStage.step, commits, AdminTask.willReset] at lost
      | forgetTest => exact absurd (lost.symm.trans owed) Bool.false_ne_true
      | resetState => cases keepsHealth
      | _ => cases owed
  | put other stage =>
      obtain rfl := Option.some.inj steps
      cases stage with
      | resetState cfg => cases keepsHealth
      | _ => cases owed
  | _ => cases owed

/-- A turn that changes neither the entries nor the health monitor. -/
theorem HealthSound.clean_quiet (sound : HealthSound pool)
    (may : tidy host env pool (.turn index input) = true)
    (found : pool.threads[index]? = some task)
    (steps : task.step host env yaml input pool.shared = some step)
    (keepsEntries : step.op.onEntries = false) (keepsHealth : step.op.onHealth = false)
    (id : String) :
    Owed (AdminState.Clean id) (fun task => task.willReset id = true)
      ⟨pool.shared.perform step.op, afterTurn pool.threads index (step.turn pool.shared)⟩ := by
  have apart : step.op.affects id = false := by
    cases op : step.op <;> simp_all [AdminOp.affects, AdminOp.onEntries, AdminOp.onHealth]
  have same : step.op.noted id (pool.shared.noted id) = pool.shared.noted id := by
    cases op : step.op <;> simp_all [AdminOp.noted, AdminOp.onHealth]
  by_cases stays : task.willReset id = true → step.next.willReset id = true
  · exact sound.clean_kept found apart same stays
  · obtain ⟨owed, lost⟩ := Classical.not_imp.mp stays
    obtain ⟨stage, rfl, fails⟩ := deletion_failed steps keepsHealth owed (by simpa using lost)
    have allowed : (pool.shared.health.states.lookup id).isNone = true ∨
        (pool.threads.eraseIdx index).any (AdminTask.willReset id) = true := by
      simpa only [tidy, found, fails, Bool.not_true, Bool.false_or, Bool.or_eq_true] using may
    rcases allowed with none | resets
    · have clean : pool.shared.Clean id := Or.inl (sound.folds.noted_eq_nil none)
      exact Or.inl (clean.perform apart same)
    · obtain ⟨other, mem, resets⟩ := List.any_eq_true.mp resets
      obtain ⟨position, differ, stays⟩ := List.mem_eraseIdx_iff_getElem?.mp mem
      exact clean_by differ stays resets

theorem healthSound_inductive (host : Host) (env : ProcessEnv) (yaml : SerdeYaml)
    (store : BackendStore) (backends : RegistryInner) :
    ((adminProgram host env yaml).system (AdminPool.serving store backends)
      fun pool action => tidy host env pool action = true).Inductive HealthSound := by
  refine inductive_of ?_ ?_ ?_
  · exact ⟨fun id => rfl, fun id => Or.inl (Or.inl rfl)⟩
  · exact fun sound _ => ⟨sound.folds, fun id => (sound.clean id).start _⟩
  · intro pool index input task turn may sound found advances
    obtain ⟨step, steps, rfl⟩ := advance_adminProgram advances
    refine ⟨sound.folds.perform step.op, fun id => ?_⟩
    cases stores : step.op.onEntries with
    | true => exact sound.clean_onEntries may found steps stores id
    | false =>
        cases changes : step.op.onHealth with
        | true => exact sound.clean_onHealth may found steps changes id
        | false => exact sound.clean_quiet may found steps stores changes id

end Steps

/-! ## The result -/

/--
In tidy runs, when no handler is on its way: a state belongs to a configured backend that
is polled, and is what its observations add up to, all of them from probes that began
after the last deletion and the last reconfiguration; a backend that is not polled is not
removed from routing.
-/
theorem health_states_tidy (host : Host) (env : ProcessEnv) (yaml : SerdeYaml)
    (store : BackendStore) (backends : RegistryInner) {pool : AdminPool}
    (reached : ((adminProgram host env yaml).system (AdminPool.serving store backends)
      fun pool action => tidy host env pool action = true).Reachable pool)
    (quiet : ∀ task ∈ pool.threads, task.handles = false) (id : String) :
    (∀ state, pool.shared.health.states.lookup id = some state →
      pool.shared.polls id = true ∧
        ProviderState.fold ((pool.shared.noted id).map Prod.snd) = some state ∧
        ∀ note ∈ pool.shared.noted id, pool.shared.fresh id note.1 = true) ∧
      (pool.shared.polls id = false →
        HealthTable.isRemoved (some pool.shared.health.states) id = false) := by
  have sound := (healthSound_inductive host env yaml store backends).reachable reached
  have clean : pool.shared.Clean id := (sound.clean id).settled fun task mem resets => by
    have idle := quiet task mem
    cases task with
    | put | delete => cases idle
    | _ => cases resets
  constructor
  · intro state found
    rw [sound.folds id] at found
    rcases clean with none | ⟨polls, fresh⟩
    · rw [none] at found
      cases found
    · exact ⟨polls, found, fresh⟩
  · intro unpolled
    have empty : pool.shared.noted id = [] :=
      clean.resolve_right fun ⟨polls, _⟩ => by
        rw [unpolled] at polls
        cases polls
    have missing : pool.shared.health.states.lookup id = none := by
      rw [sound.folds id, empty]
      rfl
    simp [HealthTable.isRemoved, HealthTable.level?, missing]

/-- The loop has started, and is about to probe the executor. -/
def probing : List AdminAction := turns 0 4 ++ turns 1 5

/-- The probe has succeeded and is written down. -/
def probedEnd : Option AdminPool :=
  (adminProgram Host.compact .none .compact).follow
    (fun pool action => tidy Host.compact .none pool action = true)
    (probing ++ probeAnswer 1 :: turns 1 2) pairServer

theorem probedEnd_isSome : probedEnd.isSome := by decide

theorem probedEnd_reachable : ((adminProgram Host.compact .none .compact).system pairServer
    fun pool action => tidy Host.compact .none pool action = true).Reachable
      (probedEnd.get probedEnd_isSome) :=
  get_follow_reachable probedEnd_isSome

theorem health_states_probed :
    ∃ state, (probedEnd.get probedEnd_isSome).shared.health.states.lookup "pair-home-1" =
        some state ∧
      (probedEnd.get probedEnd_isSome).shared.polls "pair-home-1" = true := by
  have tidy := health_states_tidy Host.compact .none .compact ⟨[pairEntry], ⟨none, none⟩⟩ .empty
    probedEnd_reachable (by decide) "pair-home-1"
  have found : (probedEnd.get probedEnd_isSome).shared.health.states.lookup "pair-home-1" =
      some ⟨.ok, 0, some 3, none⟩ := by decide
  exact ⟨_, found, (tidy.1 _ found).1⟩

/-- The executor is deleted while its probe is under way. -/
def deletedEnd : Option AdminPool :=
  (adminProgram Host.compact .none .compact).follow anySchedule
    (probing ++ .start (.delete "pair-home-1" .remove) :: turns 2 8 ++ turns 1 3) pairServer

theorem deletedEnd_isSome : deletedEnd.isSome := by decide

theorem deletedEnd_reachable : ((adminProgram Host.compact .none .compact).system pairServer
    anySchedule).Reachable (deletedEnd.get deletedEnd_isSome) :=
  get_follow_reachable deletedEnd_isSome

/-- Without restriction a deleted backend can get a state again. -/
theorem health_states_untidy :
    ¬ ∀ host env yaml (store : BackendStore) backends pool,
      ((adminProgram host env yaml).system (AdminPool.serving store backends)
        anySchedule).Reachable pool →
      (∀ task ∈ pool.threads, task.handles = false) → ∀ id state,
        pool.shared.health.states.lookup id = some state → pool.shared.polls id = true := by
  intro onlyPolled
  have polls := onlyPolled _ _ _ _ _ _ deletedEnd_reachable (by decide) "pair-home-1"
    ⟨.ok, 1, none, some ""⟩ (by decide)
  exact absurd polls (by decide)

end AiPowerGateway.Share

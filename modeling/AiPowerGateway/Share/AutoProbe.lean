import AiPowerGateway.Share.AdminTasks
import AiPowerGateway.Share.ConfigFiles

/-!
# The probe of a saved backend

A backend that was saved without models is probed, and stored again with the models
that the probe found.  The probe only checks that its id is still listed.  As long as
no later change of the id gets in its way, it fills the entry that was saved last.
-/

namespace AiPowerGateway.Share

open Systems.Threads Systems.Threads.Program

/-! ## The history of one id -/

namespace AdminOp

/-- A handler stores an entry under this id. -/
def saves (id : String) : AdminOp → Bool
  | .save entry => entry.backendId = id
  | _ => false

/-- A handler stores or deletes this id. -/
def changes (id : String) : AdminOp → Bool
  | .save entry => entry.backendId = id
  | .remove other => other = id
  | _ => false

/-- What was saved last under an id, one operation later. -/
def lastSave (id : String) (last : Option BackendEntry) : AdminOp → Option BackendEntry
  | .save entry => if entry.backendId = id then some entry else last
  | .remove other => if other = id then none else last
  | _ => last

end AdminOp

namespace AdminState

/-- The last save of an id that was not deleted since; at first, what the store began with. -/
def lastSave (first : List BackendEntry) (state : AdminState) (id : String) :
    Option BackendEntry :=
  state.history.foldl (AdminOp.lastSave id) (BackendStore.find? first id)

/-- The save of an entry ends at this point of the history. -/
def SavedAt (state : AdminState) (entry : BackendEntry) (since : Nat) : Prop :=
  ∃ before after, state.history = before ++ .save entry :: after ∧ since = before.length + 1

end AdminState

/-- The entry as it was saved, or with models when it was saved without. -/
def BackendEntry.FilledFrom (saved stored : BackendEntry) : Prop :=
  stored = saved ∨ saved.models = [] ∧ ∃ models, stored = { saved with models := models }

/-! ## Which runs are undisturbed -/

namespace AdminTask

/-- A probe of the id is back with models that it has yet to store. -/
def bringsModels (id : String) : AdminTask → Bool
  | .probe entry _ (.check _) | .probe entry _ (.store _) => entry.backendId = id
  | _ => false

/-- A probe of the id stands between its check of the list and its store. -/
def hasChecked (id : String) : AdminTask → Bool
  | .probe entry _ (.store _) => entry.backendId = id
  | _ => false

end AdminTask

/--
No probe comes back with models after a later save of its id; no save gets between that
and the probe's store, and no deletion between its check and its store; and a save that
has stored its entry does not fail.
-/
def undisturbed (host : Host) (env : ProcessEnv) (pool : AdminPool) : AdminAction → Bool
  | .start _ => true
  | .turn index input =>
      match pool.threads[index]? with
      | some (.probe entry since .test) =>
          !ProbeStage.findsModels env input entry ||
            (pool.shared.later since).all fun op => !op.saves entry.backendId
      | some (.post (.store entry)) =>
          pool.threads.all fun task => !task.bringsModels entry.backendId
      | some (.delete id .remove) => pool.threads.all fun task => !task.hasChecked id
      | some (.post (.commit _ _ stage)) => !stage.fails host env input pool.shared
      | _ => true

/-! ## The history after one more operation -/

section History

variable {first : List BackendEntry} {state : AdminState} {op : AdminOp} {id : String}
  {entry other : BackendEntry} {since : Nat}

theorem AdminState.lastSave_perform :
    (state.perform op).lastSave first id = op.lastSave id (state.lastSave first id) := by
  simp [AdminState.lastSave, AdminState.perform]

theorem AdminOp.lastSave_of_not_changes (quiet : op.changes id = false)
    (last : Option BackendEntry) : op.lastSave id last = last := by
  cases op with
  | save entry =>
      have differ : entry.backendId ≠ id := by simpa [AdminOp.changes] using quiet
      simp [AdminOp.lastSave, differ]
  | remove other =>
      have differ : other ≠ id := by simpa [AdminOp.changes] using quiet
      simp [AdminOp.lastSave, differ]
  | _ => rfl

theorem AdminState.later_perform (bound : since ≤ state.history.length) :
    (state.perform op).later since = state.later since ++ [op] := by
  rw [AdminState.later, AdminState.perform, List.drop_append_of_le_length bound]
  rfl

/-- What all later operations were, and the next one is, all of them are still. -/
theorem AdminState.forall_later_perform {property : AdminOp → Prop}
    (bound : since ≤ state.history.length) (before : ∀ other ∈ state.later since, property other)
    (own : property op) : ∀ other ∈ (state.perform op).later since, property other := by
  rw [AdminState.later_perform bound]
  exact List.forall_mem_append.mpr ⟨before, by simpa using own⟩

namespace AdminState.SavedAt

theorem bound (saved : state.SavedAt entry since) : since ≤ state.history.length := by
  obtain ⟨before, after, history, rfl⟩ := saved
  rw [history]
  simp

theorem perform (saved : state.SavedAt entry since) (op : AdminOp) :
    (state.perform op).SavedAt entry since := by
  obtain ⟨before, after, history, rfl⟩ := saved
  exact ⟨before, after ++ [op], by simp [AdminState.perform, history], rfl⟩

/-- A save is the last operation of the history that it leaves. -/
theorem self (state : AdminState) (entry : BackendEntry) :
    (state.perform (.save entry)).SavedAt entry (state.history.length + 1) :=
  ⟨state.history, [], rfl, rfl⟩

theorem later_eq (saved : state.SavedAt entry since) :
    ∃ before, state.history = before ++ .save entry :: state.later since := by
  obtain ⟨before, after, history, rfl⟩ := saved
  refine ⟨before, ?_⟩
  rw [AdminState.later, history]
  simp

/-- Of two saves, the second one comes later than the first. -/
theorem mem_later (saved : state.SavedAt entry since) {earlier : Nat} (before : earlier < since) :
    .save entry ∈ state.later earlier := by
  obtain ⟨start, after, history, rfl⟩ := saved
  have reaches : earlier ≤ start.length := by omega
  rw [AdminState.later, history, List.drop_append_of_le_length reaches]
  simp

/-- Without later changes the last save of the id is this one. -/
theorem lastSave_eq (saved : state.SavedAt entry since)
    (quiet : ∀ op ∈ state.later since, op.changes entry.backendId = false) :
    state.lastSave first entry.backendId = some entry := by
  obtain ⟨before, history⟩ := saved.later_eq
  rw [AdminState.lastSave, history, List.foldl_append, List.foldl_cons]
  have kept (ops : List AdminOp) (quiet : ∀ op ∈ ops, op.changes entry.backendId = false)
      (last : Option BackendEntry) :
      ops.foldl (AdminOp.lastSave entry.backendId) last = last := by
    induction ops generalizing last with
    | nil => rfl
    | cons op ops ih =>
        rw [List.foldl_cons, AdminOp.lastSave_of_not_changes (quiet op (by simp))]
        exact ih (fun op mem => quiet op (by simp [mem])) last
  rw [kept _ quiet]
  simp [AdminOp.lastSave]

/-- When the id is still there and was not saved again, it was not deleted either. -/
theorem unchanged (saved : state.SavedAt entry since)
    (unsaved : ∀ op ∈ state.later since, op.saves entry.backendId = false)
    (last : state.lastSave first entry.backendId = some other) :
    ∀ op ∈ state.later since, op.changes entry.backendId = false := by
  obtain ⟨before, history⟩ := saved.later_eq
  rw [AdminState.lastSave, history, List.foldl_append, List.foldl_cons] at last
  have kept (ops : List AdminOp) (unsaved : ∀ op ∈ ops, op.saves entry.backendId = false)
      (start : Option BackendEntry)
      (last : ops.foldl (AdminOp.lastSave entry.backendId) start = some other) :
      start = some other ∧ ∀ op ∈ ops, op.changes entry.backendId = false := by
    induction ops generalizing start with
    | nil => exact ⟨last, by simp⟩
    | cons op ops ih =>
        obtain ⟨next, quiet⟩ := ih (fun op mem => unsaved op (by simp [mem])) _ last
        have own : op.changes entry.backendId = false := by
          have unsavedOwn := unsaved op (by simp)
          cases op with
          | remove id =>
              by_contra same
              have same : id = entry.backendId := by simpa [AdminOp.changes] using same
              simp [AdminOp.lastSave, same] at next
          | save stored => exact unsavedOwn
          | _ => rfl
        rw [AdminOp.lastSave_of_not_changes own] at next
        exact ⟨next, by simpa [own] using quiet⟩
  exact (kept _ unsaved _ last).2

end AdminState.SavedAt

end History

/-! ## The invariant -/

namespace AdminTask

/-- The save whose probe this is or will be, until its models are stored. -/
def carries? : AdminTask → Option (BackendEntry × Nat)
  | .post (.commit entry since _) => some (entry, since)
  | .probe _ _ (.commit _) => none
  | .probe entry since _ => some (entry, since)
  | _ => none

/-- The task carries the save that ended at this point of the history. -/
def carriesAt (since : Nat) (task : AdminTask) : Bool :=
  task.carries?.map Prod.snd = some since

/-- What a task relies on that brings models. -/
def Brings (state : AdminState) : AdminTask → Prop
  | .probe entry since (.check models) =>
      entry.models = [] ∧ models ≠ [] ∧
        ∀ op ∈ state.later since, op.saves entry.backendId = false
  | .probe entry since (.store models) =>
      entry.models = [] ∧ models ≠ [] ∧
        ∀ op ∈ state.later since, op.changes entry.backendId = false
  | _ => True

end AdminTask

/-- The save took place, and its entry is what is stored unless the id was changed since. -/
def AdminState.Carried (state : AdminState) (save : BackendEntry × Nat) : Prop :=
  state.SavedAt save.1 save.2 ∧
    ((∀ op ∈ state.later save.2, op.changes save.1.backendId = false) →
      BackendStore.find? state.entries save.1.backendId = some save.1)

/-- A stored entry is the last save of its id, or filled from it. -/
def AdminState.KeepsSaves (first : List BackendEntry) (state : AdminState) : Prop :=
  ∀ id stored, BackendStore.find? state.entries id = some stored →
    ∃ saved, state.lastSave first id = some saved ∧ saved.FilledFrom stored

structure ProbesSound (first : List BackendEntry) (pool : AdminPool) : Prop where
  keeps : pool.shared.KeepsSaves first
  /-- A save has one probe. -/
  single (since : Nat) : pool.threads.countP (AdminTask.carriesAt since) ≤ 1
  carried : ∀ task ∈ pool.threads, ∀ save, task.carries? = some save → pool.shared.Carried save
  brings : ∀ task ∈ pool.threads, task.Brings pool.shared

section Steps

variable {host : Host} {env : ProcessEnv} {yaml : SerdeYaml} {input : AdminInput}
  {first : List BackendEntry} {state : AdminState} {op : AdminOp} {task : AdminTask}
  {step : AdminStep}

theorem AdminTask.carries?_of_reads (reads : task.onStore = false) : task.carries? = none := by
  cases task <;> first | rfl | cases reads

theorem AdminTask.brings_of_reads (reads : task.onStore = false) : task.Brings state := by
  cases task <;> trivial

/-- What a step makes of the save that its task carries. -/
theorem carries_step (steps : task.step host env yaml input state = some step) :
    (∃ entry, task = .post (.store entry) ∧
        step = ⟨.save entry, .post (.commit entry (state.history.length + 1) .save), []⟩) ∨
      ((step.next :: step.forked).filterMap AdminTask.carries?).Sublist task.carries?.toList := by
  cases kind : task.onStore with
  | false =>
      right
      rw [List.filterMap_eq_nil_iff.mpr fun other mem =>
        AdminTask.carries?_of_reads ((AdminTask.step_reads kind steps).2 other mem)]
      exact List.nil_sublist _
  | true =>
      cases AdminTask.storeStep kind steps with
      | saved entry => exact Or.inl ⟨entry, rfl, rfl⟩
      | _ =>
          right
          simp [AdminTask.carries?, List.filterMap_cons]

/-- How a task comes to bring models: its test finds them, or its check finds the id. -/
theorem brings_cases (steps : task.step host env yaml input state = some step) :
    (∀ other ∈ step.next :: step.forked, ∀ state, other.Brings state) ∨
      (∃ entry since models, task = .probe entry since .test ∧
        ProbeStage.findsModels env input entry = true ∧ models ≠ [] ∧ entry.models = [] ∧
        step.next = .probe entry since (.check models) ∧ step.forked = []) ∨
      ∃ entry since models, task = .probe entry since (.check models) ∧
        BackendStore.hasId state.list entry.backendId = true ∧
        step.next = .probe entry since (.store models) ∧ step.forked = [] := by
  cases kind : task.onStore with
  | false =>
      exact Or.inl fun other mem _ =>
        AdminTask.brings_of_reads ((AdminTask.step_reads kind steps).2 other mem)
  | true =>
      cases AdminTask.storeStep kind steps with
      | tested entry since status finds found missing =>
          exact Or.inr (Or.inl ⟨entry, since, _, rfl, finds, found, missing, rfl, rfl⟩)
      | checked entry since models listed =>
          exact Or.inr (Or.inr ⟨entry, since, models, rfl, listed, rfl, rfl⟩)
      | _ =>
          left
          simp [AdminTask.Brings]

/-! ### What the operations keep -/

theorem AdminOp.not_changes_of_quiet (quiet : op.onEntries = false) (id : String) :
    op.changes id = false := by
  cases op <;> first | rfl | cases quiet

theorem AdminOp.saves_of_not_changes {id : String} (quiet : op.changes id = false) :
    op.saves id = false := by
  cases op <;> first | rfl | exact quiet

theorem AdminState.Carried.perform {save : BackendEntry × Nat} (carried : state.Carried save)
    (keeps : (∀ other ∈ state.later save.2, other.changes save.1.backendId = false) →
      op.changes save.1.backendId = false →
        BackendStore.find? (state.perform op).entries save.1.backendId =
          BackendStore.find? state.entries save.1.backendId) :
    (state.perform op).Carried save := by
  refine ⟨carried.1.perform op, fun quiet => ?_⟩
  rw [AdminState.later_perform carried.1.bound] at quiet
  have before : ∀ other ∈ state.later save.2, other.changes save.1.backendId = false :=
    fun other mem => quiet other (by simp [mem])
  rw [keeps before (quiet op (by simp))]
  exact carried.2 before

theorem AdminTask.Brings.perform (brings : task.Brings state)
    (bound : ∀ save, task.carries? = some save → save.2 ≤ state.history.length)
    (unsaved : ∀ id, task.bringsModels id = true → op.saves id = false)
    (unchanged : ∀ id, task.hasChecked id = true → op.changes id = false) :
    task.Brings (state.perform op) := by
  cases task with
  | probe entry since stage =>
      cases stage with
      | check models =>
          obtain ⟨missing, found, quiet⟩ := brings
          exact ⟨missing, found, AdminState.forall_later_perform (bound _ rfl) quiet
            (unsaved entry.backendId (by simp [AdminTask.bringsModels]))⟩
      | store models =>
          obtain ⟨missing, found, quiet⟩ := brings
          exact ⟨missing, found, AdminState.forall_later_perform (bound _ rfl) quiet
            (unchanged entry.backendId (by simp [AdminTask.hasChecked]))⟩
      | _ => trivial
  | _ => trivial

theorem AdminState.KeepsSaves.quiet (keeps : state.KeepsSaves first)
    (quiet : op.onEntries = false) : (state.perform op).KeepsSaves first := by
  intro id stored found
  rw [AdminState.entries_perform quiet] at found
  rw [AdminState.lastSave_perform,
    AdminOp.lastSave_of_not_changes (AdminOp.not_changes_of_quiet quiet id)]
  exact keeps id stored found

theorem AdminState.KeepsSaves.save (keeps : state.KeepsSaves first) (entry : BackendEntry) :
    (state.perform (.save entry)).KeepsSaves first := by
  intro id stored found
  rw [AdminState.lastSave_perform]
  by_cases same : id = entry.backendId
  · subst same
    have now : stored = entry :=
      Option.some.inj (found.symm.trans (BackendStore.find?_upsertEntry_self entry state.entries))
    exact ⟨entry, by simp [AdminOp.lastSave], Or.inl now⟩
  · have before := (BackendStore.find?_upsertEntry_ne same state.entries).symm.trans found
    simpa [AdminOp.lastSave, Ne.symm same] using keeps id stored before

theorem AdminState.KeepsSaves.remove (keeps : state.KeepsSaves first) (gone : String) :
    (state.perform (.remove gone)).KeepsSaves first := by
  intro id stored found
  rw [AdminState.lastSave_perform]
  by_cases same : id = gone
  · subst same
    have nothing := BackendStore.find?_removeEntry_self id state.entries
    cases nothing.symm.trans found
  · have before := (BackendStore.find?_removeEntry_ne same state.entries).symm.trans found
    simpa [AdminOp.lastSave, Ne.symm same] using keeps id stored before

/-- Models for the entry that was saved last, when it was saved without. -/
theorem AdminState.KeepsSaves.fill (keeps : state.KeepsSaves first) {entry : BackendEntry}
    (last : state.lastSave first entry.backendId = some entry) (missing : entry.models = [])
    (models : List String) :
    (state.perform (.fill { entry with models := models })).KeepsSaves first := by
  intro id stored found
  rw [AdminState.lastSave_perform]
  by_cases same : id = entry.backendId
  · subst same
    have now : stored = { entry with models := models } :=
      Option.some.inj (found.symm.trans
        (BackendStore.find?_upsertEntry_self { entry with models := models } state.entries))
    exact ⟨entry, last, Or.inr ⟨missing, models, now⟩⟩
  · have apart : id ≠ { entry with models := models }.backendId := same
    exact keeps id stored ((BackendStore.find?_upsertEntry_ne apart state.entries).symm.trans found)

/-! ### One turn -/

variable {pool : AdminPool} {index : Nat}

theorem countP_carriesAt (since : Nat) (tasks : List AdminTask) :
    tasks.countP (AdminTask.carriesAt since) =
      (tasks.filterMap AdminTask.carries?).countP fun save => save.2 = since := by
  rw [List.countP_filterMap]
  congr 1
  funext task
  unfold AdminTask.carriesAt
  cases task.carries? <;> simp

/-- The tasks after a turn carry no save twice. -/
theorem ProbesSound.single_turn (sound : ProbesSound first pool)
    (found : pool.threads[index]? = some task)
    (steps : task.step host env yaml input pool.shared = some step) (since : Nat) :
    (afterTurn pool.threads index (step.turn pool.shared)).countP (AdminTask.carriesAt since) ≤
      1 := by
  have counted :
      (afterTurn pool.threads index (step.turn pool.shared)).countP (AdminTask.carriesAt since) +
          (if AdminTask.carriesAt since task then 1 else 0) =
        pool.threads.countP (AdminTask.carriesAt since) +
          (if AdminTask.carriesAt since step.next then 1 else 0) +
            step.forked.countP (AdminTask.carriesAt since) :=
    countP_afterTurn (AdminTask.carriesAt since) (step.turn pool.shared) found
  have before := sound.single since
  rcases carries_step steps with ⟨entry, rfl, rfl⟩ | fewer
  · have own : AdminTask.carriesAt since (.post (.store entry)) = false := rfl
    by_cases fresh : since = pool.shared.history.length + 1
    · have none : pool.threads.countP (AdminTask.carriesAt since) = 0 := by
        rw [List.countP_eq_zero]
        intro other mem carries
        obtain ⟨save, carried, late⟩ : ∃ save, other.carries? = some save ∧ save.2 = since := by
          simpa [AdminTask.carriesAt] using carries
        have bound := (sound.carried other mem save carried).1.bound
        omega
      cases next : AdminTask.carriesAt since
          (.post (.commit entry (pool.shared.history.length + 1) .save)) <;>
        simp only [own, next, none, List.countP_nil, Bool.false_eq_true, ↓reduceIte] at counted <;>
        omega
    · have next : AdminTask.carriesAt since
          (.post (.commit entry (pool.shared.history.length + 1) .save)) = false := by
        simpa [AdminTask.carriesAt, AdminTask.carries?] using Ne.symm fresh
      simp only [own, next, List.countP_nil, Bool.false_eq_true, ↓reduceIte] at counted
      omega
  · have less := fewer.countP_le (p := fun save => decide (save.2 = since))
    have children := countP_carriesAt since (step.next :: step.forked)
    have mine := countP_carriesAt since [task]
    have single : [task].filterMap AdminTask.carries? = task.carries?.toList := by
      cases carried : task.carries? <;> simp [carried]
    rw [single, List.countP_singleton] at mine
    rw [List.countP_cons] at children
    omega

/-- A task that brings models carries a save, so it knows a point of the history. -/
theorem ProbesSound.bound (sound : ProbesSound first pool) {other : AdminTask}
    (mem : other ∈ pool.threads) (save : BackendEntry × Nat)
    (carries : other.carries? = some save) : save.2 ≤ pool.shared.history.length :=
  (sound.carried other mem save carries).1.bound

/-- What the stepping task and its children carry, it carried before. -/
theorem ProbesSound.carried_step (sound : ProbesSound first pool)
    (found : pool.threads[index]? = some task)
    (fewer : ((step.next :: step.forked).filterMap AdminTask.carries?).Sublist
      task.carries?.toList) :
    ∀ other ∈ step.next :: step.forked, ∀ save, other.carries? = some save →
      pool.shared.Carried save := by
  intro other mem save carries
  have carried : save ∈ task.carries?.toList :=
    fewer.subset (List.mem_filterMap.mpr ⟨other, mem, carries⟩)
  exact sound.carried task (List.mem_of_getElem? found) save (Option.mem_toList.mp carried)

theorem AdminState.Carried.quiet {state : AdminState} {save : BackendEntry × Nat} {op : AdminOp}
    (carried : state.Carried save) (quiet : op.onEntries = false) :
    (state.perform op).Carried save :=
  carried.perform fun _ _ => by rw [AdminState.entries_perform quiet]

/-- What brings models, as a task in the pool or the next stage of one, still does so when
the entries are left alone. -/
theorem ProbesSound.brings_quiet (sound : ProbesSound first pool) {other known : AdminTask}
    {op : AdminOp} (quiet : op.onEntries = false) (mem : known ∈ pool.threads)
    (same : other.carries? = known.carries?) (brings : other.Brings pool.shared) :
    other.Brings (pool.shared.perform op) :=
  brings.perform (same ▸ sound.bound mem)
    (fun id _ => AdminOp.saves_of_not_changes (AdminOp.not_changes_of_quiet quiet id))
    (fun id _ => AdminOp.not_changes_of_quiet quiet id)

/-- A turn that leaves the entries alone. -/
theorem ProbesSound.turn_quiet (sound : ProbesSound first pool)
    (may : undisturbed host env pool (.turn index input) = true)
    (found : pool.threads[index]? = some task)
    (steps : task.step host env yaml input pool.shared = some step)
    (quiet : step.op.onEntries = false) :
    ProbesSound first ⟨pool.shared.perform step.op,
      afterTurn pool.threads index (step.turn pool.shared)⟩ where
  keeps := sound.keeps.quiet quiet
  single := sound.single_turn found steps
  carried := by
    have own : ∀ other ∈ step.next :: step.forked, ∀ save, other.carries? = some save →
        (pool.shared.perform step.op).Carried save := by
      rcases carries_step steps with ⟨entry, -, rfl⟩ | fewer
      · cases quiet
      · exact fun other mem save carries =>
          (sound.carried_step found fewer other mem save carries).quiet quiet
    exact forall_mem_afterTurn
      (fun other mem save carries => (sound.carried other mem save carries).quiet quiet)
      (own _ (by simp [AdminStep.turn])) fun child mem => own child (List.mem_cons_of_mem _ mem)
  brings := by
    have others : ∀ other ∈ pool.threads, other.Brings (pool.shared.perform step.op) :=
      fun other mem => sound.brings_quiet quiet mem rfl (sound.brings other mem)
    rcases brings_cases steps with
      trivially | ⟨entry, since, models, rfl, finds, some, missing, next, childless⟩ |
        ⟨entry, since, models, rfl, listed, next, childless⟩
    · exact forall_mem_afterTurn others (trivially _ (by simp [AdminStep.turn]) _)
        fun child mem => trivially child (List.mem_cons_of_mem _ mem) _
    · have unsaved : ∀ op ∈ pool.shared.later since, op.saves entry.backendId = false := by
        simpa [undisturbed, found, finds] using may
      have now : AdminTask.Brings pool.shared (.probe entry since (.check models)) :=
        ⟨missing, some, unsaved⟩
      refine forall_mem_afterTurn others ?_ (by simp [AdminStep.turn, childless])
      rw [AdminStep.turn, next]
      exact sound.brings_quiet quiet (List.mem_of_getElem? found) rfl now
    · obtain ⟨missing, some, unsaved⟩ := sound.brings _ (List.mem_of_getElem? found)
      obtain ⟨saved, -⟩ := sound.carried _ (List.mem_of_getElem? found) (entry, since) rfl
      have stored : (BackendStore.find? pool.shared.entries entry.backendId).isSome = true := by
        rw [BackendStore.find?_isSome, ← BackendStore.hasId_sortEntries]
        exact listed
      obtain ⟨stored, isStored⟩ := Option.isSome_iff_exists.mp stored
      obtain ⟨last, isLast, -⟩ := sound.keeps _ stored isStored
      have now : AdminTask.Brings pool.shared (.probe entry since (.store models)) :=
        ⟨missing, some, saved.unchanged unsaved isLast⟩
      refine forall_mem_afterTurn others ?_ (by simp [AdminStep.turn, childless])
      rw [AdminStep.turn, next]
      exact sound.brings_quiet quiet (List.mem_of_getElem? found) rfl now

theorem AdminTask.bringsModels_of_hasChecked {id : String} (checked : task.hasChecked id = true) :
    task.bringsModels id = true := by
  cases task with
  | probe entry since stage => cases stage <;> first | exact checked | cases checked
  | _ => cases checked

/-- A handler stores an entry. -/
theorem ProbesSound.turn_save (sound : ProbesSound first pool) {entry : BackendEntry}
    (may : undisturbed host env pool (.turn index input) = true)
    (found : pool.threads[index]? = some (.post (.store entry)))
    (steps : AdminTask.step host env yaml input pool.shared (.post (.store entry)) = some step) :
    ProbesSound first ⟨pool.shared.perform step.op,
      afterTurn pool.threads index (step.turn pool.shared)⟩ where
  keeps := by
    obtain rfl := Option.some.inj steps
    exact sound.keeps.save entry
  single := sound.single_turn found steps
  carried := by
    obtain rfl := Option.some.inj steps
    refine forall_mem_afterTurn (fun other mem save carries => ?_) ?_
      (by simp [PostStage.step, AdminStep.turn])
    · refine (sound.carried other mem save carries).perform fun _ unchanged => ?_
      have differ : save.1.backendId ≠ entry.backendId := by
        simpa [PostStage.step, AdminOp.changes, eq_comm] using unchanged
      exact BackendStore.find?_upsertEntry_ne differ pool.shared.entries
    · intro save carries
      obtain rfl := Option.some.inj carries
      exact ⟨AdminState.SavedAt.self pool.shared entry,
        fun _ => BackendStore.find?_upsertEntry_self entry pool.shared.entries⟩
  brings := by
    obtain rfl := Option.some.inj steps
    have free : ∀ other ∈ pool.threads, other.bringsModels entry.backendId = false := by
      simpa [undisturbed, found] using may
    have apart {other : AdminTask} (mem : other ∈ pool.threads) (id : String)
        (brings : other.bringsModels id = true) : entry.backendId ≠ id := by
      rintro rfl
      rw [free other mem] at brings
      cases brings
    refine forall_mem_afterTurn (fun other mem => ?_) trivial
      (by simp [PostStage.step, AdminStep.turn])
    refine (sound.brings other mem).perform (sound.bound mem) (fun id brings => ?_)
      (fun id checked => ?_)
    · simpa [PostStage.step, AdminOp.saves] using apart mem id brings
    · simpa [PostStage.step, AdminOp.changes] using
        apart mem id (AdminTask.bringsModels_of_hasChecked checked)

/-- A handler deletes an id. -/
theorem ProbesSound.turn_remove (sound : ProbesSound first pool) {id : String}
    (may : undisturbed host env pool (.turn index input) = true)
    (found : pool.threads[index]? = some (.delete id .remove))
    (steps : AdminTask.step host env yaml input pool.shared (.delete id .remove) =
      some ⟨.remove id, .delete id (.commit .save), []⟩) :
    ProbesSound first ⟨pool.shared.perform (.remove id), afterTurn pool.threads index
      (AdminStep.turn pool.shared ⟨.remove id, .delete id (.commit .save), []⟩)⟩ where
  keeps := sound.keeps.remove id
  single := sound.single_turn found steps
  carried := by
    refine forall_mem_afterTurn (fun other mem save carries => ?_)
      (fun save carries => by cases carries) (by simp [AdminStep.turn])
    refine (sound.carried other mem save carries).perform fun _ unchanged => ?_
    have differ : save.1.backendId ≠ id := by
      simpa [AdminOp.changes, eq_comm] using unchanged
    exact BackendStore.find?_removeEntry_ne differ pool.shared.entries
  brings := by
    have free : ∀ other ∈ pool.threads, other.hasChecked id = false := by
      simpa [undisturbed, found] using may
    refine forall_mem_afterTurn (fun other mem => ?_) trivial (by simp [AdminStep.turn])
    refine (sound.brings other mem).perform (sound.bound mem) (fun _ _ => rfl)
      (fun other checked => ?_)
    have differ : id ≠ other := by
      rintro rfl
      rw [free _ mem] at checked
      cases checked
    simpa [AdminOp.changes] using differ

/-- Two saves without later changes of their common id are one save. -/
theorem AdminState.SavedAt.since_eq {entry other : BackendEntry} {since later : Nat}
    (saved : state.SavedAt entry since) (again : state.SavedAt other later)
    (same : other.backendId = entry.backendId)
    (quiet : ∀ op ∈ state.later since, op.changes entry.backendId = false)
    (quietAgain : ∀ op ∈ state.later later, op.changes other.backendId = false) :
    since = later := by
  rcases Nat.lt_trichotomy since later with before | equal | after
  · have := quiet _ (again.mem_later before)
    simp [AdminOp.changes, same] at this
  · exact equal
  · have := quietAgain _ (saved.mem_later after)
    simp [AdminOp.changes, same] at this

/-- A probe that may still store its models finds the entry that it was started for. -/
theorem ProbesSound.find?_of_store (sound : ProbesSound first pool) {entry : BackendEntry}
    {since : Nat} {models : List String}
    (mem : AdminTask.probe entry since (.store models) ∈ pool.threads) :
    pool.shared.SavedAt entry since ∧
      (∀ op ∈ pool.shared.later since, op.changes entry.backendId = false) ∧
      entry.models = [] ∧ models ≠ [] ∧
      BackendStore.find? pool.shared.entries entry.backendId = some entry := by
  obtain ⟨saved, untouched⟩ := sound.carried _ mem (entry, since) rfl
  obtain ⟨missing, some, quiet⟩ := sound.brings _ mem
  exact ⟨saved, quiet, missing, some, untouched quiet⟩

/-- A probe stores its entry again. -/
theorem ProbesSound.turn_fill (sound : ProbesSound first pool) {entry : BackendEntry}
    {since : Nat} {models : List String}
    (found : pool.threads[index]? = some (.probe entry since (.store models)))
    (steps : AdminTask.step host env yaml input pool.shared (.probe entry since (.store models)) =
      some step) :
    ProbesSound first ⟨pool.shared.perform step.op,
      afterTurn pool.threads index (step.turn pool.shared)⟩ where
  keeps := by
    obtain ⟨saved, quiet, missing, -⟩ := sound.find?_of_store (List.mem_of_getElem? found)
    obtain rfl := Option.some.inj steps
    exact sound.keeps.fill (saved.lastSave_eq quiet) missing models
  single := sound.single_turn found steps
  carried := by
    obtain ⟨saved, quiet, -⟩ := sound.find?_of_store (List.mem_of_getElem? found)
    obtain rfl := Option.some.inj steps
    intro other mem save carries
    rcases mem_afterTurn mem with rfl | forked | ⟨position, differ, stays⟩
    · cases carries
    · cases forked
    · have carried := sound.carried other (List.mem_of_getElem? stays) save carries
      refine carried.perform fun untouched _ => ?_
      by_cases same : save.1.backendId = entry.backendId
      · -- One save has one probe, so the other task would be this one.
        have twice := saved.since_eq carried.1 same quiet untouched
        have counted := countP_afterTurn (AdminTask.carriesAt since)
          (AdminStep.turn pool.shared
            (ProbeStage.step host env yaml input pool.shared entry since (.store models))) found
        have before := sound.single since
        have own : AdminTask.carriesAt since (.probe entry since (.store models)) = true := by
          simp [AdminTask.carriesAt, AdminTask.carries?]
        have after : AdminTask.carriesAt since (.probe entry since (.commit .save)) = false := rfl
        have another := List.countP_pos_iff (p := AdminTask.carriesAt since) |>.mpr ⟨other, mem, by
          simp [AdminTask.carriesAt, carries, twice]⟩
        simp only [AdminStep.turn, ProbeStage.step, own, after, List.countP_nil, ↓reduceIte,
          Bool.false_eq_true] at counted another
        omega
      · exact BackendStore.find?_upsertEntry_ne
          (show save.1.backendId ≠ { entry with models := models }.backendId from same)
          pool.shared.entries
  brings := by
    obtain rfl := Option.some.inj steps
    refine forall_mem_afterTurn (fun other mem => ?_) trivial
      (by simp [ProbeStage.step, AdminStep.turn])
    exact (sound.brings other mem).perform (sound.bound mem) (fun _ _ => rfl) (fun _ _ => rfl)

theorem probesSound_inductive (host : Host) (env : ProcessEnv) (yaml : SerdeYaml)
    (store : BackendStore) (backends : RegistryInner) :
    ((adminProgram host env yaml).system (AdminPool.serving store backends)
      fun pool action => undisturbed host env pool action = true).Inductive
      (ProbesSound store.entries) := by
  refine inductive_of ?_ ?_ ?_
  · refine ⟨fun id stored found => ⟨stored, found, Or.inl rfl⟩, fun since => ?_, ?_, ?_⟩
    · exact Nat.zero_le 1
    · intro task mem save carries
      rw [List.mem_singleton.mp mem] at carries
      cases carries
    · intro task mem
      rw [List.mem_singleton.mp mem]
      trivial
  · intro pool task sound enters
    have idle : task.carries? = none ∧ ∀ state, task.Brings state := by
      rcases isRequest_cases enters with ⟨body, rfl⟩ | ⟨id, rfl⟩ | ⟨id, body, rfl⟩ <;>
        exact ⟨rfl, fun _ => trivial⟩
    refine ⟨sound.keeps, fun since => ?_, forall_mem_start sound.carried (by simp [idle.1]),
      forall_mem_start sound.brings (idle.2 _)⟩
    have carriesNot : AdminTask.carriesAt since task = false := by
      simp [AdminTask.carriesAt, idle.1]
    simpa [List.countP_append, carriesNot] using sound.single since
  · intro pool index input task turn may sound found advances
    obtain ⟨step, steps, rfl⟩ := advance_adminProgram advances
    cases stores : step.op.onEntries with
    | false => exact sound.turn_quiet may found steps stores
    | true =>
        rcases onEntries_cases steps stores with
          ⟨entry, rfl, -⟩ | ⟨entry, since, models, rfl, -⟩ | ⟨id, rfl, rfl⟩
        · exact sound.turn_save may found steps
        · exact sound.turn_fill found steps
        · exact sound.turn_remove may found steps

/-! ## The result -/

/--
The turn changes no entry but the one that the probe was started for, which is still
stored as it was saved and not changed since, and only adds models to it.
-/
def OnlyFills (pool next : AdminPool) (entry : BackendEntry) (since : Nat) : Prop :=
  ∀ id, BackendStore.find? next.shared.entries id ≠ BackendStore.find? pool.shared.entries id →
    id = entry.backendId ∧ BackendStore.find? pool.shared.entries id = some entry ∧
      pool.shared.SavedAt entry since ∧
      (∀ op ∈ pool.shared.later since, op.changes id = false) ∧ entry.models = [] ∧
      ∃ models, BackendStore.find? next.shared.entries id = some { entry with models := models }

theorem ProbesSound.onlyFills (sound : ProbesSound first pool) {entry : BackendEntry}
    {since : Nat} {stage : ProbeStage} {next : AdminPool}
    (found : pool.threads[index]? = some (.probe entry since stage))
    (moves : (adminProgram host env yaml).perform pool (.turn index input) = some next) :
    OnlyFills pool next entry since := by
  rcases perform_cases moves with
    ⟨task, same, -⟩ | ⟨position, given, task, turn, same, here, advances, rfl⟩
  · cases same
  · cases same
    obtain rfl := Option.some.inj (found.symm.trans here)
    obtain ⟨step, steps, rfl⟩ := advance_adminProgram advances
    intro id changed
    cases stores : step.op.onEntries with
    | false => exact absurd (by rw [AdminStep.turn, AdminState.entries_perform stores]) changed
    | true =>
        rcases onEntries_cases steps stores with
          ⟨_, other, -⟩ | ⟨_, _, models, own, rfl⟩ | ⟨_, other, -⟩
        · cases other
        · cases own
          obtain ⟨saved, quiet, missing, -, stored⟩ :=
            sound.find?_of_store (List.mem_of_getElem? found)
          by_cases same : id = entry.backendId
          · subst same
            exact ⟨rfl, stored, saved, quiet, missing, models,
              BackendStore.find?_upsertEntry_self { entry with models := models }
                pool.shared.entries⟩
          · exact absurd (BackendStore.find?_upsertEntry_ne
              (show id ≠ { entry with models := models }.backendId from same)
              pool.shared.entries) changed
        · cases other

/-- A save that has stored its entry goes on, and ends with 200. -/
theorem save_succeeds {entry : BackendEntry} {since : Nat} {stage : CommitStage}
    (may : undisturbed host env pool (.turn index input) = true)
    (found : pool.threads[index]? = some (.post (.commit entry since stage)))
    (steps : AdminTask.step host env yaml input pool.shared (.post (.commit entry since stage)) =
      some step) :
    (∃ stage, step.next = .post (.commit entry since stage)) ∨
      ∃ reply, step.next = .finished (some reply) ∧ reply.status = 200 := by
  have succeeds : stage.fails host env input pool.shared = false := by
    simpa [undisturbed, found] using may
  obtain rfl := Option.some.inj steps
  cases stage with
  | save => exact Or.inl ⟨_, rfl⟩
  | write entries =>
      have saved : input.outcome.succeeds = true := by
        simpa [CommitStage.fails] using succeeds
      exact Or.inl ⟨.rebuild, by simp [PostStage.step, CommitStage.step, saved]⟩
  | rebuild =>
      cases builds : buildBackends host.serde env pool.shared.list with
      | error error => simp [CommitStage.fails, builds, Except.toOption] at succeeds
      | ok built =>
          exact Or.inl ⟨.install built, by simp [PostStage.step, CommitStage.step, builds]⟩
  | install built => exact Or.inr ⟨_, rfl, rfl⟩

end Steps

/--
In undisturbed runs a probe only fills the entry that it was started for, as long as
that is the last one saved; every save succeeds; and every stored entry is the last save
of its id, up to models that were filled in.
-/
theorem write_back_keeps_newer (host : Host) (env : ProcessEnv) (yaml : SerdeYaml)
    (store : BackendStore) (backends : RegistryInner) {pool : AdminPool}
    (reached : ((adminProgram host env yaml).system (AdminPool.serving store backends)
      fun pool action => undisturbed host env pool action = true).Reachable pool) :
    (∀ index input entry since stage next,
      pool.threads[index]? = some (.probe entry since stage) →
      (adminProgram host env yaml).perform pool (.turn index input) = some next →
        OnlyFills pool next entry since) ∧
      (∀ index input entry since stage step,
        undisturbed host env pool (.turn index input) = true →
        pool.threads[index]? = some (.post (.commit entry since stage)) →
        AdminTask.step host env yaml input pool.shared (.post (.commit entry since stage)) =
            some step →
          (∃ stage, step.next = .post (.commit entry since stage)) ∨
            ∃ reply, step.next = .finished (some reply) ∧ reply.status = 200) ∧
      pool.shared.KeepsSaves store.entries := by
  have sound := (probesSound_inductive host env yaml store backends).reachable reached
  exact ⟨fun _ _ _ _ _ _ found moves => sound.onlyFills found moves,
    fun _ _ _ _ _ _ may found steps => save_succeeds may found steps, sound.keeps⟩

/-- The executor is saved, and its probe stores the model. -/
def filledEnd : Option AdminPool :=
  (adminProgram Host.compact .none .compact).follow
    (fun pool action => undisturbed Host.compact .none pool action = true)
    (.start (.post (.read (pairBody "http://10.0.0.5/v1"))) :: turns 1 6 ++ probeAnswer 2 ::
      turns 2 2)
    emptyServer

theorem filledEnd_isSome : filledEnd.isSome := by decide

theorem filledEnd_reachable : ((adminProgram Host.compact .none .compact).system emptyServer
    fun pool action => undisturbed Host.compact .none pool action = true).Reachable
      (filledEnd.get filledEnd_isSome) :=
  get_follow_reachable filledEnd_isSome

/-- After the probe the executor is stored with its model, and that is its last save, filled. -/
theorem write_back_fills_saved :
    BackendStore.find? (filledEnd.get filledEnd_isSome).shared.entries "pair-home-1" =
        some { provider := "pair", id := some "pair-home-1", models := ["qwen3"],
               baseUrl := some "http://10.0.0.5/v1" } ∧
      (filledEnd.get filledEnd_isSome).shared.KeepsSaves [] :=
  ⟨by decide, (write_back_keeps_newer Host.compact .none .compact ⟨[], ⟨none, none⟩⟩ .empty
    filledEnd_reachable).2.2⟩

/-- The executor moves to another address before its first probe comes back. -/
def movedEnd : Option AdminPool :=
  (adminProgram Host.compact .none .compact).follow anySchedule
    (.start (.post (.read (pairBody "http://10.0.0.5/v1"))) :: turns 1 6 ++
      .start (.post (.read (pairBody "http://10.0.0.6/v1"))) :: turns 3 6 ++
        probeAnswer 2 :: turns 2 2)
    emptyServer

theorem movedEnd_isSome : movedEnd.isSome := by decide

theorem movedEnd_reachable : ((adminProgram Host.compact .none .compact).system emptyServer
    anySchedule).Reachable (movedEnd.get movedEnd_isSome) :=
  get_follow_reachable movedEnd_isSome

/-- Without restriction a probe puts an overwritten entry back. -/
theorem write_back_clobbers :
    ¬ ∀ host env yaml (store : BackendStore) backends pool,
      ((adminProgram host env yaml).system (AdminPool.serving store backends)
        anySchedule).Reachable pool →
      (∀ index input entry since stage next,
        pool.threads[index]? = some (.probe entry since stage) →
        (adminProgram host env yaml).perform pool (.turn index input) = some next →
          OnlyFills pool next entry since) ∧
        pool.shared.KeepsSaves store.entries := by
  intro neverClobbers
  have keeps := (neverClobbers _ _ _ _ _ _ movedEnd_reachable).2
  obtain ⟨saved, last, filled⟩ := keeps "pair-home-1"
    { provider := "pair", id := some "pair-home-1", models := ["qwen3"],
      baseUrl := some "http://10.0.0.5/v1" } (by decide)
  have moved : AdminState.lastSave [] (movedEnd.get movedEnd_isSome).shared "pair-home-1" =
      some { provider := "pair", id := some "pair-home-1",
             baseUrl := some "http://10.0.0.6/v1" } := by decide
  obtain rfl := Option.some.inj (moved.symm.trans last)
  rcases filled with same | ⟨-, models, same⟩
  · cases same
  · have address : "http://10.0.0.5/v1" = "http://10.0.0.6/v1" :=
      Option.some.inj (congrArg BackendEntry.baseUrl same)
    exact absurd address (by decide)

end AiPowerGateway.Share

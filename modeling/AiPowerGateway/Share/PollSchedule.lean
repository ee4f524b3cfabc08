import AiPowerGateway.Collections.Accumulators
import AiPowerGateway.Share.AdminTasks
import AiPowerGateway.Systems.EventRuns

/-!
# When the poller probes

The scheduling loop together with its clock.  A pass visits the backends that were polled
when it began; a visit leads to a probe when none was made in this loop, or the last one is
an interval ago.  The panel may change entries and configurations between any two turns.
-/

namespace AiPowerGateway.Share

open Accumulators Systems EventRuns

/-! ## The loop with its clock -/

/-- Instants and durations are counted in nanoseconds. -/
def nanosPerSecond : Nat := 10 ^ 9

/-- How long a backend is left alone after a probe. -/
def PollConfig.interval (cfg : PollConfig) : Nat :=
  max cfg.pollIntervalSecs.toNat 1 * nanosPerSecond

/-- One turn of the loop: what it reads, and what its clock shows. -/
structure PollTurn where
  state : AdminState
  input : AdminInput
  /-- The time since the turn before. -/
  waited : Nat
  /-- The time between the two looks at the clock of a visit. -/
  lag : Nat

/-- A backend that the loop found in the list; `marked` is when a probe of it began. -/
structure PollVisit where
  id : String
  now : Nat
  interval : Nat
  marked : Option Nat
  deriving DecidableEq, Repr

structure PollLoop where
  lastPoll : HashMap Nat := ∅
  /-- Nothing when the loop has left. -/
  stage : Option PollStage := some .collect
  clock : Nat := 0

namespace PollLoop

def due (lastPoll : HashMap Nat) (id : String) (cfg : PollConfig) (now : Nat) : Bool :=
  match lastPoll.lookup id with
  | none => true
  | some mark => cfg.interval ≤ now - mark

/-- The stage after one that does not look at the clock. -/
def nextStage (env : ProcessEnv) (turn : PollTurn) (stage : PollStage) : Option PollStage :=
  match (stage.step env turn.input turn.state []).next with
  | .poll _ next => some next
  | _ => none

/-- One turn, and the visit that was made in it. -/
def turn (env : ProcessEnv) (turn : PollTurn) (loop : PollLoop) : PollLoop × Option PollVisit :=
  let now := loop.clock + turn.waited
  match loop.stage with
  | none => ({ loop with clock := now }, none)
  | some (.visit (id :: ids) entries) =>
      match BackendStore.find? entries id with
      | none => (⟨loop.lastPoll, some (.visit ids entries), now⟩, none)
      | some entry =>
          let cfg := turn.state.health.config id entry.isExecutor
          if due loop.lastPoll id cfg now then
            (⟨loop.lastPoll.insert id (now + turn.lag),
              some (.probe ⟨id, entry, cfg, turn.state.history.length⟩ ids entries),
              now + turn.lag⟩, some ⟨id, now, cfg.interval, some (now + turn.lag)⟩)
          else
            (⟨loop.lastPoll, some (.visit ids entries), now⟩, some ⟨id, now, cfg.interval, none⟩)
  -- the pass is over, and the loop sleeps
  | some (.visit [] _) => (⟨loop.lastPoll, some .collect, now + nanosPerSecond⟩, none)
  | some stage => (⟨loop.lastPoll, nextStage env turn stage, now⟩, none)

end PollLoop

/-! ## Its turns are turns of the poller -/

/-- The interval of the backend that is visited is over. -/
def PollLoop.elapsed (turn : PollTurn) (loop : PollLoop) : Bool :=
  match loop.stage with
  | some (.visit (id :: _) entries) =>
      (BackendStore.find? entries id).any fun entry =>
        due loop.lastPoll id (turn.state.health.config id entry.isExecutor)
          (loop.clock + turn.waited)
  | _ => false

/-- The loop is where the task of the poller is, and knows the same backends. -/
def PollLoop.Shows (loop : PollLoop) : AdminTask → Prop
  | .poll lastPoll stage =>
      loop.stage = some stage ∧ ∀ id, id ∈ lastPoll ↔ (loop.lastPoll.lookup id).isSome
  | .finished none => loop.stage = none
  | _ => False

/-- The task after a turn, where it has one. -/
def AdminTask.after (host : Host) (env : ProcessEnv) (yaml : SerdeYaml)
    (turn : AdminInput × AdminState) (task : AdminTask) : AdminTask :=
  ((task.step host env yaml turn.1 turn.2).map (·.next)).getD task

section Simulation

variable {env : ProcessEnv} {turn : PollTurn} {loop : PollLoop} {stage : PollStage}
  {ids : List String}

theorem shows_same {next : PollStage} (held : ∀ id, id ∈ ids ↔ (loop.lastPoll.lookup id).isSome)
    (clock : Nat) : PollLoop.Shows ⟨loop.lastPoll, some next, clock⟩ (.poll ids next) :=
  ⟨rfl, held⟩

theorem shows_visit {id : String} {rest : List String} {entries : List BackendEntry}
    (at_visit : loop.stage = some (.visit (id :: rest) entries))
    (held : ∀ id, id ∈ ids ↔ (loop.lastPoll.lookup id).isSome) :
    (loop.turn env turn).1.Shows
      ((PollStage.visit (id :: rest) entries).step env
        { turn.input with elapsed := loop.elapsed turn } turn.state ids).next := by
  cases found : BackendStore.find? entries id with
  | none =>
      simp only [PollLoop.turn, at_visit, PollStage.step, found]
      exact shows_same held _
  | some entry =>
      simp only [PollLoop.turn, PollLoop.elapsed, at_visit, PollStage.step, found, Option.any_some]
      cases isDue : PollLoop.due loop.lastPoll id (turn.state.health.config id entry.isExecutor)
          (loop.clock + turn.waited) with
      | true =>
          simp only [Bool.or_true, if_true]
          refine ⟨rfl, fun other => ?_⟩
          rw [List.mem_cons]
          by_cases same : other = id
          · subst same
            simp
          · rw [AList.lookup_insert_ne same, held]
            exact or_iff_right same
      | false =>
          have known : id ∈ ids := by
            rw [held]
            by_contra unknown
            rw [Option.not_isSome_iff_eq_none] at unknown
            simp [PollLoop.due, unknown] at isDue
          simp only [known, not_true_eq_false, decide_false, Bool.or_self, Bool.false_eq_true,
            if_false]
          exact shows_same held _

theorem shows_turn (at_stage : loop.stage = some stage)
    (held : ∀ id, id ∈ ids ↔ (loop.lastPoll.lookup id).isSome) :
    (loop.turn env turn).1.Shows
      (stage.step env { turn.input with elapsed := loop.elapsed turn } turn.state ids).next := by
  cases stage with
  | visit rest entries =>
      cases rest with
      | cons id rest => exact shows_visit at_stage held
      | nil =>
          simp only [PollLoop.turn, at_stage]
          exact shows_same held _
  | filter remaining enabled =>
      simp only [PollLoop.turn, at_stage]
      cases remaining <;> exact shows_same held _
  | leave =>
      simp only [PollLoop.turn, at_stage]
      rfl
  | recheck current observed rest entries =>
      simp only [PollLoop.turn, at_stage, PollLoop.nextStage, PollStage.step]
      cases (turn.state.health.config current.id current.entry.isExecutor).enabled <;>
        exact shows_same held _
  | _ =>
      simp only [PollLoop.turn, at_stage]
      exact shows_same held _

theorem shows_after (host : Host) (yaml : SerdeYaml) {task : AdminTask}
    (shows : loop.Shows task) :
    (loop.turn env turn).1.Shows (task.after host env yaml
      ({ turn.input with elapsed := loop.elapsed turn }, turn.state)) := by
  cases task with
  | poll ids stage => exact shows_turn shows.1 shows.2
  | finished reply =>
      cases reply with
      | none =>
          have gone : loop.stage = none := shows
          simp only [PollLoop.turn, gone]
          rfl
      | some reply => cases shows
  | _ => cases shows

/-- The loop with its clock does what the poller's task does with fitting inputs. -/
theorem exists_shows_final (host : Host) (env : ProcessEnv) (yaml : SerdeYaml)
    (turns : List PollTurn) {task : AdminTask} (shows : loop.Shows task) :
    ∃ inputs : List (AdminInput × AdminState), inputs.map Prod.snd = turns.map PollTurn.state ∧
      (final (fun turn loop => (loop.turn env turn).1) turns loop).Shows
        (final (AdminTask.after host env yaml) inputs task) := by
  induction turns generalizing loop task with
  | nil => exact ⟨[], rfl, shows⟩
  | cons turn turns ih =>
      obtain ⟨inputs, states, shown⟩ := ih (shows_after host yaml shows)
      exact ⟨({ turn.input with elapsed := loop.elapsed turn }, turn.state) :: inputs,
        congrArg (turn.state :: ·) states, shown⟩

end Simulation

/-! ## A loop that is watched -/

/-- The loop, its visits, and its passes: when each began, and what the last one is about. -/
structure PollWatch where
  loop : PollLoop := {}
  visits : List PollVisit := []
  enabled : List String := []
  earlier : Nat := 0
  begun : List Nat := []

namespace PollWatch

def step (env : ProcessEnv) (turn : PollTurn) (watch : PollWatch) : PollWatch :=
  let taken := watch.loop.turn env turn
  match watch.loop.stage with
  | some (.snapshot enabled) =>
      { loop := taken.1, visits := watch.visits, enabled, earlier := watch.visits.length,
        begun := watch.begun ++ [taken.1.clock] }
  | _ => { watch with loop := taken.1, visits := watch.visits ++ taken.2.toList }

/-- The visits of the last pass. -/
def pass (watch : PollWatch) : List PollVisit := watch.visits.drop watch.earlier

end PollWatch

/-- When the visit marked a probe of the backend. -/
def PollVisit.markOf (id : String) (visit : PollVisit) : Option Nat :=
  if visit.id = id then visit.marked else none

/-- The visit probes when the interval since the last probe is over. -/
def PollVisit.Timely (before : List PollVisit) (visit : PollVisit) : Prop :=
  visit.marked.isSome ↔
    ∀ mark, last (PollVisit.markOf visit.id) before = some mark →
      mark + visit.interval ≤ visit.now

/-- What a stage has yet to visit in the pass, and the list it looks in. -/
def PollStage.rest? : PollStage → Option (List String × List BackendEntry)
  | .visit ids entries | .probe _ ids entries | .recheck _ _ ids entries | .write _ _ ids entries =>
      some (ids, entries)
  | _ => none

/-- What the loop has yet to visit in the pass, and the list it looks in. -/
def PollLoop.rest? (loop : PollLoop) : Option (List String × List BackendEntry) :=
  loop.stage.bind PollStage.rest?

/-! ## What every turn keeps -/

/-- Every visit probes when it is time. -/
def OnSchedule (visits : List PollVisit) : Prop :=
  ∀ before visit, before ++ [visit] <+: visits → visit.Timely before

theorem onSchedule_concat {visits : List PollVisit} {visit : PollVisit}
    (timely : OnSchedule visits) (next : visit.Timely visits) : OnSchedule (visits ++ [visit]) := by
  intro before other isPrefix
  rcases List.prefix_concat_iff.mp isPrefix with same | earlier
  · obtain ⟨rfl, whole⟩ := List.append_inj' same rfl
    obtain rfl := List.singleton_inj.mp whole
    exact next
  · exact timely before other earlier

namespace PollWatch

/-- The visits of the pass and what is left of it are the listed ones of the enabled backends. -/
def PassSound (watch : PollWatch) : Prop :=
  ∀ ids entries, watch.loop.rest? = some (ids, entries) →
    watch.pass.map PollVisit.id ++ ids.filter (BackendStore.hasId entries) =
      watch.enabled.filter (BackendStore.hasId entries)

/-- The last pass has begun, a second ago if it is over. -/
def BegunBefore (watch : PollWatch) : Prop :=
  ∀ instant ∈ watch.begun.getLast?,
    instant + (if watch.loop.rest?.isSome then 0 else nanosPerSecond) ≤ watch.loop.clock

structure Sound (watch : PollWatch) : Prop where
  table (id : String) :
    watch.loop.lastPoll.lookup id = last (PollVisit.markOf id) watch.visits
  timely : OnSchedule watch.visits
  earlier : watch.earlier ≤ watch.visits.length
  pass : watch.PassSound
  spaced : watch.begun.IsChain fun first next => first + nanosPerSecond ≤ next
  begun : watch.BegunBefore

end PollWatch

section Turns

variable {env : ProcessEnv} {turn : PollTurn} {watch : PollWatch} {loop : PollLoop}
  {ids rest : List String} {entries : List BackendEntry} {id : String}

theorem rest?_nextStage {stage : PollStage}
    (notVisit : ∀ ids entries, stage ≠ .visit ids entries)
    (notSnapshot : ∀ enabled, stage ≠ .snapshot enabled) :
    (PollLoop.nextStage env turn stage).bind PollStage.rest? = stage.rest? := by
  cases stage with
  | visit ids entries => exact absurd rfl (notVisit ids entries)
  | snapshot enabled => exact absurd rfl (notSnapshot enabled)
  | filter remaining enabled =>
      cases remaining with
      | cons entry remaining => rfl
      | nil =>
          by_cases none : enabled = []
          · rw [none]
            rfl
          · simp [PollLoop.nextStage, PollStage.step, none, PollStage.rest?]
  | recheck current observed ids entries =>
      simp only [PollLoop.nextStage, PollStage.step]
      cases (turn.state.health.config current.id current.entry.isExecutor).enabled <;> rfl
  | _ => rfl

/-- A turn that makes no visit and begins or ends no pass. -/
theorem PollWatch.Sound.quiet (sound : watch.Sound) (table : loop.lastPoll = watch.loop.lastPoll)
    (clock : watch.loop.clock ≤ loop.clock) (same : loop.rest? = watch.loop.rest?) :
    ({ watch with loop } : PollWatch).Sound where
  table id := by rw [table, sound.table id]
  timely := sound.timely
  earlier := sound.earlier
  pass ids entries left := sound.pass ids entries (same ▸ left)
  spaced := sound.spaced
  begun instant isLast := by
    rw [same]
    exact (sound.begun instant isLast).trans clock

/-- A turn that visits a listed backend. -/
theorem PollWatch.Sound.visited (sound : watch.Sound) {visit : PollVisit} {stage : PollStage}
    (left : watch.loop.rest? = some (id :: rest, entries))
    (stays : stage.rest? = some (rest, entries))
    (isId : visit.id = id) (listed : BackendStore.hasId entries id = true)
    (timely : visit.Timely watch.visits) {lastPoll : HashMap Nat} {clock : Nat}
    (table : ∀ other, lastPoll.lookup other =
      (visit.markOf other).or (watch.loop.lastPoll.lookup other))
    (later : watch.loop.clock ≤ clock) :
    ({ watch with loop := ⟨lastPoll, some stage, clock⟩, visits := watch.visits ++ [visit] }
      : PollWatch).Sound where
  table other := by rw [table, last_append, last_singleton, sound.table]
  timely := onSchedule_concat sound.timely timely
  earlier := by
    rw [List.length_append]
    exact sound.earlier.trans (Nat.le_add_right _ _)
  pass ids others remaining := by
    obtain ⟨rfl, rfl⟩ := Prod.mk.inj (Option.some.inj (stays.symm.trans remaining))
    have before := sound.pass _ _ left
    rw [List.filter_cons_of_pos listed] at before
    rw [← before, ← isId]
    simp [PollWatch.pass, List.drop_append_of_le_length sound.earlier]
  spaced := sound.spaced
  begun instant isLast := by
    have before := sound.begun instant isLast
    rw [left] at before
    rw [show PollLoop.rest? ⟨lastPoll, some stage, clock⟩ = some (rest, entries) from stays]
    exact before.trans later

/-- A turn of the loop where no visit is due or under way. -/
theorem turn_quiet {stage : PollStage} (at_stage : loop.stage = some stage)
    (notVisit : ∀ ids entries, stage ≠ .visit ids entries) :
    loop.turn env turn =
      (⟨loop.lastPoll, PollLoop.nextStage env turn stage, loop.clock + turn.waited⟩, none) := by
  cases stage with
  | visit ids entries => exact absurd rfl (notVisit ids entries)
  | _ => simp only [PollLoop.turn, at_stage]

theorem due_iff {lastPoll : HashMap Nat} {cfg : PollConfig} {now : Nat} :
    PollLoop.due lastPoll id cfg now = true ↔
      ∀ mark, lastPoll.lookup id = some mark → mark + cfg.interval ≤ now := by
  have positive : 0 < cfg.interval :=
    Nat.mul_pos (Nat.lt_of_lt_of_le Nat.one_pos (Nat.le_max_right _ _)) (by decide)
  cases known : lastPoll.lookup id with
  | none => simp [PollLoop.due, known]
  | some mark =>
      simp only [PollLoop.due, known, decide_eq_true_eq, Option.some.injEq, forall_eq']
      omega

/-- The source's test on the table is the one on the visits so far. -/
theorem PollWatch.Sound.timely_of (sound : watch.Sound) {cfg : PollConfig} {now : Nat}
    {marked : Option Nat}
    (due : marked.isSome = PollLoop.due watch.loop.lastPoll id cfg now) :
    PollVisit.Timely watch.visits ⟨id, now, cfg.interval, marked⟩ := by
  rw [PollVisit.Timely, due, due_iff, sound.table id]

theorem PollWatch.Sound.step_visit (sound : watch.Sound)
    (at_visit : watch.loop.stage = some (.visit (id :: rest) entries)) :
    (watch.step env turn).Sound := by
  have left : watch.loop.rest? = some (id :: rest, entries) := by
    rw [PollLoop.rest?, at_visit]
    rfl
  simp only [PollWatch.step, at_visit]
  cases found : BackendStore.find? entries id with
  | none =>
      have unlisted : BackendStore.hasId entries id = false := by
        rw [← BackendStore.find?_isSome, found]
        rfl
      simp only [PollLoop.turn, at_visit, found, Option.toList_none, List.append_nil]
      refine ⟨sound.table, sound.timely, sound.earlier, ?_, sound.spaced, ?_⟩
      · intro ids others remaining
        obtain ⟨rfl, rfl⟩ := Prod.mk.inj (Option.some.inj remaining)
        have before := sound.pass _ _ left
        rwa [List.filter_cons_of_neg (by simp [unlisted])] at before
      · intro instant isLast
        have before := sound.begun instant isLast
        rw [left] at before
        exact before.trans (Nat.le_add_right _ _)
  | some entry =>
      have listed : BackendStore.hasId entries id = true := by
        rw [← BackendStore.find?_isSome, found]
        rfl
      cases isDue : PollLoop.due watch.loop.lastPoll id
          (turn.state.health.config id entry.isExecutor) (watch.loop.clock + turn.waited) with
      | true =>
          simp only [PollLoop.turn, at_visit, found, isDue, if_true, Option.toList_some]
          refine sound.visited left rfl rfl listed (sound.timely_of (by rw [isDue]; rfl))
            (fun other => ?_) ?_
          · by_cases same : other = id
            · subst same
              simp [PollVisit.markOf]
            · rw [AList.lookup_insert_ne same, PollVisit.markOf, if_neg (Ne.symm same),
                Option.none_or]
          · omega
      | false =>
          simp only [PollLoop.turn, at_visit, found, isDue, Bool.false_eq_true, if_false,
            Option.toList_some]
          refine sound.visited left rfl rfl listed (sound.timely_of (by rw [isDue]; rfl))
            (fun other => ?_) ?_
          · simp [PollVisit.markOf]
          · exact Nat.le_add_right _ _

/-- The loop sleeps for a second at the end of a pass. -/
theorem PollWatch.Sound.step_over (sound : watch.Sound)
    (at_end : watch.loop.stage = some (.visit [] entries)) : (watch.step env turn).Sound := by
  simp only [PollWatch.step, at_end, PollLoop.turn, Option.toList_none, List.append_nil]
  refine ⟨sound.table, sound.timely, sound.earlier, ?_, sound.spaced, ?_⟩
  · intro ids others remaining
    cases remaining
  · intro instant isLast
    have before := sound.begun instant isLast
    rw [PollLoop.rest?, at_end] at before
    have reached : instant ≤ watch.loop.clock := before
    exact Nat.add_le_add_right (reached.trans (Nat.le_add_right _ _)) _

/-- A pass begins. -/
theorem PollWatch.Sound.step_snapshot (sound : watch.Sound) {enabled : List String}
    (at_snapshot : watch.loop.stage = some (.snapshot enabled)) : (watch.step env turn).Sound := by
  have spaced (instant : Nat) (isLast : instant ∈ watch.begun.getLast?) :
      instant + nanosPerSecond ≤ watch.loop.clock + turn.waited := by
    have before := sound.begun instant isLast
    rw [PollLoop.rest?, at_snapshot] at before
    exact before.trans (Nat.le_add_right _ _)
  simp only [PollWatch.step, at_snapshot,
    turn_quiet at_snapshot (fun _ _ => PollStage.noConfusion)]
  refine ⟨sound.table, sound.timely, le_rfl, ?_, ?_, ?_⟩
  · intro ids others remaining
    obtain ⟨rfl, rfl⟩ := Prod.mk.inj (Option.some.inj remaining)
    simp [PollWatch.pass]
  · refine List.isChain_append.mpr ⟨sound.spaced, List.isChain_singleton _, ?_⟩
    intro instant isLast next isNext
    obtain rfl := Option.some.inj isNext
    exact spaced instant isLast
  · intro instant isLast
    rw [List.getLast?_concat] at isLast
    obtain rfl := Option.some.inj isLast
    exact le_rfl

theorem PollWatch.Sound.step (sound : watch.Sound) : (watch.step env turn).Sound := by
  cases at_stage : watch.loop.stage with
  | none =>
      simp only [PollWatch.step, at_stage, PollLoop.turn, Option.toList_none, List.append_nil]
      refine sound.quiet rfl (Nat.le_add_right _ _) ?_
      rw [PollLoop.rest?, PollLoop.rest?, at_stage]
  | some stage =>
      by_cases visiting : ∃ ids entries, stage = .visit ids entries
      · obtain ⟨ids, entries, rfl⟩ := visiting
        cases ids with
        | nil => exact sound.step_over at_stage
        | cons id ids => exact sound.step_visit at_stage
      · have notVisit : ∀ ids entries, stage ≠ .visit ids entries := fun ids entries same =>
          visiting ⟨ids, entries, same⟩
        by_cases starting : ∃ enabled, stage = .snapshot enabled
        · obtain ⟨enabled, rfl⟩ := starting
          exact sound.step_snapshot at_stage
        · have notSnapshot : ∀ enabled, stage ≠ .snapshot enabled := fun enabled same =>
            starting ⟨enabled, same⟩
          have plain : watch.step env turn =
              { watch with loop := (watch.loop.turn env turn).1 } := by
            rw [PollWatch.step, at_stage, turn_quiet at_stage notVisit]
            cases stage with
            | snapshot enabled => exact absurd rfl (notSnapshot enabled)
            | _ => simp
          rw [plain, turn_quiet at_stage notVisit]
          refine sound.quiet rfl (Nat.le_add_right _ _) ?_
          rw [PollLoop.rest?, PollLoop.rest?, at_stage]
          exact rest?_nextStage notVisit notSnapshot

theorem PollWatch.Sound.final (sound : watch.Sound) (turns : List PollTurn) :
    (final (PollWatch.step env) turns watch).Sound := by
  induction turns generalizing watch with
  | nil => exact sound
  | cons turn turns ih => exact ih sound.step

end Turns

theorem sound_watch : PollWatch.Sound {} where
  table _ := rfl
  timely before visit isPrefix := by
    have empty := List.prefix_nil.mp isPrefix
    simp at empty
  earlier := le_rfl
  pass _ _ left := by cases left
  spaced := List.isChain_nil
  begun _ isLast := by cases isLast

theorem loop_step (env : ProcessEnv) (turn : PollTurn) (watch : PollWatch) :
    (watch.step env turn).loop = (watch.loop.turn env turn).1 := by
  unfold PollWatch.step
  cases at_stage : watch.loop.stage with
  | none => rfl
  | some stage => cases stage <;> rfl

theorem loop_final (env : ProcessEnv) (turns : List PollTurn) (watch : PollWatch) :
    (final (PollWatch.step env) turns watch).loop =
      final (fun turn loop => (loop.turn env turn).1) turns watch.loop := by
  induction turns generalizing watch with
  | nil => rfl
  | cons turn turns ih => rw [final_cons, ih, loop_step, final_cons]

/-- The loop that is watched is the poller's task, from where `ensure_running` starts it. -/
theorem watched_loop_shows_task (host : Host) (env : ProcessEnv) (yaml : SerdeYaml)
    (turns : List PollTurn) :
    ∃ inputs : List (AdminInput × AdminState), inputs.map Prod.snd = turns.map PollTurn.state ∧
      (final (PollWatch.step env) turns {}).loop.Shows
        (final (AdminTask.after host env yaml) inputs (.poll [] .collect)) := by
  rw [loop_final]
  exact exists_shows_final host env yaml turns ⟨rfl, fun _ => iff_of_false (by simp) (by simp)⟩

/-! ## The result -/

/--
Whatever the panel changes between the turns of a loop: a visit probes its backend exactly
when the loop has not probed it or the last probe began an interval ago, by the
configuration at the visit; a pass that is over has visited the backends that were polled
when it was collected and are listed, in this order; and passes begin a second apart.
-/
theorem polls_on_schedule (env : ProcessEnv) (turns : List PollTurn) :
    OnSchedule (final (PollWatch.step env) turns {}).visits ∧
      (∀ entries,
        (final (PollWatch.step env) turns {}).loop.stage = some (.visit [] entries) →
          (final (PollWatch.step env) turns {}).pass.map PollVisit.id =
            (final (PollWatch.step env) turns {}).enabled.filter (BackendStore.hasId entries)) ∧
      (final (PollWatch.step env) turns {}).begun.IsChain
        fun first next => first + nanosPerSecond ≤ next := by
  have sound : (final (PollWatch.step env) turns {}).Sound := sound_watch.final turns
  refine ⟨sound.timely, fun entries ended => ?_, sound.spaced⟩
  have left : (final (PollWatch.step env) turns {}).loop.rest? = some ([], entries) := by
    rw [PollLoop.rest?, ended]
    rfl
  have visited := sound.pass _ _ left
  rwa [List.filter_nil, List.append_nil] at visited

end AiPowerGateway.Share

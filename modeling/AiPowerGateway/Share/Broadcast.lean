import AiPowerGateway.Json.Value
import AiPowerGateway.Systems.EventRuns
import AiPowerGateway.Systems.Threads
import Mathlib.Algebra.BigOperators.Ring.List
import Mathlib.Algebra.Order.BigOperators.Group.List
import Mathlib.Algebra.Order.Group.Nat

/-!
# The broadcast of the leader

A leader announces itself by UDP at regular intervals.  Starting the service spawns a loop
unless the service runs already, and stopping it only clears the flag that the loops look at
when they wake up.
-/

namespace AiPowerGateway.Share

structure BroadcastConfig where
  port : UInt16 := 39090
  name : String := "aipowerlink-share"
  apiPort : UInt16 := 39091
  sharePort : UInt16 := 39092
  fingerprint : String := ""
  /-- In seconds. -/
  intervalSecs : UInt64 := 10
  target : String := "255.255.255.255"
  deriving DecidableEq, Repr

/-- What is announced. -/
def BroadcastConfig.payload (cfg : BroadcastConfig) : Json :=
  .obj [("type", .str "AIPG_ANNOUNCE"), ("name", .str cfg.name),
    ("api_port", .num (.posInt cfg.apiPort.toUInt64)),
    ("share_port", .num (.posInt cfg.sharePort.toUInt64)),
    ("fingerprint", .str cfg.fingerprint)]

/-! ## Loops -/

/-- Where a loop stands. -/
inductive BroadcastLoop where
  | spawned
  /-- It looks at the flag next. -/
  | awake
  /-- It found the flag set and sends next. -/
  | cleared
  | asleep
  | ended
  deriving DecidableEq, Repr

namespace BroadcastLoop

/-- The next step of a loop; `bound` is what binding its socket gives. -/
def next (running bound : Bool) : BroadcastLoop → BroadcastLoop
  | .spawned => if bound then .awake else .ended
  | .awake => if running then .cleared else .ended
  | .cleared => .asleep
  | .asleep => .awake
  | .ended => .ended

/-- One for a loop that has not ended. -/
def life : BroadcastLoop → Nat
  | .ended => 0
  | _ => 1

/-- One for a loop that sends next. -/
def clearance : BroadcastLoop → Nat
  | .cleared => 1
  | _ => 0

/-- How many steps a loop takes at most when the flag stays cleared. -/
def patience : BroadcastLoop → Nat
  | .spawned => 2
  | .awake => 1
  | .cleared => 3
  | .asleep => 2
  | .ended => 0

/-- How many steps a loop takes before it sends next, when its socket is bound and the flag
stays set. -/
def wait : BroadcastLoop → Nat
  | .spawned | .asleep => 2
  | .awake => 1
  | .cleared | .ended => 0

/-- With the flag cleared a clearance is only ever used up. -/
theorem clearance_next (loop : BroadcastLoop) (bound : Bool) :
    (loop.next false bound).clearance + (if loop = .cleared then 1 else 0) = loop.clearance := by
  cases loop <;> cases bound <;> rfl

/-- With the flag set a loop sends in one of three steps. -/
theorem wait_next {loop : BroadcastLoop} (goes : loop ≠ .ended) :
    3 * loop.clearance + loop.wait = (loop.next true true).wait + 1 := by
  cases loop with
  | ended => exact absurd rfl goes
  | _ => rfl

theorem wait_le (loop : BroadcastLoop) : loop.wait ≤ 2 := by
  cases loop <;> decide

theorem next_goes {loop : BroadcastLoop} (goes : loop ≠ .ended) : loop.next true true ≠ .ended := by
  cases loop with
  | ended => exact absurd rfl goes
  | _ => simp [next]

theorem patience_next (loop : BroadcastLoop) (bound : Bool) :
    (loop.next false bound).patience + loop.life ≤ loop.patience := by
  cases loop <;> cases bound <;> decide

theorem patience_le (loop : BroadcastLoop) : loop.patience ≤ 3 * loop.life := by
  cases loop <;> decide

theorem clearance_le (loop : BroadcastLoop) : loop.clearance ≤ loop.life := by
  cases loop <;> decide

end BroadcastLoop

structure BroadcastService where
  running : Bool := false
  loops : List BroadcastLoop := []
  /-- How many datagrams were handed to a socket. -/
  sent : Nat := 0
  deriving DecidableEq, Repr

inductive BroadcastEvent where
  | start
  | stop
  | turn (loop : Nat) (bound : Bool)
  deriving DecidableEq, Repr

namespace BroadcastService

def start (service : BroadcastService) : BroadcastService :=
  if service.running then service
  else { service with running := true, loops := service.loops ++ [.spawned] }

def stop (service : BroadcastService) : BroadcastService := { service with running := false }

/-- One step of the body that `start` spawns.  A loop that cannot bind clears the flag. -/
def turn (index : Nat) (bound : Bool) (service : BroadcastService) : BroadcastService :=
  match service.loops[index]? with
  | none => service
  | some loop =>
      { running := service.running && (loop != .spawned || bound)
        loops := service.loops.set index (loop.next service.running bound)
        sent := service.sent + if loop = .cleared then 1 else 0 }

def step : BroadcastEvent → BroadcastService → BroadcastService
  | .start, service => service.start
  | .stop, service => service.stop
  | .turn loop bound, service => service.turn loop bound

/-- The sum of a weight over the loops. -/
def weigh (weight : BroadcastLoop → Nat) (service : BroadcastService) : Nat :=
  (service.loops.map weight).foldr (· + ·) 0

/-- How many loops have not ended. -/
def live (service : BroadcastService) : Nat := service.weigh BroadcastLoop.life

/-- How many loops send next. -/
def clearances (service : BroadcastService) : Nat := service.weigh BroadcastLoop.clearance

end BroadcastService

namespace BroadcastEvent

/-- A start that spawns a loop finds none left. -/
def Clean : BroadcastEvent → BroadcastService → Prop
  | .start, service => service.running = false → ∀ loop ∈ service.loops, loop = .ended
  | _, _ => True

/-- One for a turn in which the loop of the index sends. -/
def sends (index : Nat) : BroadcastEvent → BroadcastService → Nat
  | .turn other _, service =>
      if other = index then (service.loops[other]?).elim 0 BroadcastLoop.clearance else 0
  | _, _ => 0

/-- The event is the turn of a loop that has not ended. -/
def moves : BroadcastEvent → BroadcastService → Nat
  | .turn index _, service => (service.loops[index]?).elim 0 BroadcastLoop.life
  | _, _ => 0

end BroadcastEvent

namespace BroadcastService

open Systems EventRuns

/-- How many datagrams of the run one loop sends. -/
def sentBy (index : Nat) : List BroadcastEvent → BroadcastService → Nat
  | [], _ => 0
  | event :: events, service =>
      event.sends index service + sentBy index events (service.step event)

/-- Without another start, two loops can go on announcing the leader as long as they like. -/
def TwoAnnounce (service : BroadcastService) : Prop :=
  ∃ first second, first ≠ second ∧ ∀ count, ∃ events, .start ∉ events ∧
    count ≤ sentBy first events service ∧ count ≤ sentBy second events service

def Single (service : BroadcastService) : Prop := ¬ service.TwoAnnounce

/-- The loop of the index has not ended. -/
def Goes (service : BroadcastService) (index : Nat) : Prop :=
  ∃ loop, service.loops[index]? = some loop ∧ loop ≠ .ended

variable {service : BroadcastService} {event : BroadcastEvent} {events : List BroadcastEvent}
  {index other : Nat} {bound : Bool} {loop : BroadcastLoop}

theorem turn_missing (missing : service.loops[index]? = none) :
    service.turn index bound = service := by
  simp only [turn, missing]

theorem turn_found (found : service.loops[index]? = some loop) :
    service.turn index bound =
      { running := service.running && (loop != .spawned || bound)
        loops := service.loops.set index (loop.next service.running bound)
        sent := service.sent + if loop = .cleared then 1 else 0 } := by
  simp only [turn, found]

/-- A turn exchanges one loop. -/
theorem weigh_turn (weight : BroadcastLoop → Nat) (bound : Bool)
    (found : service.loops[index]? = some loop) :
    (service.turn index bound).weigh weight + weight loop =
      service.weigh weight + weight (loop.next service.running bound) := by
  rw [turn_found found]
  exact Threads.Program.sum_map_set weight _ found

theorem weigh_le {first second : BroadcastLoop → Nat} (bounded : ∀ loop, first loop ≤ second loop)
    (service : BroadcastService) : service.weigh first ≤ service.weigh second :=
  List.sum_le_sum fun loop _ => bounded loop

/-! ## Silence after a stop -/

/-- How many turns of the run fall to loops that have not ended. -/
def moved : List BroadcastEvent → BroadcastService → Nat
  | [], _ => 0
  | event :: events, service => event.moves service + moved events (service.step event)

theorem quiet_step (stopped : service.running = false) (other : event ≠ .start) :
    (service.step event).running = false ∧
      (service.step event).sent + (service.step event).clearances =
        service.sent + service.clearances ∧
      (service.step event).weigh BroadcastLoop.patience + event.moves service ≤
        service.weigh BroadcastLoop.patience := by
  cases event with
  | start => exact absurd rfl other
  | stop => exact ⟨rfl, rfl, Nat.le_refl _⟩
  | turn index bound =>
      simp only [step, BroadcastEvent.moves]
      cases found : service.loops[index]? with
      | none =>
          rw [turn_missing found]
          exact ⟨stopped, rfl, Nat.le_refl _⟩
      | some loop =>
          have cleared := weigh_turn BroadcastLoop.clearance bound found
          have patient := weigh_turn BroadcastLoop.patience bound found
          have used := loop.clearance_next bound
          have spent := loop.patience_next bound
          rw [stopped] at cleared patient
          have sent : (service.turn index bound).sent =
              service.sent + if loop = .cleared then 1 else 0 := by rw [turn_found found]
          refine ⟨by rw [turn_found found, stopped, Bool.false_and], ?_, ?_⟩
          · rw [sent, clearances, clearances]
            omega
          · rw [Option.elim_some]
            omega

theorem quiet_run {service : BroadcastService} (stopped : service.running = false)
    (unstarted : .start ∉ events) :
    (final step events service).sent + (final step events service).clearances =
        service.sent + service.clearances ∧
      (final step events service).weigh BroadcastLoop.patience + moved events service ≤
        service.weigh BroadcastLoop.patience := by
  induction events generalizing service with
  | nil => exact ⟨rfl, Nat.le_refl _⟩
  | cons event events ih =>
      have other : event ≠ .start := fun same => unstarted (same ▸ List.mem_cons_self)
      obtain ⟨still, sent, patient⟩ := quiet_step stopped other
      obtain ⟨later, rest⟩ := ih still fun mem => unstarted (List.mem_cons_of_mem event mem)
      rw [final_cons, moved]
      omega

/--
After a stop, as long as nobody starts the service again: however the loops are scheduled,
no more datagrams are sent than loops had seen the flag set before the stop, so at most one
by each loop, and all loops together take at most three more steps each.
-/
theorem quiet_after_stop (service : BroadcastService) (events : List BroadcastEvent)
    (unstarted : .start ∉ events) :
    (final step events service.stop).sent ≤ service.sent + service.clearances ∧
      service.clearances ≤ service.live ∧ moved events service.stop ≤ 3 * service.live := by
  have stopped : service.stop.running = false := rfl
  obtain ⟨sent, patient⟩ := quiet_run stopped unstarted
  have perLoop : service.weigh BroadcastLoop.patience ≤ 3 * service.live := by
    refine (weigh_le BroadcastLoop.patience_le service).trans_eq ?_
    exact List.sum_map_mul_left service.loops BroadcastLoop.life 3
  have cleared : service.clearances ≤ service.live := weigh_le BroadcastLoop.clearance_le service
  simp only [stop, clearances, weigh] at sent patient cleared perLoop ⊢
  omega

theorem quiet_after_stop_cleared :
    (final step [.turn 0 true, .turn 0 true]
      (stop { running := true, loops := [.cleared], sent := 4 })).sent ≤ 5 :=
  (quiet_after_stop { running := true, loops := [.cleared], sent := 4 } _ (by decide)).1

/-! ## Loops that go on -/

/-- Only a start adds a loop, and no loop comes back to life. -/
theorem goes_of_step (other : event ≠ .start) (goes : (service.step event).Goes index) :
    service.Goes index := by
  cases event with
  | start => exact absurd rfl other
  | stop => exact goes
  | turn turned bound =>
      obtain ⟨after, at_after, alive⟩ := goes
      simp only [step] at at_after
      cases found : service.loops[turned]? with
      | none => exact ⟨after, by rwa [turn_missing found] at at_after, alive⟩
      | some loop =>
          rw [turn_found found] at at_after
          by_cases same : turned = index
          · subst same
            refine ⟨loop, found, fun ended => alive ?_⟩
            have replaced := at_after
            rw [List.getElem?_set_self (List.getElem?_eq_some_iff.mp found).1, ended] at replaced
            exact (Option.some.inj replaced).symm
          · exact ⟨after, by rwa [List.getElem?_set_ne same] at at_after, alive⟩

theorem sends_eq_zero (ends : ¬ service.Goes index) : event.sends index service = 0 := by
  cases event with
  | start => rfl
  | stop => rfl
  | turn turned bound =>
      simp only [BroadcastEvent.sends]
      split
      case isFalse => rfl
      case isTrue same =>
        subst same
        cases found : service.loops[turned]? with
        | none => rfl
        | some loop =>
            by_cases ended : loop = .ended
            · subst ended; rfl
            · exact absurd ⟨loop, found, ended⟩ ends

/-- A loop that has ended sends nothing more. -/
theorem sentBy_eq_zero (unstarted : .start ∉ events) (ends : ¬ service.Goes index) :
    sentBy index events service = 0 := by
  induction events generalizing service with
  | nil => rfl
  | cons event events ih =>
      have other : event ≠ .start := fun same => unstarted (same ▸ List.mem_cons_self)
      have rest := ih (fun mem => unstarted (List.mem_cons_of_mem event mem))
        fun goes => ends (goes_of_step other goes)
      rw [sentBy, sends_eq_zero ends, rest]

theorem sent_step (index : Nat) (event : BroadcastEvent) (service : BroadcastService) :
    service.sent + event.sends index service ≤ (service.step event).sent := by
  cases event with
  | start => simp only [BroadcastEvent.sends, step, start]; split <;> exact Nat.le_refl _
  | stop => exact Nat.le_refl _
  | turn turned bound =>
      simp only [BroadcastEvent.sends, step]
      cases found : service.loops[turned]? with
      | none => simp [turn_missing found]
      | some loop =>
          rw [turn_found found]
          cases loop <;> simp [BroadcastLoop.clearance]
          split <;> omega

/-- What one loop sends is part of what the service sends. -/
theorem sent_final (index : Nat) (events : List BroadcastEvent) (service : BroadcastService) :
    service.sent + sentBy index events service ≤ (final step events service).sent := by
  induction events generalizing service with
  | nil => exact Nat.le_refl _
  | cons event events ih =>
      have first := sent_step index event service
      have rest := ih (service.step event)
      rw [final_cons, sentBy]
      omega

theorem sentBy_append (events more : List BroadcastEvent) (service : BroadcastService) :
    sentBy index (events ++ more) service =
      sentBy index events service + sentBy index more (final step events service) := by
  induction events generalizing service with
  | nil => exact (Nat.zero_add _).symm
  | cons event events ih =>
      simp only [List.cons_append, sentBy, final_cons, ih]
      omega

/-- Turn by turn a loop goes on while the flag stays set: the others stand still, and it sends
in every third turn. -/
theorem turns_send (steps : Nat) {service : BroadcastService} {loop : BroadcastLoop}
    (running : service.running = true) (found : service.loops[index]? = some loop)
    (goes : loop ≠ .ended) :
    let turns := List.replicate steps (BroadcastEvent.turn index true)
    (final step turns service).running = true ∧
      (∀ other, index ≠ other →
        (final step turns service).loops[other]? = service.loops[other]?) ∧
      steps ≤ 3 * sentBy index turns service + loop.wait := by
  induction steps generalizing service loop with
  | zero => exact ⟨running, fun _ _ => rfl, Nat.zero_le _⟩
  | succ steps ih =>
      have next_running : (service.turn index true).running = true := by
        rw [turn_found found, running, Bool.or_true, Bool.true_and]
      have next_found : (service.turn index true).loops[index]? = some (loop.next true true) := by
        rw [turn_found found, running]
        exact List.getElem?_set_self (List.getElem?_eq_some_iff.mp found).1
      obtain ⟨still, others, sends⟩ := ih next_running next_found (BroadcastLoop.next_goes goes)
      have sent : (BroadcastEvent.turn index true).sends index service = loop.clearance := by
        rw [BroadcastEvent.sends, if_pos rfl, found, Option.elim_some]
      have waits := BroadcastLoop.wait_next goes
      simp only [List.replicate_succ, final_cons, sentBy, sent, step]
      refine ⟨still, fun other apart => ?_, by omega⟩
      rw [others other apart, turn_found found]
      exact List.getElem?_set_ne apart

/-- Two loops go on exactly while the flag is set and two have not ended. -/
theorem twoAnnounce_iff (service : BroadcastService) :
    service.TwoAnnounce ↔
      service.running = true ∧
        ∃ first second, first ≠ second ∧ service.Goes first ∧ service.Goes second := by
  constructor
  · rintro ⟨first, second, apart, announce⟩
    refine ⟨?_, first, second, apart, ?_, ?_⟩
    · by_contra stopped
      obtain ⟨events, unstarted, many, -⟩ := announce (service.clearances + 1)
      have quiet := (quiet_run (Bool.eq_false_of_not_eq_true stopped) unstarted).1
      have sent := sent_final first events service
      omega
    · by_contra ends
      obtain ⟨events, unstarted, many, -⟩ := announce 1
      rw [sentBy_eq_zero unstarted ends] at many
      omega
    · by_contra ends
      obtain ⟨events, unstarted, -, many⟩ := announce 1
      rw [sentBy_eq_zero unstarted ends] at many
      omega
  · rintro ⟨running, first, second, apart, ⟨loop, found, goes⟩, ⟨next, next_found, next_goes⟩⟩
    refine ⟨first, second, apart, fun count => ?_⟩
    -- first the one loop takes all its turns, then the other
    obtain ⟨still, others, sends⟩ := turns_send (3 * count + 2) running found goes
    have at_second := (others second apart).trans next_found
    obtain ⟨-, -, next_sends⟩ := turns_send (3 * count + 2) still at_second next_goes
    have waits := loop.wait_le
    have next_waits := next.wait_le
    refine ⟨.replicate (3 * count + 2) (.turn first true) ++
      .replicate (3 * count + 2) (.turn second true), ?_, ?_, ?_⟩
    · simp
    · rw [sentBy_append]
      omega
    · rw [sentBy_append]
      omega

/-! ## One announcement at a time -/

/-- A loop added to others is the only one that has not ended exactly if they all have. -/
theorem one_goes_iff (loops : List BroadcastLoop) (sent : Nat) :
    (¬ ∃ first second, first ≠ second ∧
        Goes { running := true, loops := loops ++ [.spawned], sent := sent } first ∧
        Goes { running := true, loops := loops ++ [.spawned], sent := sent } second) ↔
      ∀ loop ∈ loops, loop = .ended := by
  constructor
  · intro lone loop mem
    by_contra goes
    obtain ⟨index, at_index⟩ := List.mem_iff_getElem?.mp mem
    have inside : index < loops.length := (List.getElem?_eq_some_iff.mp at_index).1
    refine lone ⟨index, loops.length, Nat.ne_of_lt inside, ⟨loop, ?_, goes⟩, ⟨.spawned, ?_, nofun⟩⟩
    · exact (List.getElem?_append_left inside).trans at_index
    · exact List.getElem?_concat_length
  · rintro ended ⟨first, second, apart, first_goes, second_goes⟩
    have last : ∀ index, Goes ⟨true, loops ++ [.spawned], sent⟩ index → index = loops.length := by
      rintro index ⟨loop, found, goes⟩
      rcases Nat.lt_or_ge index loops.length with inside | outside
      · have before : loops[index]? = some loop :=
          (List.getElem?_append_left inside).symm.trans found
        exact absurd (ended loop (List.mem_of_getElem? before)) goes
      · have bound := (List.getElem?_eq_some_iff.mp found).1
        rw [List.length_append, List.length_singleton] at bound
        omega
    exact apart ((last first first_goes).trans (last second second_goes).symm)

theorem running_of_turn (running : (service.turn index bound).running = true) :
    service.running = true := by
  cases found : service.loops[index]? with
  | none => rwa [turn_missing found] at running
  | some loop =>
      rw [turn_found found] at running
      exact (Bool.and_eq_true_iff.mp running).1

theorem single_step_iff (single : service.Single) :
    (service.step event).Single ↔ event.Clean service := by
  cases event with
  | start =>
      cases running : service.running with
      | true => simpa [step, start, running, BroadcastEvent.Clean] using single
      | false =>
          have spawned : service.step .start =
              { service with running := true, loops := service.loops ++ [.spawned] } := by
            simp [step, start, running]
          simp only [BroadcastEvent.Clean, running, forall_const, Single, twoAnnounce_iff, spawned,
            true_and]
          exact one_goes_iff service.loops service.sent
  | stop =>
      refine ⟨fun _ => trivial, fun _ two => ?_⟩
      exact absurd ((twoAnnounce_iff _).mp two).1 (by simp [step, stop])
  | turn index bound =>
      refine ⟨fun _ => trivial, fun _ two => single ?_⟩
      rw [twoAnnounce_iff] at two ⊢
      obtain ⟨running, first, second, apart, first_goes, second_goes⟩ := two
      have other : BroadcastEvent.turn index bound ≠ .start := nofun
      refine ⟨running_of_turn running, first, second, apart, ?_, ?_⟩
      · exact goes_of_step other first_goes
      · exact goes_of_step other second_goes

/--
However starts, stops and the turns of the loops step each other: at no time the service stands
so that two of its loops would go on announcing the leader, exactly if every start of a stopped
service finds that the loops before it have ended.
-/
theorem single_throughout_iff (events : List BroadcastEvent) :
    Throughout step Single events {} ↔ Fitting step BroadcastEvent.Clean events {} := by
  have none : Single {} := fun two => Bool.false_ne_true ((twoAnnounce_iff {}).mp two).1
  exact throughout_iff_fitting (fun _ _ single => single_step_iff single) none events

end BroadcastService

end AiPowerGateway.Share

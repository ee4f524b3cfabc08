import AiPowerGateway.Share.AdminTasks
import AiPowerGateway.Share.HealthHistory

/-!
# The numbers of a polling configuration

A body gives an interval and two thresholds.  Each is raised to one and then cut to the
width of its field, so a number that does not fit is stored as another one; the cut may
even undo the raise.
-/

namespace AiPowerGateway.Share

/-! ## The handler -/

/-- The reply of `PUT /api/backends/{id}/polling`. -/
def pollingReply (host : Host) (id : String) (cfg : PollConfig) : Reply :=
  jsonReply host 200 (.obj [("ok", .bool true), ("id", .str id),
    ("polling", .obj [
      ("enabled", .bool cfg.enabled),
      ("pollIntervalSecs", .num (.posInt cfg.pollIntervalSecs)),
      ("failThreshold", .num (.posInt cfg.failThreshold.toUInt64)),
      ("removeThreshold", .num (.posInt cfg.removeThreshold.toUInt64))])])

/-- The stored entry of this id is an executor. -/
def storesExecutor (entries : List BackendEntry) (id : String) : Bool :=
  ((BackendStore.find? entries id).map BackendEntry.isExecutor).getD false

/-- The handler without another task in between; the poller that it wakes is left out. -/
def apiBackendsPolling (host : Host) (id : String) (body : Json) (state : ConfigState) :
    Reply × ConfigState :=
  if BackendStore.hasId state.backendsConfig.list id then
    let cfg := PollConfig.ofBody body
      (state.health.config id (storesExecutor state.backendsConfig.list id))
    (pollingReply host id cfg,
      { state with health := (state.health.setConfig id cfg).resetState id })
  else (errorReply host 404 ("backend not found: " ++ id), state)

/-- The stages of the task do what the handler does. -/
theorem apiBackendsPolling_stages (host : Host) (id : String) (body : Json) (state : AdminState)
    (stored : BackendStore.hasId state.list id = true) :
    let isExecutor := storesExecutor state.list id
    let cfg := PollConfig.ofBody body (state.health.config id isExecutor)
    PutStage.step host state id (.exist body) = ⟨.look, .put id (.kind body), []⟩ ∧
      PutStage.step host state id (.kind body) = ⟨.look, .put id (.config body isExecutor), []⟩ ∧
      PutStage.step host state id (.config body isExecutor) = ⟨.look, .put id (.set cfg), []⟩ ∧
      (PutStage.step host state id (.set cfg)).next = .put id (.resetState cfg) ∧
      (PutStage.step host state id (.resetState cfg)).next =
        .finished (some (apiBackendsPolling host id body state.config).1) ∧
      ((state.perform (PutStage.step host state id (.set cfg)).op).perform
        (PutStage.step host state id (.resetState cfg)).op).config =
          (apiBackendsPolling host id body state.config).2 := by
  have handled : apiBackendsPolling host id body state.config = (pollingReply host id _, _) :=
    if_pos stored
  rw [handled]
  exact ⟨if_pos stored, rfl, rfl, rfl, rfl, rfl⟩

/-! ## The three numbers -/

inductive PollField where
  | interval
  | failThreshold
  | removeThreshold
  deriving DecidableEq, Repr

namespace PollField

def key : PollField → String
  | .interval => "pollIntervalSecs"
  | .failThreshold => "failThreshold"
  | .removeThreshold => "removeThreshold"

def value (cfg : PollConfig) : PollField → Nat
  | .interval => cfg.pollIntervalSecs.toNat
  | .failThreshold => cfg.failThreshold.toNat
  | .removeThreshold => cfg.removeThreshold.toNat

/-- The number of values that the field can hold. -/
def width : PollField → Nat
  | .interval => 2 ^ 64
  | .failThreshold | .removeThreshold => 2 ^ 32

/-- The numbers below the limit are read and stored as they are. -/
def limit (field : PollField) : Nat := min (2 ^ 63) field.width

/-- The current number as the handler takes it over. -/
def fallback (cfg : PollConfig) : PollField → Int
  | .interval => cfg.pollIntervalSecs.toInt64.toInt
  | .failThreshold => cfg.failThreshold.toNat
  | .removeThreshold => cfg.removeThreshold.toNat

/-- What is stored: at least one, then cut to the width. -/
theorem value_ofBody (body : Json) (current : PollConfig) (field : PollField) :
    field.value (.ofBody body current) =
      (PollConfig.bodyNumber body field.key (field.fallback current)).toNat % field.width := by
  cases field <;> rfl

theorem limit_le (field : PollField) : field.limit ≤ 2 ^ 63 := Nat.min_le_left _ _

theorem one_lt_limit (field : PollField) : 1 < field.limit := by
  cases field <;> decide

theorem fallback_lt (current : PollConfig) (field : PollField) :
    field.fallback current < 2 ^ 63 := by
  have narrow (threshold : UInt32) : (threshold.toNat : Int) < 2 ^ 63 := by
    have bound := threshold.toNat_lt
    omega
  cases field with
  | interval => exact Int64.toInt_lt _
  | failThreshold => exact narrow _
  | removeThreshold => exact narrow _

/-- What the handler takes over fits, once it is raised to one. -/
theorem fallback_lt_width (current : PollConfig) (field : PollField) :
    (max 1 (field.fallback current)).toNat < field.width := by
  have narrow (threshold : UInt32) : (max 1 (threshold.toNat : Int)).toNat < 2 ^ 32 := by
    have bound := threshold.toNat_lt
    omega
  cases field with
  | interval =>
      have bound := fallback_lt current .interval
      have wide : PollField.interval.width = 2 ^ 64 := rfl
      omega
  | failThreshold => exact narrow _
  | removeThreshold => exact narrow _

theorem fallback_of_lt {current : PollConfig} {field : PollField}
    (fits : field.value current < field.limit) :
    field.fallback current = field.value current := by
  cases field with
  | interval =>
      have small : 2 * current.pollIntervalSecs.toBitVec.toNat < 2 ^ 64 := by
        have bound : current.pollIntervalSecs.toNat < 2 ^ 63 := fits
        rw [UInt64.toNat_toBitVec]
        omega
      exact BitVec.toInt_eq_toNat_of_lt small
  | failThreshold => rfl
  | removeThreshold => rfl

/-- A positive number is stored as it is exactly below the limit, if it is read at all. -/
theorem mod_width_eq_iff (field : PollField) {n : Int} (positive : 0 < n) (small : n < 2 ^ 63) :
    ((max 1 n).toNat % field.width : Nat) = n ↔ n < field.limit := by
  have raised : max 1 n = n := max_eq_right positive
  rw [raised]
  obtain ⟨m, rfl⟩ := Int.eq_ofNat_of_zero_le (Int.le_of_lt positive)
  have narrow : (m : Int) < field.limit ↔ m < field.width := by
    unfold limit
    omega
  rw [narrow, Int.toNat_natCast]
  constructor
  · intro kept
    have bound : m % field.width < field.width := Nat.mod_lt _ (by cases field <;> decide)
    omega
  · intro fits
    rw [Nat.mod_eq_of_lt fits]

end PollField

/-! ## What a body asks for -/

/-- The integers that are read as numbers of 64 bits with sign. -/
def Readable (n : Int) : Prop := -(2 ^ 63) ≤ n ∧ n < 2 ^ 63

instance (n : Int) : Decidable (Readable n) := inferInstanceAs (Decidable (_ ∧ _))

/-- The integer that a JSON number is written as; one beyond 64 bits is kept as a fraction. -/
def wholeNumber? : Json → Option Int
  | .num (.posInt value) => some value.toNat
  | .num (.negInt magnitude) => some (-(magnitude.val + 1 : Int))
  | .num (.float mantissa exponent) =>
      if exponent = 0 ∧ ¬ (-(2 ^ 63) ≤ mantissa ∧ mantissa < 2 ^ 64) then some mantissa else none
  | _ => none

theorem asI64?_eq_filter (value : Json) :
    value.asI64? = (wholeNumber? value).filter (Readable ·) := by
  cases value with
  | num number =>
      cases number with
      | posInt value =>
          have bound : Readable value.toNat ↔ value.toNat < 2 ^ 63 := by
            unfold Readable
            omega
          simp [Json.asI64?, wholeNumber?, Option.filter_some, bound]
      | negInt magnitude =>
          have bound : Readable (-(magnitude.val + 1 : Int)) := by
            unfold Readable
            omega
          simp only [Json.asI64?, wholeNumber?, Option.filter_some, bound, decide_true, if_true]
      | float mantissa exponent =>
          rw [wholeNumber?]
          split
          · next beyond =>
              have large : ¬ Readable mantissa := by
                unfold Readable
                omega
              rw [Option.filter_some, if_neg (by simpa using large)]
              rfl
          · rfl
  | _ => rfl

/-- The integer that a body gives for a field; anything else counts as left out. -/
def given? (body : Json) (field : PollField) : Option Int :=
  (body.get? field.key).bind wholeNumber?

/-- The body asks for removal at the first failure, or leaves a threshold of one. -/
def AsksForOne (body : Json) (current : PollConfig) : Prop :=
  match given? body .removeThreshold with
  | some n => n ≤ 1
  | none => current.removeThreshold = 1

/-- The stored numbers are the requested ones. -/
structure KeepsNumbers (body : Json) (current stored : PollConfig) : Prop where
  positive : ∀ field : PollField, 1 ≤ field.value stored
  exact : ∀ (field : PollField) (n : Int), given? body field = some n → 0 < n →
    (field.value stored : Int) = n
  unchanged : ∀ field : PollField, given? body field = none →
    field.value stored = field.value current
  /-- One failed probe removes the backend only on request. -/
  oneFailure : ∀ observed : Observation, observed.failed = true →
    (ProviderState.fresh.noteAt stored.failThreshold stored.removeThreshold observed).level =
      .removed → AsksForOne body current

/-- Every number given is below the limit of its field, every one left out is in range. -/
def InRange (body : Json) (current : PollConfig) : Prop :=
  ∀ field : PollField, match given? body field with
    | some n => n < field.limit
    | none => 1 ≤ field.value current ∧ field.value current < field.limit

/-! ## One field -/

section Field

variable {body : Json} (current : PollConfig) {field : PollField}

theorem read_eq_filter (body : Json) (field : PollField) :
    (body.get? field.key).bind Json.asI64? = (given? body field).filter (Readable ·) := by
  unfold given?
  cases body.get? field.key with
  | none => rfl
  | some value => exact asI64?_eq_filter value

theorem value_of_given {n : Int} (given : given? body field = some n) (readable : Readable n) :
    field.value (.ofBody body current) = (max 1 n).toNat % field.width := by
  have read : (body.get? field.key).bind Json.asI64? = some n := by
    rw [read_eq_filter, given, Option.filter_some, if_pos (by simpa using readable)]
  rw [PollField.value_ofBody, PollConfig.bodyNumber, read, Option.getD_some]

theorem value_of_not_read (unread : ∀ n, given? body field = some n → ¬ Readable n) :
    field.value (.ofBody body current) = (max 1 (field.fallback current)).toNat := by
  have nothing : (body.get? field.key).bind Json.asI64? = none := by
    rw [read_eq_filter, Option.filter_eq_none_iff]
    exact fun n given => by simpa using unread n given
  rw [PollField.value_ofBody, PollConfig.bodyNumber, nothing, Option.getD_none,
    Nat.mod_eq_of_lt (field.fallback_lt_width current)]

theorem value_of_beyond {n : Int} (given : given? body field = some n) (beyond : ¬ Readable n) :
    field.value (.ofBody body current) = (max 1 (field.fallback current)).toNat := by
  refine value_of_not_read current fun m found => ?_
  rw [given] at found
  cases found
  exact beyond

/-- A field of which nothing is read stays exactly when its current number is in range. -/
theorem stays_iff (absent : given? body field = none) :
    (1 ≤ field.value (.ofBody body current) ∧
        field.value (.ofBody body current) = field.value current) ↔
      1 ≤ field.value current ∧ field.value current < field.limit := by
  have unread : ∀ n, given? body field = some n → ¬ Readable n := by simp [absent]
  constructor
  · rintro ⟨positive, same⟩
    rw [same] at positive
    refine ⟨positive, ?_⟩
    have small : field.value current < 2 ^ 63 := by
      have bound := field.fallback_lt current
      rw [← same, value_of_not_read current unread]
      omega
    have width : field.value current < field.width := by
      cases field with
      | interval => exact UInt64.toNat_lt _
      | failThreshold => exact UInt32.toNat_lt _
      | removeThreshold => exact UInt32.toNat_lt _
    exact lt_min small width
  · rintro ⟨positive, fits⟩
    have kept : field.value (.ofBody body current) = field.value current := by
      rw [value_of_not_read current unread, PollField.fallback_of_lt fits]
      omega
    exact ⟨kept ▸ positive, kept⟩

/-- A field that is given is stored as it is, or raised to one, exactly below its limit. -/
theorem stored_iff {n : Int} (given : given? body field = some n) :
    (1 ≤ field.value (.ofBody body current) ∧
        (0 < n → (field.value (.ofBody body current) : Int) = n)) ↔ n < field.limit := by
  have top : (field.limit : Int) ≤ 2 ^ 63 := Int.ofNat_le.mpr field.limit_le
  have low := field.one_lt_limit
  by_cases readable : Readable n
  · rw [value_of_given current given readable]
    by_cases positive : 0 < n
    · have kept := field.mod_width_eq_iff positive readable.2
      constructor
      · exact fun ⟨_, same⟩ => kept.mp (same positive)
      · intro fits
        have same := kept.mpr fits
        exact ⟨by omega, fun _ => same⟩
    · have raised : (max 1 n).toNat % field.width = 1 := by
        rw [max_eq_left (by omega)]
        cases field <;> rfl
      rw [raised]
      exact ⟨fun _ => by omega, fun _ => ⟨Nat.le_refl 1, fun above => absurd above positive⟩⟩
  · have bound := field.fallback_lt current
    rw [value_of_beyond current given readable]
    unfold Readable at readable
    constructor
    · rintro ⟨-, same⟩
      by_contra above
      have same := same (by omega)
      omega
    · intro fits
      exact ⟨by omega, fun positive => by omega⟩

end Field

/-! ## The whole configuration -/

/-- Only a threshold of at most one is reached by the first failure. -/
theorem threshold_of_removed {cfg : PollConfig} {observed : Observation}
    (failed : observed.failed = true)
    (removed : (ProviderState.fresh.noteAt cfg.failThreshold cfg.removeThreshold observed).level =
      .removed) : cfg.removeThreshold.toNat ≤ 1 := by
  have notOk : observed.ok = false := by simpa [Observation.failed] using failed
  unfold ProviderState.noteAt ProviderState.observe at removed
  simp only [notOk, Bool.false_eq_true, if_false] at removed
  split at removed
  · next reached => exact UInt32.le_iff_toNat_le.mp reached
  · split at removed <;> cases removed

/-- A threshold that is kept is reached by the first failure only on request. -/
theorem asksForOne_of_removed {body : Json} {current : PollConfig} {observed : Observation}
    (positive : 1 ≤ (PollConfig.ofBody body current).removeThreshold.toNat)
    (exact : ∀ n, given? body .removeThreshold = some n → 0 < n →
      ((PollConfig.ofBody body current).removeThreshold.toNat : Int) = n)
    (unchanged : given? body .removeThreshold = none →
      (PollConfig.ofBody body current).removeThreshold.toNat = current.removeThreshold.toNat)
    (failed : observed.failed = true)
    (removed : (ProviderState.fresh.noteAt (PollConfig.ofBody body current).failThreshold
      (PollConfig.ofBody body current).removeThreshold observed).level = .removed) :
    AsksForOne body current := by
  have low := threshold_of_removed failed removed
  unfold AsksForOne
  cases given : given? body .removeThreshold with
  | none =>
      have same := unchanged given
      have one : current.removeThreshold.toNat = 1 := by omega
      exact UInt32.toNat_inj.mp one
  | some n =>
      by_contra many
      have same := exact n given (by omega)
      omega

theorem keepsNumbers_iff (body : Json) (current : PollConfig) :
    KeepsNumbers body current (.ofBody body current) ↔ InRange body current := by
  constructor
  · intro keeps field
    cases given : given? body field with
    | none => exact (stays_iff current given).mp ⟨keeps.positive field, keeps.unchanged field given⟩
    | some n =>
        exact (stored_iff current given).mp ⟨keeps.positive field, keeps.exact field n given⟩
  · intro range
    have stays (field : PollField) (absent : given? body field = none) := by
      have inRange := range field
      rw [absent] at inRange
      exact (stays_iff current absent).mpr inRange
    have stored (field : PollField) (n : Int) (given : given? body field = some n) := by
      have inRange := range field
      rw [given] at inRange
      exact (stored_iff current given).mpr inRange
    have positive (field : PollField) : 1 ≤ field.value (.ofBody body current) := by
      cases given : given? body field with
      | none => exact (stays field given).1
      | some n => exact (stored field n given).1
    exact ⟨positive, fun field n given => (stored field n given).2,
      fun field absent => (stays field absent).2, fun observed failed removed =>
        asksForOne_of_removed (positive .removeThreshold)
          (fun n given => (stored .removeThreshold n given).2)
          (fun absent => (stays .removeThreshold absent).2) failed removed⟩

/-! ## Runs of requests -/

/-- All numbers are at least one and below their limits. -/
def PollConfig.Fits (cfg : PollConfig) : Prop :=
  ∀ field : PollField, 1 ≤ field.value cfg ∧ field.value cfg < field.limit

/-- The numbers that a body gives are below their limits. -/
def GivesInRange (body : Json) : Prop :=
  ∀ (field : PollField) (n : Int), given? body field = some n → n < field.limit

theorem fits_fallback (isExecutor : Bool) : (PollConfig.fallback isExecutor).Fits := by
  intro field
  cases isExecutor <;> cases field <;> exact ⟨by decide, by decide⟩

theorem inRange_of_fits {body : Json} {current : PollConfig} (gives : GivesInRange body)
    (fits : current.Fits) : InRange body current := by
  intro field
  cases given : given? body field with
  | none => exact fits field
  | some n => exact gives field n given

/-- What a request in range stores fits again. -/
theorem PollConfig.Fits.ofBody {body : Json} {current : PollConfig} (gives : GivesInRange body)
    (fits : current.Fits) : (PollConfig.ofBody body current).Fits := by
  have keeps := (keepsNumbers_iff body current).mpr (inRange_of_fits gives fits)
  intro field
  refine ⟨keeps.positive field, ?_⟩
  cases given : given? body field with
  | none =>
      rw [keeps.unchanged field given]
      exact (fits field).2
  | some n =>
      have top := gives field n given
      have least := field.one_lt_limit
      by_cases positive : 0 < n
      · have same := keeps.exact field n given positive
        omega
      · by_cases readable : Readable n
        · rw [value_of_given current given readable, max_eq_left (by omega)]
          exact Nat.lt_of_le_of_lt (Nat.mod_le _ _) least
        · have inRange := fits field
          rw [value_of_beyond current given readable, PollField.fallback_of_lt inRange.2]
          omega

/-- All configurations that the monitor answers with fit. -/
def AllFit (monitor : HealthMonitor) : Prop :=
  ∀ id isExecutor, (monitor.config id isExecutor).Fits

theorem allFit_initial : AllFit {} := fun _ isExecutor => fits_fallback isExecutor

theorem allFit_apiBackendsPolling (host : Host) {id : String} {body : Json} {state : ConfigState}
    (gives : GivesInRange body) (fits : AllFit state.health) :
    AllFit (apiBackendsPolling host id body state).2.health := by
  unfold apiBackendsPolling
  split
  · intro other isExecutor
    by_cases same : other = id
    · subst same
      show (HealthMonitor.config (HealthMonitor.setConfig other _ state.health)
        other isExecutor).Fits
      rw [HealthMonitor.config_setConfig_self]
      exact (fits other _).ofBody gives
    · show (HealthMonitor.config (HealthMonitor.setConfig id _ state.health)
        other isExecutor).Fits
      rw [HealthMonitor.config_setConfig_ne same]
      exact fits other isExecutor
  · exact fits

/-- In a run of requests whose numbers are in range, every configuration fits. -/
theorem allFit_run (host : Host) {requests : List (String × Json)}
    (gives : ∀ request ∈ requests, GivesInRange request.2) {state : ConfigState}
    (fits : AllFit state.health) :
    AllFit (requests.foldl (fun state request =>
      (apiBackendsPolling host request.1 request.2 state).2) state).health := by
  induction requests generalizing state with
  | nil => exact fits
  | cons request requests ih =>
      exact ih (fun other mem => gives other (List.mem_cons_of_mem _ mem))
        (allFit_apiBackendsPolling host (gives request List.mem_cons_self) fits)

/-! ## The handler keeps the numbers -/

/-- An accepted request stores the numbers asked for, a rejected one stores nothing. -/
def KeepsPolling (host : Host) (id : String) (body : Json) (state : ConfigState) : Prop :=
  let isExecutor := storesExecutor state.backendsConfig.list id
  let answer := apiBackendsPolling host id body state
  if answer.1.status = 200 then
    KeepsNumbers body (state.health.config id isExecutor) (answer.2.health.config id isExecutor)
  else answer.2 = state

/--
The stored configuration has the numbers that were asked for exactly when every number
given is below the limit of its field and every number left out is in range.
-/
theorem polling_keeps_numbers_iff (host : Host) (id : String) (body : Json)
    (state : ConfigState) :
    KeepsPolling host id body state ↔
      (BackendStore.hasId state.backendsConfig.list id = true →
        InRange body
          (state.health.config id (storesExecutor state.backendsConfig.list id))) := by
  unfold KeepsPolling apiBackendsPolling
  cases stored : BackendStore.hasId state.backendsConfig.list id with
  | false => simp [errorReply, jsonReply]
  | true =>
      have config (cfg : PollConfig) (isExecutor : Bool) :
          ((state.health.setConfig id cfg).resetState id).config id isExecutor = cfg :=
        HealthMonitor.config_setConfig_self id cfg state.health isExecutor
      simp only [if_true, pollingReply, jsonReply, config, keepsNumbers_iff, forall_const]

/-- A server with one backend, and a threshold that is cut to zero. -/
def polledState : ConfigState :=
  ⟨⟨[{ provider := "mock" }], ⟨none, none⟩⟩, .empty, ∅, {}⟩

theorem not_polling_keeps_numbers :
    ¬ ∀ host id body state, KeepsPolling host id body state := by
  intro keeps
  have accepted := keeps Host.compact "mock"
    (.obj [("removeThreshold", .num (.posInt 4294967296))]) polledState
  unfold KeepsPolling at accepted
  rw [if_pos (by decide)] at accepted
  exact absurd (accepted.positive .removeThreshold) (by decide)

end AiPowerGateway.Share

import AiPowerGateway.Share.Api
import AiPowerGateway.Systems.Threads

/-!
# How far a member overshoots a quota

A request is checked against the total of its member when it arrives and recorded when
its answer is there, so requests that overlap are admitted under the same total.  What
the total can exceed the limit by is what was in flight after the latest admission.
-/

namespace AiPowerGateway.Share

open Systems Threads

inductive RequestPhase where
  | arriving
  | refused
  | inFlight
  /-- The call is recorded, the tokens of its rule set not yet. -/
  | recorded
  | finished
  deriving DecidableEq, Repr

/-- A request with the tokens that its answer is going to report; none when it fails. -/
structure MeteredRequest where
  memberId : String
  providerLabel : String
  candidate : String
  ruleSet : String
  answer : Option (UInt64 × UInt64)
  phase : RequestPhase := .arriving
  deriving DecidableEq, Repr

/-- What the requests share. -/
structure Metering where
  usage : UsageService Nat
  quota : QuotaService

abbrev Requests := Pool Metering MeteredRequest

namespace MeteredRequest

def tokens (request : MeteredRequest) : Nat :=
  match request.answer with
  | some (promptTokens, completionTokens) => promptTokens.toNat + completionTokens.toNat
  | none => 0

/-- One turn.  The limit is fixed, so the check is settled when the total is read. -/
def advance (_ : Unit) (metering : Metering) (request : MeteredRequest) :
    Option (Turn Metering MeteredRequest) :=
  match request.phase with
  | .arriving =>
      match metering.quota.check request.memberId (metering.usage.used request.memberId) with
      | .ok () => some ⟨metering, { request with phase := .inFlight }, []⟩
      | .error _ => some ⟨metering, { request with phase := .refused }, []⟩
  | .inFlight =>
      match request.answer with
      | some (promptTokens, completionTokens) =>
          some ⟨{ metering with
              usage := metering.usage.record request.memberId request.providerLabel
                request.candidate promptTokens completionTokens },
            { request with phase := .recorded }, []⟩
      | none => some ⟨metering, { request with phase := .finished }, []⟩
  | .recorded =>
      some ⟨{ metering with
          usage := metering.usage.recordRule request.memberId request.ruleSet request.tokens },
        { request with phase := .finished }, []⟩
  | .refused | .finished => none

/-- What a request in flight is going to add to the total of a member. -/
def owed (memberId : String) (request : MeteredRequest) : Nat :=
  if request.phase = .inFlight ∧ request.memberId = memberId then request.tokens else 0

end MeteredRequest

/-- Requests of any members, which arrive at any time and take turns in any order. -/
def meteringProgram : Program Unit Metering MeteredRequest where
  entry request := request.phase = .arriving
  advance := MeteredRequest.advance

/-- The requests from a service on that has none in flight. -/
def requestsFrom (metering : Metering) : TransitionSystem Requests :=
  meteringProgram.system ⟨metering, []⟩ Program.anySchedule

/-- A request of the member is admitted. -/
def Admits (memberId : String) (pool next : Requests) : Prop :=
  ∃ (index : Nat) (request : MeteredRequest), pool.threads[index]? = some request ∧
    request.memberId = memberId ∧ request.phase = .arriving ∧
      next.threads[index]? = some { request with phase := .inFlight }

namespace Requests

def used (memberId : String) (pool : Requests) : Nat := pool.shared.usage.used memberId

/-- The tokens of the member's requests that were admitted and are not recorded. -/
def inFlight (memberId : String) (pool : Requests) : Nat :=
  (pool.threads.map (MeteredRequest.owed memberId)).sum

end Requests

/-! ## One request -/

theorem used_record (memberId providerLabel candidate : String)
    (promptTokens completionTokens : UInt64) (usage : UsageService Nat) (member : String) :
    (usage.record memberId providerLabel candidate promptTokens completionTokens).used member =
      usage.used member +
        if memberId = member then promptTokens.toNat + completionTokens.toNat else 0 := by
  by_cases same : memberId = member
  · subst same
    rw [if_pos rfl]
    unfold UsageService.used UsageService.record
    rw [HashMap.lookup_upsert_self]
    cases usage.lookup memberId with
    | none =>
        show 0 + promptTokens.toNat + (0 + completionTokens.toNat) =
          0 + (promptTokens.toNat + completionTokens.toNat)
        omega
    | some entry =>
        show entry.promptTokens + promptTokens.toNat +
            (entry.completionTokens + completionTokens.toNat) =
          entry.promptTokens + entry.completionTokens + _
        omega
  · rw [if_neg same, Nat.add_zero, UsageService.used,
      UsageService.lookup_record_ne (Ne.symm same), UsageService.used]

theorem used_recordRule (memberId ruleSet : String) (tokens : Nat) (usage : UsageService Nat)
    (member : String) :
    (usage.recordRule memberId ruleSet tokens).used member = usage.used member := by
  cases found : usage.lookup memberId with
  | some entry =>
      exact UsageService.used_recordRule (by rw [found]; rfl) ruleSet tokens member
  | none =>
      unfold UsageService.recordRule
      split
      · rfl
      · by_cases same : member = memberId
        · subst same
          rw [UsageService.used, HashMap.lookup_upsert_self, UsageService.used, found]
          rfl
        · rw [UsageService.used, HashMap.lookup_upsert_ne same, UsageService.used]

namespace MeteredRequest

variable {metering : Metering} {request : MeteredRequest} {turn : Turn Metering MeteredRequest}

/-- Everything one turn can do. -/
theorem advance_cases (advances : request.advance () metering = some turn) :
    (request.phase = .arriving ∧
        metering.quota.check request.memberId (metering.usage.used request.memberId) = .ok () ∧
        turn = ⟨metering, { request with phase := .inFlight }, []⟩) ∨
      (request.phase = .arriving ∧ turn = ⟨metering, { request with phase := .refused }, []⟩) ∨
      (request.phase = .inFlight ∧ ∃ promptTokens completionTokens,
        request.answer = some (promptTokens, completionTokens) ∧
        turn = ⟨{ metering with
            usage := metering.usage.record request.memberId request.providerLabel
              request.candidate promptTokens completionTokens },
          { request with phase := .recorded }, []⟩) ∨
      (request.phase = .inFlight ∧ request.answer = none ∧
        turn = ⟨metering, { request with phase := .finished }, []⟩) ∨
      (request.phase = .recorded ∧
        turn = ⟨{ metering with
            usage := metering.usage.recordRule request.memberId request.ruleSet request.tokens },
          { request with phase := .finished }, []⟩) := by
  unfold advance at advances
  cases phase : request.phase with
  | arriving =>
      rw [phase] at advances
      cases verdict : metering.quota.check request.memberId
          (metering.usage.used request.memberId) with
      | ok admitted =>
          simp only [verdict, Option.some.injEq] at advances
          exact .inl ⟨rfl, rfl, advances.symm⟩
      | error exceeded =>
          simp only [verdict, Option.some.injEq] at advances
          exact .inr (.inl ⟨rfl, advances.symm⟩)
  | inFlight =>
      rw [phase] at advances
      cases answer : request.answer with
      | none =>
          simp only [answer, Option.some.injEq] at advances
          exact .inr (.inr (.inr (.inl ⟨rfl, rfl, advances.symm⟩)))
      | some tokens =>
          obtain ⟨promptTokens, completionTokens⟩ := tokens
          simp only [answer, Option.some.injEq] at advances
          exact .inr (.inr (.inl ⟨rfl, promptTokens, completionTokens, rfl, advances.symm⟩))
  | recorded =>
      simp only [phase, Option.some.injEq] at advances
      exact .inr (.inr (.inr (.inr ⟨rfl, advances.symm⟩)))
  | refused =>
      simp only [phase] at advances
      cases advances
  | finished =>
      simp only [phase] at advances
      cases advances

theorem owed_of_phase {memberId : String} (phase : request.phase ≠ .inFlight) :
    request.owed memberId = 0 :=
  if_neg fun both => phase both.1

/-- A request that has landed owes nothing. -/
theorem owed_landed {memberId : String} {phase : RequestPhase} (landed : phase ≠ .inFlight) :
    MeteredRequest.owed memberId { request with phase := phase } = 0 :=
  owed_of_phase landed

end MeteredRequest

/-- The two turns of an answered request leave the usage that its handler leaves. -/
theorem meter_eq_turns (session : Session) (providerLabel candidate ruleSet : String) (resp : Json)
    (metering : Metering) :
    ∃ recorded finished : Turn Metering MeteredRequest,
      MeteredRequest.advance () metering
          { memberId := session.memberId, providerLabel := providerLabel, candidate := candidate
            ruleSet := ruleSet, answer := some (extractOpenaiUsage resp), phase := .inFlight } =
        some recorded ∧
      MeteredRequest.advance () recorded.shared recorded.thread = some finished ∧
      finished.thread.phase = .finished ∧ finished.shared.usage =
        meter session providerLabel candidate ruleSet resp metering.usage := by
  refine ⟨_, _, rfl, rfl, rfl, ?_⟩
  unfold meter
  by_cases unruled : ruleSet = ""
  · subst unruled
    rfl
  · simp only [unruled, ↓reduceIte]
    rfl

/-! ## One step -/

section Step

variable {metering : Metering} {memberId : String} {pool next : Requests}

/-- Everything one step can do: a request arrives, or one of them takes its turn. -/
theorem step_cases (moves : (requestsFrom metering).step pool next) :
    (∃ request : MeteredRequest, request.phase = .arriving ∧
        next = ⟨pool.shared, pool.threads ++ [request]⟩) ∨
      ∃ (index : Nat) (request : MeteredRequest) (turn : Turn Metering MeteredRequest),
        pool.threads[index]? = some request ∧
          request.advance () pool.shared = some turn ∧
            next = ⟨turn.shared, pool.threads.set index turn.thread⟩ := by
  obtain ⟨action, -, performed⟩ := moves
  rcases Program.perform_cases performed with
    ⟨request, -, arrives, rfl⟩ | ⟨index, input, request, turn, -, found, advances, rfl⟩
  · exact .inl ⟨request, of_decide_eq_true arrives, rfl⟩
  · refine .inr ⟨index, request, turn, found, advances, ?_⟩
    have childless : turn.forked = [] := by
      rcases MeteredRequest.advance_cases advances with
        ⟨-, -, rfl⟩ | ⟨-, rfl⟩ | ⟨-, _, _, -, rfl⟩ | ⟨-, -, rfl⟩ | ⟨-, rfl⟩ <;> rfl
    rw [Program.afterTurn, childless, List.append_nil]

theorem quota_step (moves : (requestsFrom metering).step pool next) :
    next.shared.quota = pool.shared.quota := by
  rcases step_cases moves with ⟨request, -, rfl⟩ | ⟨index, request, turn, -, advances, rfl⟩
  · rfl
  · rcases MeteredRequest.advance_cases advances with
      ⟨-, -, rfl⟩ | ⟨-, rfl⟩ | ⟨-, _, _, -, rfl⟩ | ⟨-, -, rfl⟩ | ⟨-, rfl⟩ <;> rfl

/-- A total never decreases. -/
theorem used_step (moves : (requestsFrom metering).step pool next) :
    Requests.used memberId pool ≤ Requests.used memberId next := by
  rcases step_cases moves with ⟨request, -, rfl⟩ | ⟨index, request, turn, -, advances, rfl⟩
  · exact Nat.le_refl _
  · rcases MeteredRequest.advance_cases advances with
      ⟨-, -, rfl⟩ | ⟨-, rfl⟩ | ⟨-, _, _, -, rfl⟩ | ⟨-, -, rfl⟩ | ⟨-, rfl⟩
    · exact Nat.le_refl _
    · exact Nat.le_refl _
    · show _ ≤ UsageService.used memberId (UsageService.record ..)
      rw [used_record]
      exact Nat.le_add_right _ _
    · exact Nat.le_refl _
    · show _ ≤ UsageService.used memberId (UsageService.recordRule ..)
      rw [used_recordRule]
      exact Nat.le_refl _

/-- An admission is a check that passes, and it changes no total. -/
theorem check_of_admits (moves : (requestsFrom metering).step pool next)
    (admits : Admits memberId pool next) :
    pool.shared.quota.check memberId (Requests.used memberId pool) = .ok () ∧
      Requests.used memberId next = Requests.used memberId pool := by
  obtain ⟨position, admitted, waiting, own, arriving, through⟩ := admits
  rcases step_cases moves with ⟨request, -, rfl⟩ | ⟨index, request, turn, found, advances, rfl⟩
  · have bound := (List.getElem?_eq_some_iff.mp waiting).1
    rw [List.getElem?_append_left bound, waiting, Option.some.injEq] at through
    rw [through] at arriving
    cases arriving
  · by_cases same : index = position
    · subst same
      rw [waiting, Option.some.injEq] at found
      subst found
      rw [List.getElem?_set_self (List.getElem?_eq_some_iff.mp waiting).1,
        Option.some.injEq] at through
      rcases MeteredRequest.advance_cases advances with
        ⟨-, passes, rfl⟩ | ⟨-, rfl⟩ | ⟨flying, -⟩ | ⟨flying, -⟩ | ⟨recorded, -⟩
      · exact ⟨own ▸ passes, rfl⟩
      · cases congrArg MeteredRequest.phase through
      · rw [arriving] at flying
        cases flying
      · rw [arriving] at flying
        cases flying
      · rw [arriving] at recorded
        cases recorded
    · rw [List.getElem?_set_ne same, waiting, Option.some.injEq] at through
      rw [through] at arriving
      cases arriving

/-- Without an admission the tokens in flight only move to the total. -/
theorem balance_step (moves : (requestsFrom metering).step pool next)
    (plain : ¬ Admits memberId pool next) :
    Requests.used memberId next + Requests.inFlight memberId next =
      Requests.used memberId pool + Requests.inFlight memberId pool := by
  rcases step_cases moves with
    ⟨request, arriving, rfl⟩ | ⟨index, request, turn, found, advances, rfl⟩
  · have idle : request.owed memberId = 0 := MeteredRequest.owed_of_phase (by simp [arriving])
    simp [Requests.used, Requests.inFlight, idle]
  · have exchanged := Program.sum_map_set (MeteredRequest.owed memberId) turn.thread found
    show UsageService.used memberId turn.shared.usage +
        ((pool.threads.set index turn.thread).map (MeteredRequest.owed memberId)).sum =
      UsageService.used memberId pool.shared.usage +
        (pool.threads.map (MeteredRequest.owed memberId)).sum
    rcases MeteredRequest.advance_cases advances with
      ⟨arriving, passes, rfl⟩ | ⟨arriving, rfl⟩ | ⟨flying, promptTokens, completionTokens, answer,
        rfl⟩ | ⟨flying, answer, rfl⟩ | ⟨recorded, rfl⟩
    · have other : request.memberId ≠ memberId := fun own =>
        plain ⟨index, request, found, own, arriving,
          List.getElem?_set_self (List.getElem?_eq_some_iff.mp found).1⟩
      have before : request.owed memberId = 0 := if_neg fun both => other both.2
      have after : MeteredRequest.owed memberId { request with phase := .inFlight } = 0 :=
        if_neg fun both => other both.2
      rw [before, after] at exchanged
      exact congrArg (_ + ·) exchanged
    · have before : request.owed memberId = 0 :=
        MeteredRequest.owed_of_phase (by rw [arriving]; decide)
      rw [before, MeteredRequest.owed_landed (by decide)] at exchanged
      exact congrArg (_ + ·) exchanged
    · have before : request.owed memberId =
          if request.memberId = memberId then promptTokens.toNat + completionTokens.toNat
          else 0 := by
        simp only [MeteredRequest.owed, MeteredRequest.tokens, flying, answer, true_and]
      rw [before, MeteredRequest.owed_landed (by decide)] at exchanged
      rw [used_record, Nat.add_assoc, Nat.add_comm (ite _ _ _), exchanged, Nat.add_zero]
    · have before : request.owed memberId = 0 := by
        simp only [MeteredRequest.owed, MeteredRequest.tokens, answer, ite_self]
      rw [before, MeteredRequest.owed_landed (by decide)] at exchanged
      exact congrArg (_ + ·) exchanged
    · have before : request.owed memberId = 0 :=
        MeteredRequest.owed_of_phase (by rw [recorded]; decide)
      rw [before, MeteredRequest.owed_landed (by decide)] at exchanged
      rw [used_recordRule]
      exact congrArg (_ + ·) exchanged

end Step

/-! ## Every run -/

section Runs

variable {metering : Metering} {memberId : String} {limit : UInt64} {pool next : Requests}

theorem quota_reachable (reached : (requestsFrom metering).Reachable pool) :
    pool.shared.quota = metering.quota := by
  have fixed : (requestsFrom metering).Inductive fun pool =>
      pool.shared.quota = metering.quota :=
    { start := fun starts => by rw [show _ = _ from starts]
      step := fun same moves => (quota_step moves).trans same }
  exact fixed.reachable reached

theorem used_run {later : Requests}
    (run : Relation.ReflTransGen (requestsFrom metering).step pool later) :
    Requests.used memberId pool ≤ Requests.used memberId later := by
  induction run with
  | refl => exact Nat.le_refl _
  | tail _ moves ih => exact Nat.le_trans ih (used_step moves)

/-- Under its limit is where an admission finds a member. -/
theorem used_lt_of_admits (limited : metering.quota.lookup memberId = some limit)
    (positive : 0 < limit) (reached : (requestsFrom metering).Reachable pool)
    (moves : (requestsFrom metering).step pool next) (admits : Admits memberId pool next) :
    Requests.used memberId pool < limit.toNat := by
  obtain ⟨passes, -⟩ := check_of_admits moves admits
  rw [quota_reachable reached] at passes
  have below := QuotaService.check_eq_ok.mp passes limit limited positive
  exact Nat.not_le.mp (of_decide_eq_false below)

/-- Since the latest admission a total has grown by what was in flight then at most. -/
theorem used_le_of_runSince (limited : metering.quota.lookup memberId = some limit)
    (positive : 0 < limit) (below : metering.usage.used memberId < limit.toNat)
    {latest : Option Requests}
    (run : (requestsFrom metering).RunSince (Admits memberId) latest pool) :
    Requests.used memberId pool ≤
      (limit.toNat - 1) + (latest.map (Requests.inFlight memberId)).getD 0 := by
  obtain ⟨origin, isOrigin, same⟩ := TransitionSystem.RunSince.kept balance_step run
  rcases isOrigin with marked | ⟨unmarked, starts⟩
  · obtain ⟨before, reached, moves, admits⟩ := run.exists_marked marked
    have under := used_lt_of_admits limited positive reached moves admits
    rw [← (check_of_admits moves admits).2] at under
    rw [marked, Option.map_some, Option.getD_some]
    omega
  · have first : origin = ⟨metering, []⟩ := starts
    have idle : Requests.inFlight memberId origin = 0 := by rw [first]; rfl
    have under : Requests.used memberId origin < limit.toNat := by rw [first]; exact below
    rw [unmarked, Option.map_none, Option.getD_none]
    omega

/--
The total of a member stays below the limit plus the tokens that were in flight right after
the latest admission, and from the limit on nothing is admitted any more.
-/
theorem overshoot_bound (limited : metering.quota.lookup memberId = some limit)
    (positive : 0 < limit) (below : metering.usage.used memberId < limit.toNat) :
    (∀ pool, (requestsFrom metering).Reachable pool →
        ∃ latest, (requestsFrom metering).RunSince (Admits memberId) latest pool) ∧
      (∀ latest pool, (requestsFrom metering).RunSince (Admits memberId) latest pool →
        Requests.used memberId pool ≤
          (limit.toNat - 1) + (latest.map (Requests.inFlight memberId)).getD 0) ∧
      ∀ pool, (requestsFrom metering).Reachable pool →
        limit.toNat ≤ Requests.used memberId pool →
          ∀ later, Relation.ReflTransGen (requestsFrom metering).step pool later →
            ∀ next, (requestsFrom metering).step later next → ¬ Admits memberId later next := by
  refine ⟨fun pool reached => reached.exists_runSince _,
    fun latest pool run => used_le_of_runSince limited positive below run, ?_⟩
  intro pool reached full later run next moves admits
  obtain ⟨first, starts, before⟩ := reached
  have under := used_lt_of_admits limited positive ⟨first, starts, before.trans run⟩ moves admits
  have grown : Requests.used memberId pool ≤ Requests.used memberId later := used_run run
  omega

/-- A member without usage under a limit of a hundred tokens. -/
def limitedMetering : Metering where
  usage := ∅
  quota := QuotaService.set "pc-1" 100 ∅

theorem overshoot_bound_limited :
    (∀ pool, (requestsFrom limitedMetering).Reachable pool →
        ∃ latest, (requestsFrom limitedMetering).RunSince (Admits "pc-1") latest pool) ∧
      (∀ latest pool, (requestsFrom limitedMetering).RunSince (Admits "pc-1") latest pool →
        Requests.used "pc-1" pool ≤
          ((100 : UInt64).toNat - 1) + (latest.map (Requests.inFlight "pc-1")).getD 0) ∧
      ∀ pool, (requestsFrom limitedMetering).Reachable pool →
        (100 : UInt64).toNat ≤ Requests.used "pc-1" pool →
          ∀ later, Relation.ReflTransGen (requestsFrom limitedMetering).step pool later →
            ∀ next, (requestsFrom limitedMetering).step later next →
              ¬ Admits "pc-1" later next :=
  overshoot_bound (by decide) (by decide) (by decide)

end Runs

end AiPowerGateway.Share

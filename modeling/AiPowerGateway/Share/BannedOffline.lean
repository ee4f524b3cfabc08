import AiPowerGateway.Share.BanBookkeeping
import AiPowerGateway.Share.Renames
import AiPowerGateway.Share.ServedAnswers

/-!
# Whether a banned member stays offline

A ban marks the member as offline.  It does not end the member's session, and a machine
that asks for a token again is given the one it has, and counts as seen.
-/

namespace AiPowerGateway.Share

open Systems EventRuns

variable {τ : Type}

namespace MemberRegistry

/-! ## The flag of a member -/

/-- Whether a registered machine is marked as online. -/
def onlineFlag? (machineName : String) (registry : MemberRegistry) : Option Bool :=
  (registry.members.lookup machineName).map Member.online

/-- Every member is registered under its own name. -/
def Keyed (registry : MemberRegistry) : Prop :=
  ∀ machineName member, registry.members.lookup machineName = some member →
    member.memberId = machineName

/-- At no time is the member listed as online. -/
def Offline (machineName : String) (registry : MemberRegistry) : Prop :=
  ∀ now, ∀ member ∈ registry.all now, member.memberId = machineName → member.online = false

theorem mem_all {registry : MemberRegistry} {now : UInt64} {member : Member} :
    member ∈ registry.all now ↔ ∃ machineName stored,
      registry.members.lookup machineName = some stored ∧
        member = { stored with online := stored.isOnline now registry.timeoutSecs } := by
  rw [all, List.mem_insertionSort, List.mem_map]
  simp only [HashMap.mem_values]
  constructor
  · rintro ⟨stored, ⟨machineName, found⟩, rfl⟩
    exact ⟨machineName, stored, found, rfl⟩
  · rintro ⟨machineName, stored, found, rfl⟩
    exact ⟨stored, ⟨machineName, found⟩, rfl⟩

/-- A member that is marked as online is listed as online when it was last seen. -/
theorem isOnline_lastSeen (member : Member) (timeout : UInt64) :
    member.isOnline member.lastSeen timeout = member.online := by
  simp [Member.isOnline]

theorem offline_iff {registry : MemberRegistry} (keyed : registry.Keyed) {machineName : String} :
    registry.Offline machineName ↔ registry.onlineFlag? machineName ≠ some true := by
  constructor
  · intro offline marked
    obtain ⟨member, found, online⟩ := Option.map_eq_some_iff.mp marked
    have listed := offline member.lastSeen _ (mem_all.mpr ⟨machineName, member, found, rfl⟩)
      (keyed machineName member found)
    rw [isOnline_lastSeen, online] at listed
    cases listed
  · rintro unmarked now _ mem named
    obtain ⟨key, member, found, rfl⟩ := mem_all.mp mem
    obtain rfl : key = machineName := (keyed key member found).symm.trans named
    cases online : member.online with
    | false => simp [Member.isOnline, online]
    | true => exact absurd (by rw [onlineFlag?, found, Option.map_some, online]) unmarked

/-! ### What changes it -/

@[simp] theorem onlineFlag?_upsert_self (machineName displayName ip : String) (now : UInt64)
    (registry : MemberRegistry) :
    (registry.upsert machineName displayName ip now).onlineFlag? machineName = some true := by
  unfold upsert onlineFlag?
  rw [HashMap.lookup_upsert_self]
  rfl

theorem onlineFlag?_upsert_ne {machineName other : String} (differ : other ≠ machineName)
    (displayName ip : String) (now : UInt64) (registry : MemberRegistry) :
    (registry.upsert machineName displayName ip now).onlineFlag? other =
      registry.onlineFlag? other := by
  unfold upsert onlineFlag?
  rw [HashMap.lookup_upsert_ne differ]

theorem onlineFlag?_rename (machineName newDisplay : String) (registry : MemberRegistry)
    (other : String) :
    (registry.rename machineName newDisplay).2.onlineFlag? other =
      registry.onlineFlag? other := by
  unfold rename onlineFlag?
  cases found : registry.members.lookup machineName with
  | none => rfl
  | some member =>
      by_cases same : other = machineName
      · subst same
        simp [AList.lookup_insert, found]
      · simp [AList.lookup_insert_ne same]

theorem onlineFlag?_markOffline_self (machineName : String) (registry : MemberRegistry) :
    (registry.markOffline machineName).onlineFlag? machineName ≠ some true := by
  unfold markOffline onlineFlag?
  cases found : registry.members.lookup machineName with
  | none => simp [found]
  | some member => simp [AList.lookup_insert]

theorem onlineFlag?_markOffline_ne {machineName other : String} (differ : other ≠ machineName)
    (registry : MemberRegistry) :
    (registry.markOffline machineName).onlineFlag? other = registry.onlineFlag? other := by
  unfold markOffline onlineFlag?
  cases found : registry.members.lookup machineName with
  | none => rfl
  | some member => simp [AList.lookup_insert_ne differ]

theorem onlineFlag?_sweep {now : UInt64} {registry : MemberRegistry} {machineName : String}
    (marked : (registry.sweep now).onlineFlag? machineName = some true) :
    registry.onlineFlag? machineName = some true := by
  unfold sweep onlineFlag? at marked
  rw [HashMap.lookup_mapValues] at marked
  unfold onlineFlag?
  cases found : registry.members.lookup machineName with
  | none => simp [found] at marked
  | some member =>
      rw [found, Option.map_some, Option.map_some] at marked
      split at marked
      · cases marked
      · exact marked

/-! ### Members keep their names -/

theorem Keyed.upsert {registry : MemberRegistry} (keyed : registry.Keyed)
    (machineName displayName ip : String) (now : UInt64) :
    (registry.upsert machineName displayName ip now).Keyed := by
  intro other member found
  unfold MemberRegistry.upsert at found
  by_cases same : other = machineName
  · subst same
    rw [HashMap.lookup_upsert_self] at found
    obtain rfl := Option.some.inj found
    cases stored : registry.members.lookup other with
    | none => rfl
    | some before => exact keyed other before stored
  · rw [HashMap.lookup_upsert_ne same] at found
    exact keyed other member found

theorem Keyed.replace {registry : MemberRegistry} (keyed : registry.Keyed)
    {machineName : String} {before after : Member}
    (stored : registry.members.lookup machineName = some before)
    (same : after.memberId = before.memberId) :
    Keyed { registry with members := registry.members.insert machineName after } := by
  intro other member found
  by_cases own : other = machineName
  · subst own
    rw [AList.lookup_insert] at found
    obtain rfl := Option.some.inj found
    exact same.trans (keyed other before stored)
  · rw [AList.lookup_insert_ne own] at found
    exact keyed other member found

theorem Keyed.rename {registry : MemberRegistry} (keyed : registry.Keyed)
    (machineName newDisplay : String) : (registry.rename machineName newDisplay).2.Keyed := by
  unfold MemberRegistry.rename
  cases stored : registry.members.lookup machineName with
  | none => exact keyed
  | some before => exact keyed.replace stored rfl

theorem Keyed.markOffline {registry : MemberRegistry} (keyed : registry.Keyed)
    (machineName : String) : (registry.markOffline machineName).Keyed := by
  unfold MemberRegistry.markOffline
  cases stored : registry.members.lookup machineName with
  | none => exact keyed
  | some before => exact keyed.replace stored rfl

theorem Keyed.sweep {registry : MemberRegistry} (keyed : registry.Keyed) (now : UInt64) :
    (registry.sweep now).Keyed := by
  intro machineName member found
  unfold MemberRegistry.sweep at found
  rw [HashMap.lookup_mapValues, Option.map_eq_some_iff] at found
  obtain ⟨before, stored, rfl⟩ := found
  split <;> exact keyed machineName before stored

end MemberRegistry

/-! ## Asking for a token again -/

/-- A machine that has a live session asks for a token, and is given the one it has. -/
structure ApiState.Rejoins (now : UInt64) (body : Json) (state : ApiState τ)
    (machine : String) : Prop where
  sharing : state.sharing = true
  asks : body.textOr "machineName" "" = machine
  named : machine ≠ ""
  unforced : ((body.get? "force").bind Json.asBool?).getD false = false
  live : (state.auth.liveSession now machine).isSome

/-- A banned machine is given a token exactly when it has a live one that it may keep. -/
theorem issueOrRotate_of_banned (now : UInt64) (genToken : String) (dropped issued : WriteOutcome)
    (ip : String) (body : Json) (auth : AuthService)
    (banned : body.textOr "machineName" "" ∈ auth.banned) :
    (∃ session, (issueOrRotate now genToken dropped issued ip body auth).1 = .ok session) ↔
      ((body.get? "force").bind Json.asBool?).getD false = false ∧
        (auth.liveSession now (body.textOr "machineName" "")).isSome := by
  have issues (service : AuthService) (still : body.textOr "machineName" "" ∈ service.banned) :
      (∃ session, (service.issue now genToken issued (body.textOr "machineName" "")
          (body.textOr "displayName" "") ip).1 = .ok session) ↔
        (service.liveSession now (body.textOr "machineName" "")).isSome := by
    rcases service.issue_cases now genToken issued (body.textOr "machineName" "")
        (body.textOr "displayName" "") ip with
      ⟨existing, live, issued⟩ | ⟨none, -, issued⟩ | ⟨-, -, free, -⟩
    · simp [live, issued]
    · simp [none, issued]
    · exact absurd still free
  unfold issueOrRotate
  dsimp only
  cases force : ((body.get? "force").bind Json.asBool?).getD false with
  | false =>
      rw [if_neg Bool.false_ne_true, issues auth banned]
      simp
  | true =>
      have still : body.textOr "machineName" "" ∈ ({ auth with
          sessions := auth.sessions.retain fun session =>
            session.memberId ≠ body.textOr "machineName" "" }.saveSessions dropped).banned := by
        rw [AuthService.saveSessions_banned]
        exact banned
      rw [if_pos rfl, AuthService.rotate, issues _ still, auth.liveSession_retain]
      simp

/-- A banned machine is registered again when it rejoins, and not otherwise. -/
theorem members_authToken_banned (host : Host) (now : UInt64) (genToken : String)
    (dropped issued : WriteOutcome) (ip : String) (body : Json) (state : ApiState τ)
    (banned : body.textOr "machineName" "" ∈ state.auth.banned) :
    state.Rejoins now body (body.textOr "machineName" "") ∧
        (authToken host now genToken dropped issued ip body state).2.members =
          state.members.upsert (body.textOr "machineName" "") (body.textOr "displayName" "") ip
            now ∨
      ¬ state.Rejoins now body (body.textOr "machineName" "") ∧
        (authToken host now genToken dropped issued ip body state).2.members =
          state.members := by
  have given := issueOrRotate_of_banned now genToken dropped issued ip body state.auth banned
  unfold authToken
  by_cases sharing : state.sharing = true
  · rw [if_neg (not_not.mpr sharing)]
    by_cases named : body.textOr "machineName" "" = ""
    · exact Or.inr ⟨fun rejoins => rejoins.named named, by rw [if_pos named]⟩
    · rw [if_neg named]
      cases called : issueOrRotate now genToken dropped issued ip body state.auth with
      | mk result auth =>
          rw [called] at given
          cases result with
          | ok session =>
              obtain ⟨unforced, live⟩ := given.mp ⟨session, rfl⟩
              exact Or.inl ⟨⟨sharing, rfl, named, unforced, live⟩, rfl⟩
          | error refused =>
              refine Or.inr ⟨fun rejoins => ?_, rfl⟩
              obtain ⟨session, ok⟩ := given.mpr ⟨rejoins.unforced, rejoins.live⟩
              cases ok
  · exact Or.inr ⟨fun rejoins => sharing rejoins.sharing, by rw [if_pos sharing]⟩

/-! ## Runs -/

/-- What can touch a member: a request, the panel, or the sweep. -/
inductive MemberEvent where
  | request (event : NameEvent)
  | revoke (banWritten sessionsWritten : WriteOutcome) (body : Json)
  | unban (outcome : WriteOutcome) (body : Json)
  | sweep (now : UInt64)

/-- The service, and the members that were registered when they were banned, and still are. -/
structure BanWatch (τ : Type) where
  api : ApiState τ
  held : Finset String

namespace BanWatch

def step [Counter τ] (host : Host) : MemberEvent → BanWatch τ → BanWatch τ
  | .request event, watch => { watch with api := event.serve host watch.api }
  | .revoke banWritten sessionsWritten body, watch =>
      let memberId := body.textOr "memberId" ""
      { api := (controlRevoke host banWritten sessionsWritten body watch.api).2
        held :=
          if (watch.api.members.members.lookup memberId).isSome then insert memberId watch.held
          else watch.held }
  | .unban outcome body, watch =>
      { api := (controlUnban host outcome body watch.api).2
        held :=
          if body.textOr "memberId" "" = "" then watch.held
          else watch.held.erase (body.textOr "memberId" "") }
  | .sweep now, watch =>
      { watch with api := { watch.api with members := watch.api.members.sweep now } }

/-- Whoever was banned is offline. -/
def Kept (watch : BanWatch τ) : Prop :=
  ∀ memberId ∈ watch.held, watch.api.members.Offline memberId

/-- Members are registered under their own names, and the watched ones are banned. -/
structure Sound (watch : BanWatch τ) : Prop where
  keyed : watch.api.members.Keyed
  banned : ∀ memberId ∈ watch.held, memberId ∈ watch.api.auth.banned

/-- A process that has seen nobody yet. -/
def start (api : ApiState τ) : BanWatch τ := ⟨api, ∅⟩

end BanWatch

/-- No request counts as a sign of life of a member that is watched. -/
def MemberEvent.KeepsAway : MemberEvent → BanWatch τ → Prop
  | .request (.authToken now _ _ _ _ body), watch =>
      ∀ memberId ∈ watch.held, ¬ watch.api.Rejoins now body memberId
  | .request (.chatCompletions _ now headers _), watch
  | .request (.messages _ now headers _), watch =>
      watch.api.sharing = true → ∀ session, watch.api.signedIn now headers = some session →
        session.machineName ∉ watch.held
  | _, _ => True

/-! ### What a request does to the registry -/

section Requests

variable [Counter τ] (host : Host) (event : NameEvent) (api : ApiState τ)

omit [Counter τ] in
theorem membersSeen_cases (now : UInt64) (headers : HeaderMap) :
    (∃ session, api.sharing = true ∧ api.signedIn now headers = some session ∧
        api.membersSeen now headers =
          api.members.upsert session.machineName session.displayName "" now) ∨
      (api.sharing = true → api.signedIn now headers = none) ∧
        api.membersSeen now headers = api.members := by
  unfold ApiState.membersSeen
  by_cases sharing : api.sharing = true
  · rw [if_pos sharing]
    cases signed : api.signedIn now headers with
    | none => exact Or.inr ⟨fun _ => rfl, rfl⟩
    | some session => exact Or.inl ⟨session, sharing, rfl, rfl⟩
  · rw [if_neg sharing]
    exact Or.inr ⟨fun on => absurd on sharing, rfl⟩

/-- A request registers a machine, renames one, or leaves the registry alone. -/
theorem members_serve :
    (event.serve host api).members = api.members ∨
      (∃ machine display ip now,
        (event.serve host api).members = api.members.upsert machine display ip now) ∨
      ∃ machine display,
        (event.serve host api).members = (api.members.rename machine display).2 := by
  have seen (now : UInt64) (headers : HeaderMap) :
      api.membersSeen now headers = api.members ∨
        ∃ machine display ip now',
          api.membersSeen now headers = api.members.upsert machine display ip now' := by
    rcases membersSeen_cases api now headers with ⟨session, -, -, upserted⟩ | ⟨-, same⟩
    · exact Or.inr ⟨_, _, _, _, upserted⟩
    · exact Or.inl same
  cases event with
  | authToken now genToken dropped issued ip body =>
      rcases members_authToken host now genToken dropped issued ip body api with same | upserted
      · exact Or.inl same
      · exact Or.inr (Or.inl ⟨_, _, _, _, upserted⟩)
  | authRename now headers body =>
      rcases authRename_cases host now headers body api with ⟨_, -, -, -, renamed⟩ | ⟨-, -, same⟩
      · exact Or.inr (Or.inr ⟨_, _, renamed⟩)
      · exact Or.inl same
  | controlRename body =>
      rcases controlRename_cases host body api with ⟨-, -, renamed⟩ | ⟨-, same⟩
      · exact Or.inr (Or.inr ⟨_, _, renamed⟩)
      · exact Or.inl same
  | chatCompletions net now headers body =>
      rw [NameEvent.serve, members_chatCompletions, ← or_assoc]
      exact Or.inl (seen now headers)
  | messages outcome now headers raw =>
      rw [NameEvent.serve, members_messages, ← or_assoc]
      exact Or.inl (seen now headers)

/-- No request bans or unbans anyone. -/
theorem banned_serve : (event.serve host api).auth.banned = api.auth.banned := by
  cases event with
  | authToken now genToken dropped issued ip body =>
      exact (sameBans_authToken host now genToken dropped issued ip body api).banned
  | authRename now headers body =>
      rw [NameEvent.serve, authRename]
      cases bearerToken headers with
      | none => rfl
      | some token =>
          cases verified : api.auth.verify now token with
          | none => simp only [verified]
          | some session =>
              simp only [verified]
              split <;> rfl
  | controlRename body =>
      rw [NameEvent.serve, controlRename]
      split
      · rfl
      · split <;> rfl
  | chatCompletions net now headers body =>
      rw [NameEvent.serve, chatCompletions_auth]
  | messages outcome now headers raw =>
      rw [NameEvent.serve, messages_auth]

end Requests

namespace BanWatch

section Away

variable {watch : BanWatch τ}

theorem kept_iff (sound : watch.Sound) :
    watch.Kept ↔ ∀ memberId ∈ watch.held,
      watch.api.members.onlineFlag? memberId ≠ some true :=
  forall₂_congr fun _ _ => MemberRegistry.offline_iff sound.keyed

/-- The flags of the watched members, in a registry that may be about to change. -/
def Away (watch : BanWatch τ) (registry : MemberRegistry) : Prop :=
  ∀ memberId ∈ watch.held, registry.onlineFlag? memberId ≠ some true

/-- A sign of life keeps the watched members away when it is none of theirs. -/
theorem away_upsert_iff (away : watch.Away watch.api.members)
    (machine display ip : String) (now : UInt64) :
    watch.Away (watch.api.members.upsert machine display ip now) ↔ machine ∉ watch.held := by
  constructor
  · intro kept held
    exact kept machine held (MemberRegistry.onlineFlag?_upsert_self ..)
  · intro free memberId held
    have differ : memberId ≠ machine := fun same => free (same ▸ held)
    rw [MemberRegistry.onlineFlag?_upsert_ne differ]
    exact away memberId held

theorem away_rename (away : watch.Away watch.api.members) (machine display : String) :
    watch.Away (watch.api.members.rename machine display).2 := by
  intro memberId held
  rw [MemberRegistry.onlineFlag?_rename]
  exact away memberId held

theorem away_membersSeen_iff (away : watch.Away watch.api.members) (now : UInt64)
    (headers : HeaderMap) :
    watch.Away (watch.api.membersSeen now headers) ↔
      (watch.api.sharing = true → ∀ session, watch.api.signedIn now headers = some session →
        session.machineName ∉ watch.held) := by
  rcases membersSeen_cases watch.api now headers with
    ⟨session, sharing, signed, upserted⟩ | ⟨unsigned, same⟩
  · rw [upserted, away_upsert_iff away, signed]
    simp [sharing]
  · rw [same]
    refine iff_of_true away fun sharing session signed => ?_
    rw [unsigned sharing] at signed
    cases signed

theorem away_authToken_iff (away : watch.Away watch.api.members) (sound : watch.Sound)
    (host : Host) (now : UInt64) (genToken : String) (dropped issued : WriteOutcome) (ip : String)
    (body : Json) :
    watch.Away (authToken host now genToken dropped issued ip body watch.api).2.members ↔
      ∀ memberId ∈ watch.held, ¬ watch.api.Rejoins now body memberId := by
  by_cases held : body.textOr "machineName" "" ∈ watch.held
  · rcases members_authToken_banned host now genToken dropped issued ip body watch.api
        (sound.banned _ held) with ⟨rejoins, upserted⟩ | ⟨stays, same⟩
    · rw [upserted, away_upsert_iff away]
      exact iff_of_false (not_not.mpr held) fun none => none _ held rejoins
    · rw [same]
      refine iff_of_true away fun memberId _ rejoins => stays ?_
      rwa [rejoins.asks]
  · have others : ∀ memberId ∈ watch.held, ¬ watch.api.Rejoins now body memberId :=
      fun memberId mem rejoins => held (rejoins.asks ▸ mem)
    rcases members_authToken host now genToken dropped issued ip body watch.api with
      same | upserted
    · rw [same]
      exact iff_of_true away others
    · rw [upserted, away_upsert_iff away]
      exact iff_of_true held others

end Away

section Step

variable [Counter τ] {host : Host} {watch : BanWatch τ}

theorem mem_held_revoke {banWritten sessionsWritten : WriteOutcome} {body : Json}
    {memberId : String}
    (mem : memberId ∈ (watch.step host (.revoke banWritten sessionsWritten body)).held) :
    memberId = body.textOr "memberId" "" ∨ memberId ∈ watch.held := by
  simp only [BanWatch.step] at mem
  split at mem
  · exact Finset.mem_insert.mp mem
  · exact Or.inr mem

theorem Sound.step (sound : watch.Sound) (event : MemberEvent) :
    (watch.step host event).Sound := by
  cases event with
  | request event =>
      refine ⟨?_, fun memberId mem => ?_⟩
      · rcases members_serve host event watch.api with
          same | ⟨_, _, _, _, upserted⟩ | ⟨_, _, renamed⟩
        · exact same ▸ sound.keyed
        · exact upserted ▸ sound.keyed.upsert _ _ _ _
        · exact renamed ▸ sound.keyed.rename _ _
      · rw [BanWatch.step, banned_serve]
        exact sound.banned memberId mem
  | revoke banWritten sessionsWritten body =>
      refine ⟨sound.keyed.markOffline _, fun memberId mem => ?_⟩
      simp only [BanWatch.step, controlRevoke, AuthService.revokeMember,
        AuthService.saveSessions_banned, AuthService.save_banned, Finset.mem_insert]
      exact (mem_held_revoke mem).imp_right (sound.banned memberId)
  | unban outcome body =>
      simp only [BanWatch.step, controlUnban]
      split
      · exact sound
      · refine ⟨sound.keyed, fun memberId mem => ?_⟩
        obtain ⟨differ, held⟩ := Finset.mem_erase.mp mem
        simp only [AuthService.unban, AuthService.save_banned]
        exact Finset.mem_erase.mpr ⟨differ, sound.banned memberId held⟩
  | sweep now => exact ⟨sound.keyed.sweep now, sound.banned⟩

/-- Banning a member marks it offline. -/
theorem away_revoke (away : watch.Away watch.api.members) (host : Host)
    (banWritten sessionsWritten : WriteOutcome) (body : Json) :
    (watch.step host (.revoke banWritten sessionsWritten body)).Away
      (watch.step host (.revoke banWritten sessionsWritten body)).api.members := by
  intro memberId held
  by_cases own : memberId = body.textOr "memberId" ""
  · rw [own]
    exact MemberRegistry.onlineFlag?_markOffline_self _ _
  · have flag := MemberRegistry.onlineFlag?_markOffline_ne own watch.api.members
    exact flag ▸ away memberId ((mem_held_revoke held).resolve_left own)

/-- Lifting a ban touches no member. -/
theorem away_unban (away : watch.Away watch.api.members) (host : Host) (outcome : WriteOutcome)
    (body : Json) :
    (watch.step host (.unban outcome body)).Away
      (watch.step host (.unban outcome body)).api.members := by
  intro memberId held
  simp only [BanWatch.step, controlUnban] at held ⊢
  split at held
  · next unnamed =>
      rw [if_pos unnamed]
      exact away memberId held
  · next named =>
      rw [if_neg named]
      exact away memberId (Finset.mem_erase.mp held).2

theorem away_step_iff (event : MemberEvent) (away : watch.Away watch.api.members)
    (sound : watch.Sound) :
    (watch.step host event).Away (watch.step host event).api.members ↔
      event.KeepsAway watch := by
  cases event with
  | request event =>
      cases event with
      | authToken now genToken dropped issued ip body =>
          exact away_authToken_iff away sound host now genToken dropped issued ip body
      | authRename now headers body =>
          refine iff_of_true ?_ trivial
          rcases authRename_cases host now headers body watch.api with
            ⟨_, -, -, -, renamed⟩ | ⟨-, -, same⟩
          · exact congrArg watch.Away renamed ▸ away_rename away _ _
          · exact congrArg watch.Away same ▸ away
      | controlRename body =>
          refine iff_of_true ?_ trivial
          rcases controlRename_cases host body watch.api with ⟨-, -, renamed⟩ | ⟨-, same⟩
          · exact congrArg watch.Away renamed ▸ away_rename away _ _
          · exact congrArg watch.Away same ▸ away
      | chatCompletions net now headers body =>
          have seen := members_chatCompletions host net now watch.api headers body
          exact (iff_of_eq (congrArg watch.Away seen)).trans (away_membersSeen_iff away now headers)
      | messages outcome now headers raw =>
          have seen := members_messages host outcome now watch.api headers raw
          exact (iff_of_eq (congrArg watch.Away seen)).trans (away_membersSeen_iff away now headers)
  | revoke banWritten sessionsWritten body =>
      exact iff_of_true (away_revoke away host banWritten sessionsWritten body) trivial
  | unban outcome body => exact iff_of_true (away_unban away host outcome body) trivial
  | sweep now =>
      refine iff_of_true (fun memberId held marked => ?_) trivial
      exact away memberId held (MemberRegistry.onlineFlag?_sweep marked)

end Step

theorem sound_start {api : ApiState τ} (fresh : api.members.members = ∅) :
    (BanWatch.start api).Sound where
  keyed machineName member found := by
    have none : api.members.members.lookup machineName = none := by
      rw [fresh]
      rfl
    rw [BanWatch.start, none] at found
    cases found
  banned memberId held := absurd held (Finset.notMem_empty memberId)

theorem kept_start (api : ApiState τ) : (BanWatch.start api).Kept :=
  fun memberId held => absurd held (Finset.notMem_empty memberId)

end BanWatch

/--
From the ban of a registered member to its unban the member is offline exactly when no
request counts as its sign of life: it asks for no token while it has a live session,
unless it asks for a new one, and no model request comes with a session of its machine.
-/
theorem banned_offline_iff [Counter τ] (host : Host) (api : ApiState τ)
    (fresh : api.members.members = ∅) (events : List MemberEvent) :
    Throughout (BanWatch.step host) BanWatch.Kept events (.start api) ↔
      Fitting (BanWatch.step host) MemberEvent.KeepsAway events (.start api) := by
  refine throughout_iff_fitting_of BanWatch.Sound (fun event watch sound => sound.step event) ?_
    (BanWatch.kept_start api) (BanWatch.sound_start fresh) events
  intro event watch kept sound
  rw [BanWatch.kept_iff (sound.step event)]
  exact BanWatch.away_step_iff event ((BanWatch.kept_iff sound).mp kept) sound

/-- The client of `pc-1` asks for a token, as it does every minute. -/
def asksToken (now : UInt64) : MemberEvent :=
  .request (.authToken now "token-2" .done .done "10.0.0.2"
    (.obj [("machineName", .str "pc-1")]))

def bansPc : MemberEvent := .revoke .done .done (panelRequest "revoke" "pc-1" "10.0.0.2")

/-- A model request with the token of a banned member is no sign of life. -/
theorem banned_offline_request :
    Throughout (BanWatch.step Host.compact) BanWatch.Kept
      [asksToken 1000, bansPc, .request asksModel] (.start (smallService [] [])) := by
  refine (banned_offline_iff Host.compact (smallService [] []) rfl _).mpr
    ⟨fun memberId held => absurd held (Finset.notMem_empty memberId), trivial, ?_, trivial⟩
  intro sharing session signed
  have unsigned : ((BanWatch.step Host.compact bansPc (BanWatch.step Host.compact (asksToken 1000)
      (.start (smallService [] [])))).api.signedIn 1000 smallHeaders).isNone := by decide
  rw [signed] at unsigned
  cases unsigned

/-- A minute after the ban the member is listed as online again. -/
theorem banned_member_returns :
    ¬ ∀ (host : Host) (api : ApiState UInt64) (events : List MemberEvent),
      api.members.members = ∅ →
        Throughout (BanWatch.step host) BanWatch.Kept events (.start api) := by
  intro staysOffline
  have kept := (staysOffline Host.compact (smallService [] [])
    [asksToken 1000, bansPc, asksToken 1060] rfl).last
  have offline := kept "pc-1" (by decide) 1060
  have listed : ((final (BanWatch.step Host.compact) [asksToken 1000, bansPc, asksToken 1060]
      (.start (smallService [] []))).api.members.all 1060).any
        (fun member => member.memberId = "pc-1" && member.online) = true := by decide
  obtain ⟨member, mem, online⟩ := List.any_eq_true.mp listed
  obtain ⟨named, marked⟩ := (Bool.and_eq_true _ _).mp online
  rw [offline member mem (of_decide_eq_true named)] at marked
  cases marked

end AiPowerGateway.Share

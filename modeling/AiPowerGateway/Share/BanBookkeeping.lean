import AiPowerGateway.Collections.Holds
import AiPowerGateway.Share.AuthRuns
import AiPowerGateway.Share.Control
import AiPowerGateway.Systems.EventRuns

/-!
# Who put an address on the ban list

The banned addresses are a plain set.  `revoke` adds the recorded address of a
member, `unban` strikes off the address recorded by then, whoever else was banned
with it and whatever address was added before.
-/

namespace AiPowerGateway.Share

open Systems EventRuns Holds

variable {τ : Type}

/--
The service, and who was banned with which address.  An entry stands as long as its
member has stayed banned; a call without an address bans none.
-/
structure BanBook (τ : Type) where
  api : ApiState τ
  revokedWith : Finset (String × String)
  stands : ∀ entry ∈ revokedWith, entry.1 ∈ api.auth.banned
  named : ∀ entry ∈ revokedWith, entry.2 ≠ ""

inductive BanEvent where
  /-- `auth_token` from the address `ip`. -/
  | authToken (now : UInt64) (genToken : String) (dropped issued : WriteOutcome) (ip : String)
      (body : Json)
  | revoke (banWritten sessionsWritten : WriteOutcome) (memberId : String)
  | unban (outcome : WriteOutcome) (memberId : String)
  /-- The session table may be enumerated in any order. -/
  | enumerate (reorder : HashMap Session → HashMap Session)
      (same : ∀ sessions, (reorder sessions).Reordered sessions)

namespace BanBook

def banned (book : BanBook τ) : Finset String := book.api.auth.banned

def bannedIps (book : BanBook τ) : Finset String := book.api.auth.bannedIps

/-- The address that the panel lists for the member and sends along. -/
def recordedIp (memberId : String) (book : BanBook τ) : String :=
  book.api.members.recordedIp memberId

/-- The book after a call: the entries whose member is still banned. -/
def after (api : ApiState τ) (noted : Finset (String × String)) : BanBook τ where
  api := api
  revokedWith := noted.filter fun entry => entry.1 ∈ api.auth.banned ∧ entry.2 ≠ ""
  stands _ mem := (Finset.mem_filter.mp mem).2.1
  named _ mem := (Finset.mem_filter.mp mem).2.2

def step (host : Host) : BanEvent → BanBook τ → BanBook τ
  | .authToken now genToken dropped issued ip body, book =>
      after (authToken host now genToken dropped issued ip body book.api).2 book.revokedWith
  | .revoke banWritten sessionsWritten memberId, book =>
      let ip := book.recordedIp memberId
      after
        (controlRevoke host banWritten sessionsWritten (panelRequest "revoke" memberId ip)
          book.api).2
        (insert (memberId, ip) book.revokedWith)
  | .unban outcome memberId, book =>
      after
        (controlUnban host outcome (panelRequest "unban" memberId (book.recordedIp memberId))
          book.api).2
        book.revokedWith
  | .enumerate reorder _, book =>
      after
        { book.api with
          auth := { book.api.auth with sessions := reorder book.api.auth.sessions } }
        book.revokedWith

/-- A process whose ban lists are empty. -/
structure Fresh (book : BanBook τ) : Prop where
  banned : book.banned = ∅
  bannedIps : book.bannedIps = ∅

/--
The banned addresses are those that some still banned member was banned with, and
every banned member can be unbanned.
-/
structure Tidy (host : Host) (book : BanBook τ) : Prop where
  ips : ∀ ip, ip ∈ book.bannedIps ↔ ∃ member ∈ book.banned, (member, ip) ∈ book.revokedWith
  unbannable : ∀ member ∈ book.banned, ∀ outcome,
    member ∉ (book.step host (.unban outcome member)).banned

end BanBook

/--
What keeps the book tidy.  The member to ban has a name.  The recorded address of the
member to unban is one that no other still banned member was banned with, and any other
address that the member was banned with is one that such a member was banned with too.
-/
def BanEvent.Keeps : BanEvent → BanBook τ → Prop
  | .revoke _ _ memberId, _ => memberId ≠ ""
  | .unban _ memberId, book =>
      memberId ≠ "" → SpokenFor book.revokedWith memberId (book.recordedIp memberId)
  | .authToken .., _ => True
  | .enumerate .., _ => True

/-! ## What one call does -/

@[simp] theorem memberId_panelRequest (action memberId ip : String) :
    (panelRequest action memberId ip).textOr "memberId" "" = memberId := by
  simp [panelRequest, Json.textOr, Json.text?]

@[simp] theorem ip_panelRequest (action memberId ip : String) :
    (panelRequest action memberId ip).textOr "ip" "" = ip := by
  simp [panelRequest, Json.textOr, Json.text?]

namespace AuthService

@[simp] theorem save_banned (outcome : WriteOutcome) (service : AuthService) :
    (service.save outcome).banned = service.banned := by
  unfold save
  split <;> rfl

@[simp] theorem save_bannedIps (outcome : WriteOutcome) (service : AuthService) :
    (service.save outcome).bannedIps = service.bannedIps := by
  unfold save
  split <;> rfl

/-- Two services with the same ban lists. -/
structure SameBans (first second : AuthService) : Prop where
  banned : first.banned = second.banned
  bannedIps : first.bannedIps = second.bannedIps

theorem sameBans_issue (now : UInt64) (genToken : String) (outcome : WriteOutcome)
    (machineName displayName ip : String) (service : AuthService) :
    SameBans (service.issue now genToken outcome machineName displayName ip).2 service := by
  rcases issue_cases now genToken outcome machineName displayName ip service with
    ⟨_, -, issued⟩ | ⟨-, -, issued⟩ | ⟨-, -, -, issued⟩
  · rw [issued]
    exact ⟨rfl, rfl⟩
  · rw [issued]
    exact ⟨rfl, rfl⟩
  · rw [issued]
    exact ⟨saveSessions_banned _ _, saveSessions_bannedIps _ _⟩

theorem sameBans_rotate (now : UInt64) (genToken : String) (dropped issued : WriteOutcome)
    (machineName displayName ip : String) (service : AuthService) :
    SameBans (service.rotate now genToken dropped issued machineName displayName ip).2
      service := by
  unfold rotate
  have same := sameBans_issue now genToken issued machineName displayName ip
    ({ service with
      sessions := service.sessions.retain fun session =>
        session.memberId ≠ machineName }.saveSessions dropped)
  exact ⟨by rw [same.banned, saveSessions_banned],
    by rw [same.bannedIps, saveSessions_bannedIps]⟩

end AuthService

theorem sameBans_issueOrRotate (now : UInt64) (genToken : String)
    (dropped issued : WriteOutcome) (ip : String) (body : Json) (auth : AuthService) :
    (issueOrRotate now genToken dropped issued ip body auth).2.SameBans auth := by
  unfold issueOrRotate
  dsimp only
  split
  · exact auth.sameBans_rotate now genToken dropped issued _ _ ip
  · exact auth.sameBans_issue now genToken issued _ _ ip

theorem sameBans_authToken (host : Host) (now : UInt64) (genToken : String)
    (dropped issued : WriteOutcome) (ip : String) (body : Json) (state : ApiState τ) :
    (authToken host now genToken dropped issued ip body state).2.auth.SameBans state.auth := by
  have same := sameBans_issueOrRotate now genToken dropped issued ip body state.auth
  unfold authToken
  dsimp only
  split
  · exact ⟨rfl, rfl⟩
  · split
    · exact ⟨rfl, rfl⟩
    · cases called : issueOrRotate now genToken dropped issued ip body state.auth with
      | mk result auth =>
          rw [called] at same
          cases result with
          | ok session => exact same
          | error refused => exact same

namespace BanBook

variable {host : Host} {book : BanBook τ}

/-! ## What one event does -/

theorem revokedWith_after {api : ApiState τ} {noted : Finset (String × String)}
    (stands : ∀ entry ∈ noted, entry.1 ∈ api.auth.banned) (named : ∀ entry ∈ noted, entry.2 ≠ "") :
    (after api noted).revokedWith = noted :=
  Finset.filter_true_of_mem fun entry mem => ⟨stands entry mem, named entry mem⟩

/-- Two books with the same bans. -/
structure SameBans (first second : BanBook τ) : Prop where
  banned : first.banned = second.banned
  bannedIps : first.bannedIps = second.bannedIps
  revokedWith : first.revokedWith = second.revokedWith

theorem sameBans_after {api : ApiState τ} (same : api.auth.SameBans book.api.auth) :
    (after api book.revokedWith).SameBans book where
  banned := same.banned
  bannedIps := same.bannedIps
  revokedWith := revokedWith_after (by rw [same.banned]; exact book.stands) book.named

theorem banned_revoke (banWritten sessionsWritten : WriteOutcome) (memberId : String) :
    (book.step host (.revoke banWritten sessionsWritten memberId)).banned =
      insert memberId book.banned := by
  simp [step, banned, after, controlRevoke, AuthService.revokeMember]

theorem bannedIps_revoke (banWritten sessionsWritten : WriteOutcome) (memberId : String) :
    (book.step host (.revoke banWritten sessionsWritten memberId)).bannedIps =
      if book.recordedIp memberId = "" then book.bannedIps
      else insert (book.recordedIp memberId) book.bannedIps := by
  simp [step, bannedIps, after, controlRevoke, AuthService.revokeMember]

theorem revokedWith_revoke (banWritten sessionsWritten : WriteOutcome) (memberId : String) :
    (book.step host (.revoke banWritten sessionsWritten memberId)).revokedWith =
      if book.recordedIp memberId = "" then book.revokedWith
      else insert (memberId, book.recordedIp memberId) book.revokedWith := by
  have stays : ∀ entry ∈ book.revokedWith, entry.1 = memberId ∨ entry.1 ∈ book.banned :=
    fun entry mem => Or.inr (book.stands entry mem)
  have named := book.named
  ext entry
  simp only [step, after, controlRevoke, AuthService.revokeMember, memberId_panelRequest,
    AuthService.saveSessions_banned, AuthService.save_banned, Finset.mem_filter,
    Finset.mem_insert]
  constructor
  · rintro ⟨rfl | mem, -, hasName⟩
    · simp [hasName]
    · split
      · exact mem
      · exact Finset.mem_insert_of_mem mem
  · split
    · intro mem
      exact ⟨Or.inr mem, stays entry mem, named entry mem⟩
    · rename_i hasIp
      intro mem
      rcases Finset.mem_insert.mp mem with rfl | mem
      · exact ⟨Or.inl rfl, Or.inl rfl, hasIp⟩
      · exact ⟨Or.inr mem, stays entry mem, named entry mem⟩

/-- Without a name the call is refused. -/
theorem sameBans_unban_unnamed (host : Host) (book : BanBook τ) (outcome : WriteOutcome) :
    (book.step host (.unban outcome "")).SameBans book := by
  apply sameBans_after
  rw [controlUnban, memberId_panelRequest, if_pos rfl]
  exact ⟨rfl, rfl⟩

section Unban

variable {memberId : String} (hasName : memberId ≠ "") (outcome : WriteOutcome)

include hasName

theorem banned_unban :
    (book.step host (.unban outcome memberId)).banned = book.banned.erase memberId := by
  simp [step, banned, after, controlUnban, AuthService.unban, hasName]

theorem bannedIps_unban :
    (book.step host (.unban outcome memberId)).bannedIps =
      if book.recordedIp memberId = "" then book.bannedIps
      else book.bannedIps.erase (book.recordedIp memberId) := by
  simp [step, bannedIps, after, controlUnban, AuthService.unban, hasName]

theorem revokedWith_unban :
    (book.step host (.unban outcome memberId)).revokedWith =
      release memberId book.revokedWith := by
  ext entry
  rw [mem_release]
  have stands := book.stands entry
  have named := book.named entry
  simp only [step, after, controlUnban, AuthService.unban, memberId_panelRequest, if_neg hasName,
    AuthService.save_banned, Finset.mem_filter, Finset.mem_erase]
  constructor
  · rintro ⟨mem, ⟨other, -⟩, -⟩
    exact ⟨mem, other⟩
  · rintro ⟨mem, other⟩
    exact ⟨mem, ⟨other, stands mem⟩, named mem⟩

end Unban

/-! ## What tidy means -/

theorem not_unbannable_unnamed (outcome : WriteOutcome) :
    "" ∉ (book.step host (.unban outcome "")).banned ↔ "" ∉ book.banned := by
  rw [(sameBans_unban_unnamed host book outcome).banned]

theorem tidy_iff :
    Tidy host book ↔ Covers book.bannedIps book.revokedWith ∧ "" ∉ book.banned := by
  have standing : ∀ ip, (∃ member ∈ book.banned, (member, ip) ∈ book.revokedWith) ↔
      ∃ member, (member, ip) ∈ book.revokedWith := by
    intro ip
    constructor
    · rintro ⟨member, -, mem⟩
      exact ⟨member, mem⟩
    · rintro ⟨member, mem⟩
      exact ⟨member, book.stands _ mem, mem⟩
  constructor
  · intro tidy
    refine ⟨fun ip => (tidy.ips ip).trans (standing ip), fun unnamed => ?_⟩
    exact (not_unbannable_unnamed .done).mp (tidy.unbannable "" unnamed .done) unnamed
  · rintro ⟨covers, unnamed⟩
    refine ⟨fun ip => (covers ip).trans (standing ip).symm, fun member mem outcome => ?_⟩
    have hasName : member ≠ "" := fun same => unnamed (same ▸ mem)
    rw [banned_unban hasName]
    exact Finset.notMem_erase member book.banned

theorem SameBans.tidy_iff {other : BanBook τ} (same : other.SameBans book) :
    Tidy host other ↔ Tidy host book := by
  rw [BanBook.tidy_iff, BanBook.tidy_iff, same.banned, same.bannedIps, same.revokedWith]

theorem Fresh.tidy (fresh : book.Fresh) : Tidy host book := by
  have noEntry : book.revokedWith = ∅ := by
    rw [Finset.eq_empty_iff_forall_notMem]
    intro entry mem
    have banned : entry.1 ∈ book.banned := book.stands entry mem
    rw [fresh.banned] at banned
    exact Finset.notMem_empty _ banned
  rw [tidy_iff, fresh.banned, fresh.bannedIps, noEntry]
  exact ⟨covers_empty, Finset.notMem_empty _⟩

/-! ## One event -/

/-- No entry, so no banned address, is the empty text. -/
theorem unnamed_notMem_bannedIps (covers : Covers book.bannedIps book.revokedWith) :
    "" ∉ book.bannedIps := by
  intro mem
  obtain ⟨member, entry⟩ := (covers "").mp mem
  exact book.named _ entry rfl

/-- A ban always adds what its entry stands for. -/
theorem tidy_revoke_iff (tidy : Tidy host book) (banWritten sessionsWritten : WriteOutcome)
    (memberId : String) :
    Tidy host (book.step host (.revoke banWritten sessionsWritten memberId)) ↔
      memberId ≠ "" := by
  obtain ⟨covers, unnamed⟩ := tidy_iff.mp tidy
  have covered : Covers (book.step host (.revoke banWritten sessionsWritten memberId)).bannedIps
      (book.step host (.revoke banWritten sessionsWritten memberId)).revokedWith := by
    rw [bannedIps_revoke, revokedWith_revoke]
    split
    · exact covers
    · exact covers.insert memberId _
  rw [tidy_iff, and_iff_right covered, banned_revoke, Finset.mem_insert, not_or,
    and_iff_left unnamed]
  exact ne_comm

/-- An unban strikes off one address, which has to say all about the member. -/
theorem tidy_unban_iff (tidy : Tidy host book) {memberId : String} (hasName : memberId ≠ "")
    (outcome : WriteOutcome) :
    Tidy host (book.step host (.unban outcome memberId)) ↔
      SpokenFor book.revokedWith memberId (book.recordedIp memberId) := by
  obtain ⟨covers, unnamed⟩ := tidy_iff.mp tidy
  have struck : (if book.recordedIp memberId = "" then book.bannedIps
      else book.bannedIps.erase (book.recordedIp memberId)) =
      book.bannedIps.erase (book.recordedIp memberId) := by
    split
    · rename_i noIp
      rw [noIp, Finset.erase_eq_of_notMem (unnamed_notMem_bannedIps covers)]
    · rfl
  have stillUnnamed : "" ∉ book.banned.erase memberId :=
    fun mem => unnamed (Finset.mem_of_mem_erase mem)
  rw [tidy_iff, banned_unban hasName, and_iff_left stillUnnamed, bannedIps_unban hasName,
    revokedWith_unban hasName, struck, covers.erase_release_iff]

/-- From a tidy book, exactly the events that keep it lead to a tidy book. -/
theorem tidy_step_iff (event : BanEvent) (book : BanBook τ) (tidy : Tidy host book) :
    Tidy host (book.step host event) ↔ event.Keeps book := by
  cases event with
  | authToken now genToken dropped issued ip body =>
      have same := sameBans_after
        (sameBans_authToken host now genToken dropped issued ip body book.api)
      exact iff_of_true (same.tidy_iff.mpr tidy) trivial
  | revoke banWritten sessionsWritten memberId =>
      exact tidy_revoke_iff tidy banWritten sessionsWritten memberId
  | unban outcome memberId =>
      by_cases unnamed : memberId = ""
      · subst unnamed
        have same := sameBans_unban_unnamed host book outcome
        exact iff_of_true (same.tidy_iff.mpr tidy) (fun hasName => absurd rfl hasName)
      · rw [tidy_unban_iff tidy unnamed]
        exact ⟨fun all _ => all, fun keeps => keeps unnamed⟩
  | enumerate reorder same =>
      have unchanged : (book.step host (.enumerate reorder same)).SameBans book :=
        sameBans_after ⟨rfl, rfl⟩
      exact iff_of_true (unchanged.tidy_iff.mpr tidy) trivial

/-- After an unban that leaves the book tidy, an address is banned exactly for another member. -/
theorem mem_bannedIps_unban {outcome : WriteOutcome} {memberId : String}
    (tidy : Tidy host book) (next : Tidy host (book.step host (.unban outcome memberId)))
    (ip : String) :
    ip ∈ (book.step host (.unban outcome memberId)).bannedIps ↔
      ∃ other ∈ book.banned, other ≠ memberId ∧ (other, ip) ∈ book.revokedWith := by
  rw [next.ips ip]
  by_cases unnamed : memberId = ""
  · subst unnamed
    have same := sameBans_unban_unnamed host book outcome
    rw [same.banned, same.revokedWith]
    have named : ∀ other ∈ book.banned, other ≠ "" :=
      fun other mem isEmpty => (tidy_iff.mp tidy).2 (isEmpty ▸ mem)
    constructor
    · rintro ⟨other, mem, entry⟩
      exact ⟨other, mem, named other mem, entry⟩
    · rintro ⟨other, mem, -, entry⟩
      exact ⟨other, mem, entry⟩
  · rw [banned_unban unnamed, revokedWith_unban unnamed]
    constructor
    · rintro ⟨other, mem, entry⟩
      obtain ⟨differ, mem⟩ := Finset.mem_erase.mp mem
      exact ⟨other, mem, differ, (mem_release.mp entry).1⟩
    · rintro ⟨other, mem, differ, entry⟩
      exact ⟨other, Finset.mem_erase.mpr ⟨differ, mem⟩, mem_release.mpr ⟨entry, differ⟩⟩

end BanBook

/--
A run from empty ban lists is tidy all along exactly when every event keeps the book;
and then an unban leaves exactly the addresses that another still banned member was
banned with.
-/
theorem bans_tidy_iff (host : Host) {first : BanBook τ} (fresh : first.Fresh)
    (events : List BanEvent) :
    (Throughout (BanBook.step host) (BanBook.Tidy host) events first ↔
        Fitting (BanBook.step host) BanEvent.Keeps events first) ∧
      ∀ outcome memberId,
        Throughout (BanBook.step host) (BanBook.Tidy host)
            (events ++ [.unban outcome memberId]) first →
          ∀ ip,
            ip ∈ (BanBook.step host (.unban outcome memberId)
                (final (BanBook.step host) events first)).bannedIps ↔
              ∃ other ∈ (final (BanBook.step host) events first).banned, other ≠ memberId ∧
                (other, ip) ∈ (final (BanBook.step host) events first).revokedWith := by
  refine ⟨throughout_iff_fitting BanBook.tidy_step_iff fresh.tidy events, ?_⟩
  intro outcome memberId tidy ip
  obtain ⟨before, next⟩ := throughout_concat.mp tidy
  exact BanBook.mem_bannedIps_unban before.last next ip

/-! ## Two machines behind one address -/

/-- A process that nobody has joined. -/
def emptyBook : BanBook UInt64 where
  api :=
    { sharing := true
      auth :=
        { sessions := ∅, banned := ∅, bannedIps := ∅, ttlSecs := 3600, persists := false
          persistsSessions := false, bannedFile := none, sessionsFile := none }
      members := ⟨∅, 90, "share:39091"⟩
      usage := ∅, quota := ∅, policy := {}, rules := .load []
      backends := .replaceAll [], health := none }
  revokedWith := ∅
  stands _ mem := absurd mem (Finset.notMem_empty _)
  named _ mem := absurd mem (Finset.notMem_empty _)

theorem emptyBook_fresh : emptyBook.Fresh := ⟨rfl, rfl⟩

def joins (token machineName ip : String) : BanEvent :=
  .authToken 1000 token .done .done ip (.obj [("machineName", .str machineName)])

/-- Two machines join, and both are banned. -/
def pairBanned (firstIp secondIp : String) : List BanEvent :=
  [joins "token-1" "pc-1" firstIp, joins "token-2" "pc-2" secondIp,
    .revoke .done .done "pc-1", .revoke .done .done "pc-2"]

def unbanFirst : BanEvent := .unban .done "pc-1"

/-- The book after that. -/
def pairBook (firstIp secondIp : String) : BanBook UInt64 :=
  final (BanBook.step Host.compact) (pairBanned firstIp secondIp) emptyBook

/-- From two addresses, the recorded address says all about the first machine. -/
theorem spokenFor_apart :
    SpokenFor (pairBook "10.0.0.1" "10.0.0.2").revokedWith "pc-1"
      ((pairBook "10.0.0.1" "10.0.0.2").recordedIp "pc-1") := by
  have entries : (pairBook "10.0.0.1" "10.0.0.2").revokedWith =
      {("pc-1", "10.0.0.1"), ("pc-2", "10.0.0.2")} := by decide
  have recorded : (pairBook "10.0.0.1" "10.0.0.2").recordedIp "pc-1" = "10.0.0.1" := by decide
  rw [entries, recorded]
  constructor
  · intro other differ mem
    simp [differ] at mem
  · intro more mem differ
    simp [differ] at mem

theorem fitting_apart :
    Fitting (BanBook.step Host.compact) BanEvent.Keeps
      (pairBanned "10.0.0.1" "10.0.0.2" ++ [unbanFirst]) emptyBook := by
  have firstNamed : "pc-1" ≠ "" := by decide
  have secondNamed : "pc-2" ≠ "" := by decide
  exact ⟨trivial, trivial, firstNamed, secondNamed, fun _ => spokenFor_apart, trivial⟩

theorem bans_tidy_apart :
    Throughout (BanBook.step Host.compact) (BanBook.Tidy Host.compact)
        (pairBanned "10.0.0.1" "10.0.0.2" ++ [unbanFirst]) emptyBook ∧
      "10.0.0.2" ∈ ((pairBook "10.0.0.1" "10.0.0.2").step Host.compact unbanFirst).bannedIps := by
  have tidy := (bans_tidy_iff Host.compact emptyBook_fresh _).1.mpr fitting_apart
  have unbanned := (bans_tidy_iff Host.compact emptyBook_fresh _).2 .done "pc-1" tidy
  exact ⟨tidy, (unbanned "10.0.0.2").mpr ⟨"pc-2", by decide, by decide, by decide⟩⟩

/-- From one address, unbanning one machine frees the address of the other. -/
theorem bans_not_tidy :
    ¬ ∀ (host : Host) (first : BanBook UInt64), first.Fresh → ∀ events : List BanEvent,
      Throughout (BanBook.step host) (BanBook.Tidy host) events first := by
  intro alwaysTidy
  have tidy := (alwaysTidy Host.compact emptyBook emptyBook_fresh
    (pairBanned "10.0.0.9" "10.0.0.9" ++ [unbanFirst])).last
  have listed := (tidy.ips "10.0.0.9").mpr ⟨"pc-2", by decide, by decide⟩
  exact absurd listed (by decide)

end AiPowerGateway.Share

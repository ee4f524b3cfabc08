import AiPowerGateway.Share.Auth

/-!
# Runs of the authentication service

The service under any sequence of calls, restarts and clock changes.  In every
state it reaches, a token leads to its own session.
-/

namespace AiPowerGateway.Share

namespace AuthService

@[simp] theorem save_sessions (outcome : WriteOutcome) (service : AuthService) :
    (service.save outcome).sessions = service.sessions := by
  unfold save
  split <;> rfl

@[simp] theorem saveSessions_sessions (outcome : WriteOutcome) (service : AuthService) :
    (service.saveSessions outcome).sessions = service.sessions := by
  unfold saveSessions
  split <;> rfl

@[simp] theorem saveSessions_banned (outcome : WriteOutcome) (service : AuthService) :
    (service.saveSessions outcome).banned = service.banned := by
  unfold saveSessions
  split <;> rfl

@[simp] theorem saveSessions_bannedIps (outcome : WriteOutcome) (service : AuthService) :
    (service.saveSessions outcome).bannedIps = service.bannedIps := by
  unfold saveSessions
  split <;> rfl

/-- A live session is a stored session of the machine that has not expired. -/
theorem liveSession_eq_some {service : AuthService} {now : UInt64} {machineName : String}
    {session : Session} (live : service.liveSession now machineName = some session) :
    session ∈ service.sessions.values ∧ session.memberId = machineName ∧
      now < session.expiresAt := by
  have mem := List.mem_of_find?_eq_some live
  have passes := List.find?_some live
  rw [Bool.and_eq_true, decide_eq_true_eq, decide_eq_true_eq] at passes
  exact ⟨mem, passes⟩

theorem liveSession_eq_none {service : AuthService} {now : UInt64} {machineName : String} :
    service.liveSession now machineName = none ↔
      ∀ session ∈ service.sessions.values, session.memberId = machineName →
        session.expiresAt ≤ now := by
  unfold liveSession
  rw [List.find?_eq_none]
  constructor
  · intro expired session mem same
    have refused := expired session mem
    simpa [same] using refused
  · intro expired session mem
    rw [Bool.and_eq_true, decide_eq_true_eq, decide_eq_true_eq]
    rintro ⟨same, live⟩
    exact absurd live (UInt64.not_lt.mpr (expired session mem same))

/-- What issuing does: reuse, refuse, or store a new session under its token. -/
theorem issue_cases (now : UInt64) (genToken : String) (outcome : WriteOutcome)
    (machineName displayName ip : String) (service : AuthService) :
    (∃ existing, service.liveSession now machineName = some existing ∧
        service.issue now genToken outcome machineName displayName ip =
          (.ok existing, service)) ∨
      (service.liveSession now machineName = none ∧
        (ip ∈ service.bannedIps ∨ machineName ∈ service.banned) ∧
        service.issue now genToken outcome machineName displayName ip =
          (.error (.auth "banned"), service)) ∨
      (service.liveSession now machineName = none ∧ ip ∉ service.bannedIps ∧
        machineName ∉ service.banned ∧
        service.issue now genToken outcome machineName displayName ip =
          (.ok (service.newSession now genToken machineName displayName),
            { service with
              sessions := service.sessions.insert genToken
                (service.newSession now genToken machineName displayName) }.saveSessions
              outcome)) := by
  unfold issue
  cases live : service.liveSession now machineName with
  | some existing => exact Or.inl ⟨existing, rfl, rfl⟩
  | none =>
      by_cases refused : ip ∈ service.bannedIps ∨ machineName ∈ service.banned
      · refine Or.inr (Or.inl ⟨rfl, refused, ?_⟩)
        simp [isBanned, isMemberBanned, refused]
      · obtain ⟨ipFree, memberFree⟩ := not_or.mp refused
        refine Or.inr (Or.inr ⟨rfl, ipFree, memberFree, ?_⟩)
        simp [isBanned, isMemberBanned, ipFree, memberFree, newSession]

/-- After the machine's tokens are dropped, it has no live session. -/
theorem liveSession_retain (service : AuthService) (dropped : WriteOutcome) (now : UInt64)
    (machineName : String) :
    ({ service with
        sessions := service.sessions.retain fun session =>
          session.memberId ≠ machineName }.saveSessions dropped).liveSession now machineName =
      none := by
  rw [liveSession_eq_none, saveSessions_sessions]
  intro session mem same
  obtain ⟨token, found⟩ := HashMap.mem_values.mp mem
  rw [HashMap.lookup_retain, Option.filter_eq_some_iff] at found
  simp [same] at found

/-! ## Tokens lead to their own sessions -/

def SessionsKeyed (sessions : HashMap Session) : Prop :=
  ∀ token session, sessions.lookup token = some session → session.token = token

theorem SessionsKeyed.empty : SessionsKeyed ∅ := by
  intro token session found
  simp at found

theorem SessionsKeyed.insert {sessions : HashMap Session} (keyed : SessionsKeyed sessions)
    (session : Session) : SessionsKeyed (sessions.insert session.token session) := by
  intro token stored found
  by_cases same : token = session.token
  · subst same
    rw [AList.lookup_insert] at found
    rw [← Option.some.inj found]
  · exact keyed token stored (by simpa [AList.lookup_insert_ne same] using found)

theorem SessionsKeyed.retain {sessions : HashMap Session} (keyed : SessionsKeyed sessions)
    (keep : Session → Bool) : SessionsKeyed (sessions.retain keep) := by
  intro token session found
  rw [HashMap.lookup_retain, Option.filter_eq_some_iff] at found
  exact keyed token session found.1

theorem SessionsKeyed.reordered {sessions other : HashMap Session}
    (keyed : SessionsKeyed sessions) (same : other.Reordered sessions) : SessionsKeyed other := by
  intro token session found
  exact keyed token session (by rw [← HashMap.lookup_reordered same, found])

theorem SessionsKeyed.foldl_insert (stored : List Session) {sessions : HashMap Session}
    (keyed : SessionsKeyed sessions) :
    SessionsKeyed (stored.foldl (fun table session => table.insert session.token session)
      sessions) := by
  induction stored generalizing sessions with
  | nil => exact keyed
  | cons session stored ih => exact ih (keyed.insert session)

theorem keyed_restart (now : UInt64) (service : AuthService) :
    SessionsKeyed (service.restart now).sessions :=
  SessionsKeyed.empty.foldl_insert _

theorem keyed_issue {service : AuthService} (keyed : SessionsKeyed service.sessions)
    (now : UInt64) (genToken : String) (outcome : WriteOutcome)
    (machineName displayName ip : String) :
    SessionsKeyed (service.issue now genToken outcome machineName displayName ip).2.sessions := by
  rcases issue_cases now genToken outcome machineName displayName ip service with
    ⟨_, -, issued⟩ | ⟨-, -, issued⟩ | ⟨-, -, -, issued⟩
  · rw [issued]
    exact keyed
  · rw [issued]
    exact keyed
  · rw [issued, saveSessions_sessions]
    exact keyed.insert (service.newSession now genToken machineName displayName)

theorem keyed_rotate {service : AuthService} (keyed : SessionsKeyed service.sessions)
    (now : UInt64) (genToken : String) (dropped issued : WriteOutcome)
    (machineName displayName ip : String) :
    SessionsKeyed
      (service.rotate now genToken dropped issued machineName displayName ip).2.sessions := by
  unfold rotate
  apply keyed_issue
  rw [saveSessions_sessions]
  exact keyed.retain _

end AuthService

/-! ## The system -/

/-- The service and the clock. -/
structure AuthWorld where
  service : AuthService
  now : UInt64

inductive AuthStep : AuthWorld → AuthWorld → Prop where
  | issue (world : AuthWorld) (genToken : String) (outcome : WriteOutcome)
      (machineName displayName ip : String) :
      AuthStep world { world with
        service := (world.service.issue world.now genToken outcome machineName displayName ip).2 }
  | rotate (world : AuthWorld) (genToken : String) (dropped issued : WriteOutcome)
      (machineName displayName ip : String) :
      AuthStep world { world with
        service := (world.service.rotate world.now genToken dropped issued machineName
          displayName ip).2 }
  | revokeMember (world : AuthWorld) (banWritten sessionsWritten : WriteOutcome)
      (memberId ip : String) :
      AuthStep world { world with
        service := world.service.revokeMember banWritten sessionsWritten memberId ip }
  | unban (world : AuthWorld) (outcome : WriteOutcome) (memberId ip : String) :
      AuthStep world { world with service := world.service.unban outcome memberId ip }
  | restart (world : AuthWorld) :
      AuthStep world { world with service := world.service.restart world.now }
  | clock (world : AuthWorld) (now : UInt64) : AuthStep world { world with now := now }
  /-- The session table may be enumerated in any order. -/
  | enumerate (world : AuthWorld) {sessions : HashMap Session}
      (same : sessions.Reordered world.service.sessions) :
      AuthStep world { world with service := { world.service with sessions := sessions } }

/-- A process starts over whatever the files hold. -/
def authSystem : Systems.TransitionSystem AuthWorld where
  start world := ∃ before : AuthService, world.service = before.restart world.now
  step := AuthStep

theorem sessionsKeyed_inductive :
    authSystem.Inductive fun world => AuthService.SessionsKeyed world.service.sessions where
  start := by
    rintro world ⟨before, started⟩
    rw [started]
    exact AuthService.keyed_restart world.now before
  step := by
    intro world next keyed moves
    cases moves with
    | issue => exact AuthService.keyed_issue keyed _ _ _ _ _ _
    | rotate => exact AuthService.keyed_rotate keyed _ _ _ _ _ _ _
    | revokeMember => simpa [AuthService.revokeMember] using keyed
    | unban => simpa [AuthService.unban] using keyed
    | restart => exact AuthService.keyed_restart _ _
    | clock => exact keyed
    | enumerate same => exact keyed.reordered same

/-- In every reachable state a token leads to its own session. -/
theorem sessionsKeyed_reachable {world : AuthWorld} (reached : authSystem.Reachable world) :
    AuthService.SessionsKeyed world.service.sessions :=
  sessionsKeyed_inductive.reachable reached

end AiPowerGateway.Share

import AiPowerGateway.Share.AuthEvents

/-!
# What a refused rotation leaves behind

`rotate` drops the tokens of the machine and saves the rest before it asks whether
the caller is banned.  A refused call has dropped them all the same: the token of a
banned member does not come back when the member is unbanned, and a banned address
can destroy the tokens of a machine that is not its own.
-/

namespace AiPowerGateway.Share

open Systems EventRuns

namespace AuthService

/-- The same sessions, in the table and in the file. -/
structure SameSessions (first second : AuthService) : Prop where
  sessions : first.sessions = second.sessions
  file : first.sessionsFile = second.sessionsFile

/-- What nobody dropped can still be looked up. -/
theorem SameSessions.lookup {first second : AuthService} (same : SameSessions first second)
    (now : UInt64) (token : String) : first.lookup now token = second.lookup now token := by
  simp only [AuthService.lookup, same.sessions]

/-- The caller is not banned, neither as a machine nor by its address. -/
def Welcome (machineName ip : String) (service : AuthService) : Prop :=
  ip ∉ service.bannedIps ∧ machineName ∉ service.banned

/-- The machine has no session, live or expired. -/
def HasNone (machineName : String) (service : AuthService) : Prop :=
  ∀ session ∈ service.sessions.values, session.memberId ≠ machineName

/-- Saving the table as it is would leave the file as it is. -/
def FileCurrent (outcome : WriteOutcome) (service : AuthService) : Prop :=
  service.persistsSessions = true →
    match outcome with
    | .done => service.sessionsFile = some service.sessions.values
    | .untouched => True
    | .broken => service.sessionsFile = none

/-- The service once the tokens of the machine are dropped and the rest is saved. -/
def dropTokens (dropped : WriteOutcome) (machineName : String) (service : AuthService) :
    AuthService :=
  { service with
    sessions := service.sessions.retain fun session =>
      session.memberId ≠ machineName }.saveSessions dropped

theorem retain_eq_self_iff (machineName : String) (service : AuthService) :
    (service.sessions.retain fun session => session.memberId ≠ machineName) = service.sessions ↔
      service.HasNone machineName := by
  constructor
  · intro same session mem owner
    rw [← same] at mem
    simpa [owner] using (HashMap.mem_values_retain mem).2
  · intro none
    rw [AList.ext_iff]
    refine List.filter_eq_self.mpr fun entry mem => ?_
    exact decide_eq_true (none entry.snd (List.mem_map_of_mem mem))

/-- `rotate` is refused exactly when the caller is banned, and by then it has dropped. -/
theorem rotate_cases (now : UInt64) (genToken : String) (dropped issued : WriteOutcome)
    (machineName displayName ip : String) (service : AuthService) :
    (service.Welcome machineName ip ∧ ∃ session,
        (service.rotate now genToken dropped issued machineName displayName ip).1 =
          .ok session) ∨
      (¬ service.Welcome machineName ip ∧
        service.rotate now genToken dropped issued machineName displayName ip =
          (.error (.auth "banned"), service.dropTokens dropped machineName)) := by
  have none := service.liveSession_retain dropped now machineName
  rcases issue_cases now genToken issued machineName displayName ip
    (service.dropTokens dropped machineName) with
    ⟨_, live, -⟩ | ⟨-, banned, refused⟩ | ⟨-, ipFree, memberFree, answered⟩
  · rw [dropTokens, none] at live
    cases live
  · rw [dropTokens, saveSessions_bannedIps, saveSessions_banned] at banned
    exact Or.inr ⟨fun welcome => banned.elim welcome.1 welcome.2, refused⟩
  · rw [dropTokens, saveSessions_bannedIps] at ipFree
    rw [dropTokens, saveSessions_banned] at memberFree
    exact Or.inl ⟨⟨ipFree, memberFree⟩, _, congrArg Prod.fst answered⟩

/-- With nothing to drop, the save decides about the file. -/
theorem file_dropTokens_iff {machineName : String} {service : AuthService}
    (none : service.HasNone machineName) (dropped : WriteOutcome) :
    (service.dropTokens dropped machineName).sessionsFile = service.sessionsFile ↔
      service.FileCurrent dropped := by
  have same := (retain_eq_self_iff machineName service).mpr none
  cases persists : service.persistsSessions with
  | false => simp [dropTokens, saveSessions, FileCurrent, persists]
  | true =>
      have written : (service.dropTokens dropped machineName).sessionsFile =
          dropped.content service.sessionsFile service.sessions.values := by
        simp only [dropTokens, saveSessions, same, persists, if_true]
      rw [written]
      cases dropped with
      | done => exact ⟨fun kept _ => kept.symm, fun current => (current persists).symm⟩
      | untouched => exact ⟨fun _ _ => trivial, fun _ => rfl⟩
      | broken => exact ⟨fun kept _ => kept.symm, fun current => (current persists).symm⟩

theorem sameSessions_dropTokens_iff (dropped : WriteOutcome) (machineName : String)
    (service : AuthService) :
    SameSessions (service.dropTokens dropped machineName) service ↔
      service.HasNone machineName ∧ service.FileCurrent dropped := by
  have kept : (service.dropTokens dropped machineName).sessions = service.sessions ↔
      service.HasNone machineName := by
    rw [dropTokens, saveSessions_sessions, retain_eq_self_iff]
  constructor
  · rintro ⟨sessions, file⟩
    have none := kept.mp sessions
    exact ⟨none, (file_dropTokens_iff none dropped).mp file⟩
  · rintro ⟨none, current⟩
    exact ⟨kept.mpr none, (file_dropTokens_iff none dropped).mpr current⟩

end AuthService

/-- A refused rotation leaves the sessions alone exactly when there is nothing to drop. -/
theorem failed_rotation_iff (service : AuthService) (now : UInt64) (genToken : String)
    (dropped issued : WriteOutcome) (machineName displayName ip : String) :
    (∀ error,
        (service.rotate now genToken dropped issued machineName displayName ip).1 =
          .error error →
        AuthService.SameSessions
          (service.rotate now genToken dropped issued machineName displayName ip).2 service) ↔
      service.Welcome machineName ip ∨
        service.HasNone machineName ∧ service.FileCurrent dropped := by
  rcases service.rotate_cases now genToken dropped issued machineName displayName ip with
    ⟨welcome, session, answered⟩ | ⟨banned, refused⟩
  · rw [answered]
    simp [welcome]
  · rw [refused, or_iff_right banned, ← AuthService.sameSessions_dropTokens_iff]
    simp

/-- A machine joins and is banned. -/
def bannedJoin : List AuthEvent :=
  [.issue "token-1" .done "pc-1" "" "10.0.0.2", .revokeMember .done .done "pc-1" "10.0.0.2"]

/-- The banned machine asks for a new token, is refused, and has lost the one it had. -/
theorem failed_rotation_destroys :
    ¬ ∀ world, authSystem.Reachable world →
      ∀ genToken dropped issued machineName displayName ip error,
      (world.service.rotate world.now genToken dropped issued machineName displayName ip).1 =
        .error error →
      AuthService.SameSessions
        (world.service.rotate world.now genToken dropped issued machineName displayName ip).2
        world.service := by
  intro spared
  have same := spared _ (final_reachable freshAuth 1000 bannedJoin) "token-2" .done .done "pc-1"
    "" "10.0.0.2" _ rfl
  exact absurd (same.lookup 1000 "token-1") (by decide)

end AiPowerGateway.Share

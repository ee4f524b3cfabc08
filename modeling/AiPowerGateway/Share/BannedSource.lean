import AiPowerGateway.Share.AuthRuns

/-!
# What a banned source can learn

A banned address gets a token only by reuse: a machine name that has a live
session.  That token is dead exactly when the machine is banned as well.
-/

namespace AiPowerGateway.Share

namespace AuthWorld

/-- No call of `issue` from the address yields a token that is accepted. -/
def IssuesNoUsableToken (world : AuthWorld) (machineName displayName ip : String) : Prop :=
  ∀ genToken outcome session after,
    world.service.issue world.now genToken outcome machineName displayName ip =
        (.ok session, after) →
      after.verify world.now session.token = none

/-- No call of `rotate` from the address yields a token that is accepted. -/
def RotatesNoUsableToken (world : AuthWorld) (machineName displayName ip : String) : Prop :=
  ∀ genToken dropped issued session after,
    world.service.rotate world.now genToken dropped issued machineName displayName ip =
        (.ok session, after) →
      after.verify world.now session.token = none

/-- The machine is banned, or none of its sessions is live. -/
def NothingToReuse (world : AuthWorld) (machineName : String) : Prop :=
  machineName ∈ world.service.banned ∨
    ∀ session ∈ world.service.sessions.values, session.memberId = machineName →
      session.expiresAt ≤ world.now

section Banned

variable {world : AuthWorld} {machineName displayName ip : String}

/-- From a banned address, issuing either reuses a session or fails. -/
theorem issue_banned {service : AuthService} (banned : ip ∈ service.bannedIps) (now : UInt64)
    (genToken : String) (outcome : WriteOutcome) {session : Session} {after : AuthService}
    (issued : service.issue now genToken outcome machineName displayName ip =
      (.ok session, after)) :
    service.liveSession now machineName = some session ∧ after = service := by
  rcases AuthService.issue_cases now genToken outcome machineName displayName ip service with
    ⟨existing, live, reused⟩ | ⟨-, -, refused⟩ | ⟨-, free, -, -⟩
  · rw [reused] at issued
    cases issued
    exact ⟨live, rfl⟩
  · rw [refused] at issued
    cases issued
  · exact absurd banned free

/-- Rotating drops the sessions first, so from a banned address it always fails. -/
theorem rotatesNoUsableToken_of_banned (banned : ip ∈ world.service.bannedIps) :
    world.RotatesNoUsableToken machineName displayName ip := by
  intro genToken dropped issued session after rotated
  unfold AuthService.rotate at rotated
  obtain ⟨live, -⟩ := issue_banned (by simpa using banned) world.now genToken issued rotated
  rw [AuthService.liveSession_retain] at live
  cases live

/-- A live session under its own token is accepted unless its member is banned. -/
theorem verify_live {service : AuthService} (keyed : AuthService.SessionsKeyed service.sessions)
    {now : UInt64} {session : Session}
    (live : service.liveSession now machineName = some session) :
    service.verify now session.token = none ↔ machineName ∈ service.banned := by
  obtain ⟨stored, same, notExpired⟩ := AuthService.liveSession_eq_some live
  obtain ⟨token, found⟩ := HashMap.mem_values.mp stored
  have own : service.sessions.lookup session.token = some session := by
    rw [keyed token session found]
    exact found
  have valid : now ≤ session.expiresAt := UInt64.le_of_lt notExpired
  simp [AuthService.verify, AuthService.lookup, own, valid, AuthService.isMemberBanned, same,
    Option.filter]

theorem issuesNoUsableToken_iff (keyed : AuthService.SessionsKeyed world.service.sessions)
    (banned : ip ∈ world.service.bannedIps) :
    world.IssuesNoUsableToken machineName displayName ip ↔ world.NothingToReuse machineName := by
  unfold NothingToReuse
  rw [← AuthService.liveSession_eq_none]
  cases live : world.service.liveSession world.now machineName with
  | none =>
      constructor
      · intro _
        exact Or.inr rfl
      · intro _ genToken outcome session after issued
        rw [(issue_banned banned world.now genToken outcome issued).1] at live
        cases live
  | some session =>
      have accepted := verify_live keyed live
      constructor
      · intro noToken
        refine Or.inl (accepted.mp (noToken "" .done session world.service ?_))
        simp [AuthService.issue, live]
      · intro dead genToken outcome issued after call
        obtain ⟨same, unchanged⟩ := issue_banned banned world.now genToken outcome call
        rw [live] at same
        cases same
        rw [unchanged]
        exact accepted.mpr (dead.resolve_right (by simp))

end Banned

/--
In every reachable state, a banned address learns no accepted token from `issue`
or `rotate` exactly when the machine it names is banned or has no live session.
-/
theorem banned_source_learns_nothing_iff {world : AuthWorld}
    (reached : authSystem.Reachable world) {ip : String}
    (banned : ip ∈ world.service.bannedIps) (machineName displayName : String) :
    (world.IssuesNoUsableToken machineName displayName ip ∧
        world.RotatesNoUsableToken machineName displayName ip) ↔
      world.NothingToReuse machineName := by
  rw [and_iff_left (rotatesNoUsableToken_of_banned banned)]
  exact issuesNoUsableToken_iff (sessionsKeyed_reachable reached) banned

/-! ## A run that hands a live token to a banned address -/

/-- A process without files. -/
def firstBoot : AuthWorld where
  service :=
    { sessions := ∅, banned := ∅, bannedIps := ∅, ttlSecs := 3600, persists := false,
      persistsSessions := false, bannedFile := none, sessionsFile := none }
  now := 1000

theorem firstBoot_reachable : authSystem.Reachable firstBoot :=
  Systems.TransitionSystem.reachable_start ⟨firstBoot.service, rfl⟩

/-- `pc-1` has a token; then `pc-2` is banned together with its address. -/
def neighbourBanned : AuthWorld where
  service := (firstBoot.service.issue 1000 "token-1" .done "pc-1" "" "10.0.0.2").2.revokeMember
    .done .done "pc-2" "10.0.0.9"
  now := 1000

theorem neighbourBanned_reachable : authSystem.Reachable neighbourBanned :=
  (firstBoot_reachable.step (.issue firstBoot "token-1" .done "pc-1" "" "10.0.0.2")).step
    (.revokeMember _ .done .done "pc-2" "10.0.0.9")

theorem banned_source_learns_nothing_pc3 :
    neighbourBanned.IssuesNoUsableToken "pc-3" "" "10.0.0.9" ∧
      neighbourBanned.RotatesNoUsableToken "pc-3" "" "10.0.0.9" :=
  (banned_source_learns_nothing_iff neighbourBanned_reachable (by decide) "pc-3" "").mpr
    (Or.inr (by decide))

/-- The banned address names `pc-1` and gets the token of `pc-1`, which is accepted. -/
theorem banned_source_learns_live_token :
    ¬ ∀ world : AuthWorld, authSystem.Reachable world →
      ∀ machineName displayName ip, ip ∈ world.service.bannedIps →
        world.IssuesNoUsableToken machineName displayName ip ∧
          world.RotatesNoUsableToken machineName displayName ip := by
  intro safe
  have issues := (safe neighbourBanned neighbourBanned_reachable "pc-1" "" "10.0.0.9"
    (by decide)).1
  have refused := issues "token-2" .done
    ⟨"token-1", "pc-1", "pc-1", "pc-1", 4600, 1000⟩ neighbourBanned.service (by rfl)
  exact absurd refused (by decide)

end AuthWorld

end AiPowerGateway.Share

import AiPowerGateway.Share.AuthRuns
import AiPowerGateway.Systems.EventRuns

/-!
# Events of the authentication service

The steps of the service as a list of events, what each leaves in the session table
and in the session file, and what a new process reads back from that file.
-/

namespace AiPowerGateway.Share

open Systems EventRuns

inductive AuthEvent where
  | issue (genToken : String) (outcome : WriteOutcome) (machineName displayName ip : String)
  | rotate (genToken : String) (dropped issued : WriteOutcome)
      (machineName displayName ip : String)
  | revokeMember (banWritten sessionsWritten : WriteOutcome) (memberId ip : String)
  | unban (outcome : WriteOutcome) (memberId ip : String)
  | restart
  | clock (now : UInt64)
  /-- The session table may be enumerated in any order. -/
  | enumerate (reorder : HashMap Session → HashMap Session)
      (same : ∀ sessions, (reorder sessions).Reordered sessions)

namespace AuthEvent

def step : AuthEvent → AuthWorld → AuthWorld
  | .issue genToken outcome machineName displayName ip, world =>
      { world with
        service := (world.service.issue world.now genToken outcome machineName displayName ip).2 }
  | .rotate genToken dropped issued machineName displayName ip, world =>
      { world with
        service := (world.service.rotate world.now genToken dropped issued machineName
          displayName ip).2 }
  | .revokeMember banWritten sessionsWritten memberId ip, world =>
      { world with service := world.service.revokeMember banWritten sessionsWritten memberId ip }
  | .unban outcome memberId ip, world =>
      { world with service := world.service.unban outcome memberId ip }
  | .restart, world => { world with service := world.service.restart world.now }
  | .clock now, world => { world with now := now }
  | .enumerate reorder _, world =>
      { world with
        service := { world.service with sessions := reorder world.service.sessions } }

/-- The clock is not set back. -/
def Forward : AuthEvent → AuthWorld → Prop
  | .clock now, world => world.now ≤ now
  | _, _ => True

/-- Every file that the event writes is written. -/
def Saves : AuthEvent → AuthWorld → Prop
  | .issue _ outcome _ _ _, _ => outcome = .done
  | .rotate _ dropped issued _ _ _, _ => dropped = .done ∧ issued = .done
  | .revokeMember banWritten sessionsWritten _ _, _ =>
      banWritten = .done ∧ sessionsWritten = .done
  | .unban outcome _ _, _ => outcome = .done
  | _, _ => True

/-- A generated token is not in use. -/
def NewToken : AuthEvent → AuthWorld → Prop
  | .issue genToken _ _ _ _, world => world.service.sessions.lookup genToken = none
  | .rotate genToken _ _ _ _ _, world => world.service.sessions.lookup genToken = none
  | _, _ => True

theorem moves (event : AuthEvent) (world : AuthWorld) : AuthStep world (event.step world) := by
  cases event with
  | issue => exact .issue ..
  | rotate => exact .rotate ..
  | revokeMember => exact .revokeMember ..
  | unban => exact .unban ..
  | restart => exact .restart ..
  | clock => exact .clock ..
  | enumerate reorder same => exact .enumerate world (same _)

end AuthEvent

/-- A new process over the files of an earlier one. -/
def opened (before : AuthService) (now : UInt64) : AuthWorld := ⟨before.restart now, now⟩

/-- A run of events from a new process stays in the states that the service can reach. -/
theorem final_reachable (before : AuthService) (now : UInt64) (events : List AuthEvent) :
    authSystem.Reachable (final AuthEvent.step events (opened before now)) := by
  have start : authSystem.Reachable (opened before now) :=
    TransitionSystem.reachable_start ⟨before, rfl⟩
  generalize opened before now = world at start
  induction events generalizing world with
  | nil => exact start
  | cons event events ih => exact ih _ (start.step (event.moves world))

/-- A service whose tokens live for an hour and that has no files yet. -/
def freshAuth : AuthService where
  sessions := ∅
  banned := ∅
  bannedIps := ∅
  ttlSecs := 3600
  persists := true
  persistsSessions := true
  bannedFile := none
  sessionsFile := none

namespace AuthService

/-! ## The session file -/

/-- What the session file holds; a file that is missing or does not parse holds nothing. -/
def filedSessions (service : AuthService) : List Session := service.sessionsFile.getD []

@[simp] theorem save_filedSessions (outcome : WriteOutcome) (service : AuthService) :
    (service.save outcome).filedSessions = service.filedSessions := by
  unfold save
  split <;> rfl

/-- A save leaves the table in the file, the file alone, or nothing readable. -/
theorem filedSessions_saveSessions (outcome : WriteOutcome) (service : AuthService) :
    (service.saveSessions outcome).filedSessions = service.sessions.values ∨
      (service.saveSessions outcome).filedSessions = service.filedSessions ∨
      (service.saveSessions outcome).filedSessions = [] := by
  unfold saveSessions
  split
  · cases outcome with
    | done => exact Or.inl rfl
    | untouched => exact Or.inr (Or.inl rfl)
    | broken => exact Or.inr (Or.inr rfl)
  · exact Or.inr (Or.inl rfl)

theorem filedSessions_saveSessions_done {service : AuthService}
    (persists : service.persistsSessions = true) :
    (service.saveSessions .done).filedSessions = service.sessions.values := by
  simp [saveSessions, persists, filedSessions, WriteOutcome.content]

/-! ## What a new process reads back -/

theorem lookup_loadSessions (now : UInt64) (stored : List Session) (token : String) :
    (loadSessions now stored).lookup token =
      (stored.filter fun session => now < session.expiresAt).reverse.find? fun session =>
        session.token = token := by
  unfold loadSessions
  rw [HashMap.foldl_lastWriter (fun table : HashMap Session => table.lookup token)
    (Option.guard fun session => session.token = token), List.findSome?_guard]
  · simp
  · intro table session
    by_cases same : token = session.token
    · subst same
      simp [AList.lookup_insert, Option.guard]
    · simp [AList.lookup_insert_ne same, Option.guard, Ne.symm same]

theorem mem_of_lookup_loadSessions {now : UInt64} {stored : List Session} {token : String}
    {session : Session} (found : (loadSessions now stored).lookup token = some session) :
    session ∈ stored ∧ session.token = token ∧ now < session.expiresAt := by
  rw [lookup_loadSessions] at found
  have mem := List.mem_of_find?_eq_some found
  rw [List.mem_reverse, List.mem_filter, decide_eq_true_eq] at mem
  exact ⟨mem.1, by simpa using List.find?_some found, mem.2⟩

/-- From a file without a repeated token, exactly the sessions that have not expired. -/
theorem lookup_loadSessions_eq_some {stored : List Session}
    (distinct : (stored.map Session.token).Nodup) {now : UInt64} {token : String}
    {session : Session} :
    (loadSessions now stored).lookup token = some session ↔
      session ∈ stored ∧ session.token = token ∧ now < session.expiresAt := by
  refine ⟨mem_of_lookup_loadSessions, ?_⟩
  rintro ⟨mem, same, live⟩
  cases found : (loadSessions now stored).lookup token with
  | none =>
      rw [lookup_loadSessions, List.find?_eq_none] at found
      have refused := found session (by simp [mem, live])
      simp [same] at refused
  | some other =>
      obtain ⟨otherMem, otherSame, -⟩ := mem_of_lookup_loadSessions found
      rw [List.inj_on_of_nodup_map distinct mem otherMem (same.trans otherSame.symm)]

theorem mem_values_loadSessions {now : UInt64} {stored : List Session} {session : Session}
    (mem : session ∈ (loadSessions now stored).values) :
    session ∈ stored ∧ now < session.expiresAt := by
  obtain ⟨token, found⟩ := HashMap.mem_values.mp mem
  obtain ⟨filed, -, live⟩ := mem_of_lookup_loadSessions found
  exact ⟨filed, live⟩

theorem lookup_eq_some {service : AuthService} {now : UInt64} {token : String}
    {session : Session} :
    service.lookup now token = some session ↔
      service.sessions.lookup token = some session ∧ now ≤ session.expiresAt := by
  simp [lookup, Option.filter_eq_some_iff]

/-- A session of the table under its own token. -/
theorem SessionsKeyed.lookup_token {sessions : HashMap Session} (keyed : SessionsKeyed sessions)
    {session : Session} (mem : session ∈ sessions.values) :
    sessions.lookup session.token = some session := by
  obtain ⟨token, found⟩ := HashMap.mem_values.mp mem
  rw [keyed token session found, found]

end AuthService

end AiPowerGateway.Share

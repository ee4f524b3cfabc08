import AiPowerGateway.Share.AuthEvents

/-!
# One live key for each machine

Sessions lie under their tokens, so that a machine has one accepted token is a fact
about the whole table.  `issue` looks for a session that expires later, `lookup`
accepts one that expires now: a machine that asks in that very second is given a
second token, or refused, while its first is still accepted.
-/

namespace AiPowerGateway.Share

open Systems EventRuns

/-- At most one accepted session for each machine. -/
def OneEach (now : UInt64) (stored : List Session) : Prop :=
  ∀ first ∈ stored, ∀ second ∈ stored, first.memberId = second.memberId →
    now ≤ first.expiresAt → now ≤ second.expiresAt → first = second

theorem OneEach.nil (now : UInt64) : OneEach now [] := by
  intro first mem
  cases mem

theorem OneEach.subset {now : UInt64} {stored fewer : List Session} (one : OneEach now stored)
    (subset : ∀ session ∈ fewer, session ∈ stored) : OneEach now fewer := by
  intro first firstMem second secondMem
  exact one first (subset first firstMem) second (subset second secondMem)

/-- Fewer sessions are accepted as time goes on. -/
theorem OneEach.later {now later : UInt64} (order : now ≤ later) {stored : List Session}
    (one : OneEach now stored) : OneEach later stored := by
  intro first firstMem second secondMem same firstLive secondLive
  exact one first firstMem second secondMem same (UInt64.le_trans order firstLive)
    (UInt64.le_trans order secondLive)

namespace AuthService

/-- One accepted session for each machine, in the table and in the file to come back from. -/
structure OneLive (now : UInt64) (service : AuthService) : Prop where
  keyed : SessionsKeyed service.sessions
  table : OneEach now service.sessions.values
  file : OneEach now service.filedSessions

/-- None of the machine's sessions expires in this very second. -/
def NoneExpiring (now : UInt64) (machineName : String) (service : AuthService) : Prop :=
  ∀ session ∈ service.sessions.values, session.memberId = machineName →
    session.expiresAt ≠ now

section Table

variable {service : AuthService} {now : UInt64}

/-- The ban lists do not matter. -/
theorem OneLive.congr (live : service.OneLive now) {other : AuthService}
    (sessions : other.sessions = service.sessions)
    (file : other.filedSessions = service.filedSessions) : other.OneLive now := by
  constructor
  · rw [sessions]
    exact live.keyed
  · rw [sessions]
    exact live.table
  · rw [file]
    exact live.file

theorem OneLive.saveSessions (live : service.OneLive now) (outcome : WriteOutcome) :
    (service.saveSessions outcome).OneLive now where
  keyed := by
    rw [saveSessions_sessions]
    exact live.keyed
  table := by
    rw [saveSessions_sessions]
    exact live.table
  file := by
    rcases filedSessions_saveSessions outcome service with written | left | broken
    · rw [written]
      exact live.table
    · rw [left]
      exact live.file
    · rw [broken]
      exact .nil now

/-- Dropping sessions of the table keeps the rest single. -/
theorem OneLive.retain (live : service.OneLive now) (keep : Session → Bool) :
    { service with sessions := service.sessions.retain keep }.OneLive now where
  keyed := live.keyed.retain keep
  table := live.table.subset fun _ mem => (HashMap.mem_values_retain mem).1
  file := live.file

/-- A new session of a machine that has no accepted one. -/
theorem OneLive.insert (live : service.OneLive now) (session : Session)
    (none : ∀ stored ∈ service.sessions.values, stored.memberId = session.memberId →
      stored.expiresAt < now) :
    { service with sessions := service.sessions.insert session.token session }.OneLive now where
  keyed := live.keyed.insert session
  table := by
    have other {stored : Session} (mem : stored ∈ service.sessions.values)
        (same : stored.memberId = session.memberId) (accepted : now ≤ stored.expiresAt) : False :=
      absurd accepted (UInt64.not_le.mpr (none stored mem same))
    intro first firstMem second secondMem same firstLive secondLive
    rcases HashMap.mem_values_insert firstMem with rfl | firstOld
    · rcases HashMap.mem_values_insert secondMem with rfl | secondOld
      · rfl
      · exact (other secondOld same.symm secondLive).elim
    · rcases HashMap.mem_values_insert secondMem with rfl | secondOld
      · exact (other firstOld same firstLive).elim
      · exact live.table first firstOld second secondOld same firstLive secondLive
  file := live.file

/-- A new process has only sessions of the file. -/
theorem mem_filedSessions_of_restart {session : Session}
    (mem : session ∈ (service.restart now).sessions.values) : session ∈ service.filedSessions := by
  have loaded := (mem_values_loadSessions mem).1
  split at loaded
  · exact loaded
  · cases loaded

theorem OneLive.restart (live : service.OneLive now) : (service.restart now).OneLive now where
  keyed := keyed_restart now service
  table := live.file.subset fun _ mem => mem_filedSessions_of_restart mem
  file := live.file

theorem OneLive.reordered (live : service.OneLive now) {sessions : HashMap Session}
    (same : sessions.Reordered service.sessions) :
    { service with sessions := sessions }.OneLive now where
  keyed := live.keyed.reordered same
  table := live.table.subset fun _ mem => (same.map Sigma.snd).mem_iff.mp mem
  file := live.file

/-- Without a live session, the machine has an accepted one only if it expires now. -/
theorem noneExpiring_iff {machineName : String}
    (none : service.liveSession now machineName = none) :
    service.NoneExpiring now machineName ↔
      ∀ session ∈ service.sessions.values, session.memberId = machineName →
        session.expiresAt < now := by
  rw [liveSession_eq_none] at none
  constructor
  · intro expiring session mem same
    exact UInt64.lt_of_le_of_ne (none session mem same) (expiring session mem same)
  · intro expired session mem same
    exact UInt64.ne_of_lt (expired session mem same)

theorem OneLive.issue (live : service.OneLive now) (genToken : String) (outcome : WriteOutcome)
    {machineName : String} (displayName ip : String)
    (expiring : service.NoneExpiring now machineName) :
    (service.issue now genToken outcome machineName displayName ip).2.OneLive now := by
  rcases issue_cases now genToken outcome machineName displayName ip service with
    ⟨_, -, issued⟩ | ⟨-, -, issued⟩ | ⟨none, -, -, issued⟩
  · rw [issued]
    exact live
  · rw [issued]
    exact live
  · rw [issued]
    exact (live.insert (service.newSession now genToken machineName displayName)
      ((noneExpiring_iff none).mp expiring)).saveSessions outcome

end Table

end AuthService

namespace AuthWorld

/-- At most one token of a machine is accepted. -/
def OneKey (world : AuthWorld) : Prop :=
  ∀ memberId token other first second, world.service.lookup world.now token = some first →
    world.service.lookup world.now other = some second → first.memberId = memberId →
    second.memberId = memberId → token = other

theorem oneKey_of_oneLive {world : AuthWorld} (live : world.service.OneLive world.now) :
    world.OneKey := by
  intro memberId token other first second firstFound secondFound firstSame secondSame
  obtain ⟨firstStored, firstLive⟩ := AuthService.lookup_eq_some.mp firstFound
  obtain ⟨secondStored, secondLive⟩ := AuthService.lookup_eq_some.mp secondFound
  have same := live.table first (HashMap.mem_values.mpr ⟨token, firstStored⟩) second
    (HashMap.mem_values.mpr ⟨other, secondStored⟩) (firstSame.trans secondSame.symm)
    firstLive secondLive
  rw [← live.keyed token first firstStored, ← live.keyed other second secondStored, same]

end AuthWorld

namespace AuthEvent

/-- While a token of the machine is accepted, `issue` returns it. -/
def Returns : AuthEvent → AuthWorld → Prop
  | .issue genToken outcome machineName displayName ip, world =>
      ∀ token session, world.service.lookup world.now token = some session →
        session.memberId = machineName →
        (world.service.issue world.now genToken outcome machineName displayName ip).1.map
          Session.token = .ok token
  | _, _ => True

/-- A machine does not ask in the very second in which its session expires. -/
def InTime : AuthEvent → AuthWorld → Prop
  | .issue _ _ machineName _ _, world => world.service.NoneExpiring world.now machineName
  | _, _ => True

end AuthEvent

/-! ## One event -/

section Event

variable {world : AuthWorld} (live : world.service.OneLive world.now)

include live

/-- An answer that is no stored token is wrong as soon as the machine has an accepted one. -/
theorem returns_iff_of_other {machineName : String} {answer : Except RuntimeError String}
    (none : world.service.liveSession world.now machineName = none)
    (other : ∀ token session, world.service.sessions.lookup token = some session →
      answer ≠ .ok token) :
    (∀ token session, world.service.lookup world.now token = some session →
        session.memberId = machineName → answer = .ok token) ↔
      world.service.NoneExpiring world.now machineName := by
  rw [AuthService.noneExpiring_iff none]
  constructor
  · intro returns session mem same
    by_contra accepted
    have stored := live.keyed.lookup_token mem
    have found : world.service.lookup world.now session.token = some session := by
      simpa [AuthService.lookup, stored] using accepted
    exact other session.token session stored (returns session.token session found same)
  · intro expired token session found same
    obtain ⟨stored, accepted⟩ := AuthService.lookup_eq_some.mp found
    have past := expired session (HashMap.mem_values.mpr ⟨token, stored⟩) same
    exact absurd accepted (UInt64.not_le.mpr past)

theorem returns_issue_iff {genToken : String} (outcome : WriteOutcome)
    (machineName displayName ip : String)
    (fresh : world.service.sessions.lookup genToken = none) :
    (AuthEvent.issue genToken outcome machineName displayName ip).Returns world ↔
      world.service.NoneExpiring world.now machineName := by
  simp only [AuthEvent.Returns]
  rcases AuthService.issue_cases world.now genToken outcome machineName displayName ip
    world.service with ⟨existing, found, issued⟩ | ⟨none, -, issued⟩ | ⟨none, -, -, issued⟩
  · obtain ⟨mem, owner, later⟩ := AuthService.liveSession_eq_some found
    have single {session : Session} (stored : session ∈ world.service.sessions.values)
        (same : session.memberId = machineName) (accepted : world.now ≤ session.expiresAt) :
        existing = session :=
      live.table existing mem session stored (owner.trans same.symm) (UInt64.le_of_lt later)
        accepted
    rw [issued]
    apply iff_of_true
    · intro token session accepted same
      obtain ⟨stored, inTime⟩ := AuthService.lookup_eq_some.mp accepted
      have token_eq := live.keyed token session stored
      rw [← single (HashMap.mem_values.mpr ⟨token, stored⟩) same inTime] at token_eq
      exact congrArg Except.ok token_eq
    · intro session stored same expires
      have atExpiry := single stored same (UInt64.le_of_eq expires.symm)
      rw [atExpiry, expires] at later
      exact UInt64.lt_irrefl world.now later
  · refine returns_iff_of_other live none fun token session stored refused => ?_
    rw [issued] at refused
    cases refused
  · refine returns_iff_of_other live none fun token session stored answered => ?_
    rw [issued] at answered
    have same : genToken = token := Except.ok.inj answered
    rw [← same, fresh] at stored
    cases stored

/-- What `issue` needs is what keeps the keys single; nothing else can make them double. -/
theorem oneLive_step {event : AuthEvent} (forward : event.Forward world)
    (inTime : event.InTime world) :
    (event.step world).service.OneLive (event.step world).now := by
  cases event with
  | issue genToken outcome machineName displayName ip =>
      exact live.issue genToken outcome displayName ip inTime
  | rotate genToken dropped issued machineName displayName ip =>
      refine ((live.retain _).saveSessions dropped).issue genToken issued displayName ip ?_
      intro session mem same
      rw [AuthService.saveSessions_sessions] at mem
      simpa [same] using (HashMap.mem_values_retain mem).2
  | revokeMember banWritten sessionsWritten memberId ip =>
      refine AuthService.OneLive.saveSessions (live.congr ?_ ?_) sessionsWritten
      · rw [AuthService.save_sessions]
      · rw [AuthService.save_filedSessions]
        rfl
  | unban outcome memberId ip =>
      refine live.congr ?_ ?_
      · rw [AuthEvent.step, AuthService.unban, AuthService.save_sessions]
      · rw [AuthEvent.step, AuthService.unban, AuthService.save_filedSessions]
        rfl
  | restart => exact live.restart
  | clock now => exact ⟨live.keyed, live.table.later forward, live.file.later forward⟩
  | enumerate reorder same => exact live.reordered (same _)

theorem returns_iff_inTime {event : AuthEvent} (fresh : event.NewToken world) :
    event.Returns world ↔ event.InTime world := by
  cases event with
  | issue genToken outcome machineName displayName ip =>
      exact returns_issue_iff live outcome machineName displayName ip fresh
  | _ => exact Iff.rfl

end Event

/-! ## Runs -/

theorem oneKey_throughout {events : List AuthEvent} {world : AuthWorld}
    (live : world.service.OneLive world.now)
    (forward : Fitting AuthEvent.step AuthEvent.Forward events world)
    (inTime : Fitting AuthEvent.step AuthEvent.InTime events world) :
    Throughout AuthEvent.step AuthWorld.OneKey events world := by
  have always : Throughout AuthEvent.step (fun world => world.service.OneLive world.now) events
      world := by
    refine throughout_of_fitting ?_ (forward.and inTime) live
    rintro event world ⟨forward, inTime⟩ live
    exact oneLive_step live forward inTime
  exact always.imp fun _ => AuthWorld.oneKey_of_oneLive

theorem fitting_returns_iff {events : List AuthEvent} {world : AuthWorld}
    (live : world.service.OneLive world.now)
    (forward : Fitting AuthEvent.step AuthEvent.Forward events world)
    (fresh : Fitting AuthEvent.step AuthEvent.NewToken events world) :
    Fitting AuthEvent.step AuthEvent.Returns events world ↔
      Fitting AuthEvent.step AuthEvent.InTime events world := by
  induction events generalizing world with
  | nil => simp
  | cons event events ih =>
      rw [fitting_cons, fitting_cons, returns_iff_inTime live fresh.1]
      exact and_congr_right fun inTime =>
        ih (oneLive_step live forward.1 inTime) forward.2 fresh.2

/-- A service without a session file starts with no session at all. -/
theorem oneLive_opened {before : AuthService} (first : before.sessionsFile = none)
    (now : UInt64) : (opened before now).service.OneLive (opened before now).now := by
  have file : (before.restart now).filedSessions = [] := by
    simp [AuthService.filedSessions, AuthService.restart, first]
  refine ⟨AuthService.keyed_restart now before, ?_, ?_⟩
  · refine (OneEach.nil now).subset fun session mem => ?_
    have filed := AuthService.mem_filedSessions_of_restart mem
    rwa [AuthService.filedSessions, first] at filed
  · show OneEach now (before.restart now).filedSessions
    rw [file]
    exact .nil now

/--
A machine has at most one accepted token at every instant, and keeps being given it,
exactly when it never asks in the second in which its session expires.
-/
theorem one_live_key_iff {before : AuthService} (first : before.sessionsFile = none)
    (now : UInt64) {events : List AuthEvent}
    (forward : Fitting AuthEvent.step AuthEvent.Forward events (opened before now))
    (fresh : Fitting AuthEvent.step AuthEvent.NewToken events (opened before now)) :
    (Throughout AuthEvent.step AuthWorld.OneKey events (opened before now) ∧
        Fitting AuthEvent.step AuthEvent.Returns events (opened before now)) ↔
      Fitting AuthEvent.step AuthEvent.InTime events (opened before now) := by
  have live := oneLive_opened first now
  rw [fitting_returns_iff live forward fresh]
  exact and_iff_right_of_imp fun inTime => oneKey_throughout live forward inTime

/-- A machine joins, and asks for its token again at the second `again`. -/
def askAgain (again : UInt64) : List AuthEvent :=
  [.clock 1000, .issue "token-1" .done "pc-1" "" "10.0.0.2", .clock again,
    .issue "token-2" .done "pc-1" "" "10.0.0.2"]

theorem askAgain_forward {again : UInt64} (later : 1000 ≤ again) :
    Fitting AuthEvent.step AuthEvent.Forward (askAgain again) (opened freshAuth 0) :=
  ⟨(by decide : (0 : UInt64) ≤ 1000), trivial, later, trivial, trivial⟩

theorem askAgain_newToken (again : UInt64) :
    Fitting AuthEvent.step AuthEvent.NewToken (askAgain again) (opened freshAuth 0) := by
  exact ⟨trivial, rfl, trivial, rfl, trivial⟩

theorem one_live_key_after_expiry :
    Throughout AuthEvent.step AuthWorld.OneKey (askAgain 4601) (opened freshAuth 0) ∧
      Fitting AuthEvent.step AuthEvent.Returns (askAgain 4601) (opened freshAuth 0) := by
  refine (one_live_key_iff rfl 0 (askAgain_forward (by decide)) (askAgain_newToken 4601)).mpr ?_
  refine ⟨trivial, ?_, trivial, ?_, trivial⟩
  · show ∀ session ∈ _, _
    decide
  · show ∀ session ∈ _, _
    decide

/-- At 4600 the first token is still accepted, and the machine is given a second. -/
theorem two_live_keys :
    ¬ ∀ before : AuthService, before.sessionsFile = none → ∀ now events,
      Fitting AuthEvent.step AuthEvent.Forward events (opened before now) →
      Fitting AuthEvent.step AuthEvent.NewToken events (opened before now) →
      Throughout AuthEvent.step AuthWorld.OneKey events (opened before now) ∧
        Fitting AuthEvent.step AuthEvent.Returns events (opened before now) := by
  intro single
  have run := single freshAuth rfl 0 (askAgain 4600) (askAgain_forward (by decide))
    (askAgain_newToken 4600)
  have last := run.1.last
  exact absurd (last "pc-1" "token-1" "token-2" _ _ rfl rfl rfl rfl) (by decide)

end AiPowerGateway.Share

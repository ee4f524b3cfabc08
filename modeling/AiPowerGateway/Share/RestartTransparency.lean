import AiPowerGateway.Share.AuthEvents
import AiPowerGateway.Share.BanRuns

/-!
# Restarts that no caller can notice

A new process over the files of a quiet service answers as the old one would, except
at the second in which a session expires: the old process still accepts the session,
and the new one no longer loads it.
-/

namespace AiPowerGateway.Share

open Systems EventRuns

namespace AuthService

/-- Two services that no question can tell apart at an instant. -/
structure SameAnswers (now : UInt64) (first second : AuthService) : Prop where
  verify (token : String) : first.verify now token = second.verify now token
  lookup (token : String) : first.lookup now token = second.lookup now token
  isMemberBanned (memberId : String) :
    first.isMemberBanned memberId = second.isMemberBanned memberId
  isBanned (ip : String) : first.isBanned ip = second.isBanned ip

/-- A process that opens the files at `start` answers as this one, from then on. -/
def Transparent (service : AuthService) (start : UInt64) : Prop :=
  ∀ now, start ≤ now → SameAnswers now (service.restart start) service

/-- No session expires in this very second. -/
def NoneExpires (service : AuthService) (now : UInt64) : Prop :=
  ∀ session ∈ service.sessions.values, session.expiresAt ≠ now

/-- No session that an earlier load left out would be loaded now. -/
def NoneReturns (service : AuthService) (now : UInt64) : Prop :=
  ∀ session ∈ service.filedSessions, now < session.expiresAt →
    session ∈ service.sessions.values

/-! ## What the files hold between two calls -/

/-- The files hold what the tables hold, perhaps with sessions that were not loaded. -/
structure Filed (service : AuthService) : Prop where
  persists : service.persists = true
  persistsSessions : service.persistsSessions = true
  keyed : SessionsKeyed service.sessions
  bans : service.BansFiled
  distinct : (service.filedSessions.map Session.token).Nodup
  stored : ∀ session ∈ service.sessions.values, session ∈ service.filedSessions

theorem SessionsKeyed.distinct {sessions : HashMap Session} (keyed : SessionsKeyed sessions) :
    (sessions.values.map Session.token).Nodup := by
  have keys : sessions.values.map Session.token = sessions.keys := by
    unfold HashMap.values AList.keys List.keys
    rw [List.map_map]
    apply List.map_congr_left
    intro entry mem
    exact keyed entry.fst entry.snd (AList.mem_lookup_iff.mpr mem)
  rw [keys]
  exact sessions.keys_nodup

theorem bansFiled_save {service : AuthService} (persists : service.persists = true) :
    (service.save .done).BansFiled := by
  intro list
  have saved : (service.save .done).filedBans = ⟨service.banned.sort, service.bannedIps.sort⟩ := by
    simp [save, persists, filedBans, WriteOutcome.content]
  rw [saved]
  cases list with
  | members => simp [BannedState.list, banList, save, persists]
  | ips => simp [BannedState.list, banList, save, persists]

theorem BansFiled.saveSessions {service : AuthService} (bans : service.BansFiled)
    (outcome : WriteOutcome) : (service.saveSessions outcome).BansFiled := by
  obtain ⟨lists, file, -⟩ := service.saveSessions_bans outcome
  intro list
  rw [file, lists]
  exact bans list

/-- A save leaves everything filed. -/
theorem filed_saveSessions {service : AuthService} (persists : service.persists = true)
    (persistsSessions : service.persistsSessions = true) (keyed : SessionsKeyed service.sessions)
    (bans : service.BansFiled) : (service.saveSessions .done).Filed := by
  have written := filedSessions_saveSessions_done persistsSessions
  constructor
  · simp [saveSessions, persistsSessions, persists]
  · simp [saveSessions, persistsSessions]
  · rw [saveSessions_sessions]
    exact keyed
  · exact bans.saveSessions .done
  · rw [written]
    exact keyed.distinct
  · intro session mem
    rw [saveSessions_sessions] at mem
    rw [written]
    exact mem

theorem sessions_restart {before : AuthService}
    (persistsSessions : before.persistsSessions = true) (now : UInt64) :
    (before.restart now).sessions = loadSessions now before.filedSessions := by
  simp [restart, persistsSessions, filedSessions]

theorem filed_restart {before : AuthService} (persists : before.persists = true)
    (persistsSessions : before.persistsSessions = true)
    (distinct : (before.filedSessions.map Session.token).Nodup) (now : UInt64) :
    (before.restart now).Filed := by
  constructor
  · exact persists
  · exact persistsSessions
  · exact keyed_restart now before
  · exact bansFiled_restart persists now
  · exact distinct
  · intro session mem
    rw [sessions_restart persistsSessions] at mem
    exact (mem_values_loadSessions mem).1

/-- A load leaves out only what has expired. -/
theorem noneReturns_restart {before : AuthService}
    (persistsSessions : before.persistsSessions = true)
    (distinct : (before.filedSessions.map Session.token).Nodup) (now : UInt64) :
    (before.restart now).NoneReturns now := by
  intro session mem live
  rw [sessions_restart persistsSessions, HashMap.mem_values]
  exact ⟨session.token, (lookup_loadSessions_eq_some distinct).mpr ⟨mem, rfl, live⟩⟩

/-- After a save no session is left out. -/
theorem noneReturns_saveSessions {service : AuthService}
    (persistsSessions : service.persistsSessions = true) (now : UInt64) :
    (service.saveSessions .done).NoneReturns now := by
  intro session mem _
  rw [filedSessions_saveSessions_done persistsSessions] at mem
  rwa [saveSessions_sessions]

theorem Filed.issue {service : AuthService} (filed : service.Filed) (now : UInt64)
    (genToken machineName displayName ip : String) :
    (service.issue now genToken .done machineName displayName ip).2.Filed := by
  rcases issue_cases now genToken .done machineName displayName ip service with
    ⟨_, -, issued⟩ | ⟨-, -, issued⟩ | ⟨-, -, -, issued⟩
  · rw [issued]
    exact filed
  · rw [issued]
    exact filed
  · rw [issued]
    exact filed_saveSessions filed.persists filed.persistsSessions
      (filed.keyed.insert (service.newSession now genToken machineName displayName)) filed.bans

theorem noneReturns_issue {service : AuthService} (filed : service.Filed) (now : UInt64)
    (returns : service.NoneReturns now) (genToken machineName displayName ip : String) :
    (service.issue now genToken .done machineName displayName ip).2.NoneReturns now := by
  rcases issue_cases now genToken .done machineName displayName ip service with
    ⟨_, -, issued⟩ | ⟨-, -, issued⟩ | ⟨-, -, -, issued⟩
  · rw [issued]
    exact returns
  · rw [issued]
    exact returns
  · rw [issued]
    refine noneReturns_saveSessions ?_ now
    exact filed.persistsSessions

/-- The table without the machine's tokens, as `rotate` saves it before it issues. -/
theorem Filed.dropped {service : AuthService} (filed : service.Filed) (machineName : String) :
    ({ service with
        sessions := service.sessions.retain fun session =>
          session.memberId ≠ machineName }.saveSessions .done).Filed :=
  filed_saveSessions filed.persists filed.persistsSessions (filed.keyed.retain _) filed.bans

/-- Ban lists may change at will as long as they are saved afterwards. -/
theorem Filed.save {service : AuthService} (filed : service.Filed)
    (banned bannedIps : Finset String) :
    ({ service with banned := banned, bannedIps := bannedIps }.save .done).Filed := by
  have bans : ({ service with banned := banned, bannedIps := bannedIps }.save .done).BansFiled :=
    bansFiled_save filed.persists
  have saved : { service with banned := banned, bannedIps := bannedIps }.save .done =
      { service with
        banned := banned
        bannedIps := bannedIps
        bannedFile := some ⟨banned.sort, bannedIps.sort⟩ } := by
    simp [AuthService.save, filed.persists, WriteOutcome.content]
  rw [saved] at bans ⊢
  exact ⟨filed.persists, filed.persistsSessions, filed.keyed, bans, filed.distinct, filed.stored⟩

theorem Filed.revokeMember {service : AuthService} (filed : service.Filed)
    (memberId ip : String) : (service.revokeMember .done .done memberId ip).Filed := by
  have saved := filed.save (insert memberId service.banned)
    (if ip = "" then service.bannedIps else insert ip service.bannedIps)
  exact filed_saveSessions saved.persists saved.persistsSessions saved.keyed saved.bans

theorem Filed.unban {service : AuthService} (filed : service.Filed)
    (memberId ip : String) : (service.unban .done memberId ip).Filed :=
  filed.save (service.banned.erase memberId)
    (if ip = "" then service.bannedIps else service.bannedIps.erase ip)

theorem Filed.reordered {service : AuthService} (filed : service.Filed)
    {sessions : HashMap Session} (same : sessions.Reordered service.sessions) :
    { service with sessions := sessions }.Filed where
  persists := filed.persists
  persistsSessions := filed.persistsSessions
  keyed := filed.keyed.reordered same
  bans := filed.bans
  distinct := filed.distinct
  stored session mem := filed.stored session ((same.map Sigma.snd).mem_iff.mp mem)

end AuthService

/-! ## Runs -/

theorem filed_step {event : AuthEvent} {world : AuthWorld} (saves : event.Saves world)
    (filed : world.service.Filed) : (event.step world).service.Filed := by
  cases event with
  | issue genToken outcome machineName displayName ip =>
      cases (show outcome = .done from saves)
      exact filed.issue world.now genToken machineName displayName ip
  | rotate genToken dropped issued machineName displayName ip =>
      obtain ⟨droppedSaved, issuedSaved⟩ := saves
      subst droppedSaved issuedSaved
      exact (filed.dropped machineName).issue world.now genToken machineName displayName ip
  | revokeMember banWritten sessionsWritten memberId ip =>
      obtain ⟨bansSaved, sessionsSaved⟩ := saves
      subst bansSaved sessionsSaved
      exact filed.revokeMember memberId ip
  | unban outcome memberId ip =>
      cases (show outcome = .done from saves)
      exact filed.unban memberId ip
  | restart =>
      exact AuthService.filed_restart filed.persists filed.persistsSessions filed.distinct world.now
  | clock now => exact filed
  | enumerate reorder same => exact filed.reordered (same _)

/-- Unless the clock is set back, no session comes back. -/
theorem noneReturns_step {event : AuthEvent} {world : AuthWorld} (saves : event.Saves world)
    (forward : event.Forward world) (filed : world.service.Filed)
    (returns : world.service.NoneReturns world.now) :
    (event.step world).service.NoneReturns (event.step world).now := by
  cases event with
  | issue genToken outcome machineName displayName ip =>
      cases (show outcome = .done from saves)
      exact AuthService.noneReturns_issue filed world.now returns genToken machineName
        displayName ip
  | rotate genToken dropped issued machineName displayName ip =>
      obtain ⟨droppedSaved, issuedSaved⟩ := saves
      subst droppedSaved issuedSaved
      refine AuthService.noneReturns_issue (filed.dropped machineName) world.now ?_
        genToken machineName displayName ip
      exact AuthService.noneReturns_saveSessions (by exact filed.persistsSessions) world.now
  | revokeMember banWritten sessionsWritten memberId ip =>
      obtain ⟨bansSaved, sessionsSaved⟩ := saves
      subst bansSaved sessionsSaved
      refine AuthService.noneReturns_saveSessions ?_ world.now
      exact (filed.save _ _).persistsSessions
  | unban outcome memberId ip =>
      intro session mem live
      rw [AuthEvent.step, AuthService.unban, AuthService.save_filedSessions] at mem
      rw [AuthEvent.step, AuthService.unban, AuthService.save_sessions]
      exact returns session mem live
  | restart =>
      exact AuthService.noneReturns_restart filed.persistsSessions filed.distinct world.now
  | clock now =>
      intro session mem live
      exact returns session mem (UInt64.lt_of_le_of_lt forward live)
  | enumerate reorder same =>
      intro session mem live
      exact ((same _).map Sigma.snd).mem_iff.mpr (returns session mem live)

/-! ## What a restart shows -/

namespace AuthService

/-- Services with the same sessions for every token and the same bans answer alike. -/
theorem SameAnswers.of_lookup {now : UInt64} {first second : AuthService}
    (lookups : ∀ token, first.lookup now token = second.lookup now token)
    (bans : first.banList = second.banList) : SameAnswers now first second := by
  have members : first.banned = second.banned := congrFun bans .members
  have ips : first.bannedIps = second.bannedIps := congrFun bans .ips
  constructor
  · intro token
    simp only [AuthService.verify, lookups token, AuthService.isMemberBanned, members]
  · exact lookups
  · intro memberId
    simp only [AuthService.isMemberBanned, members]
  · intro ip
    simp only [AuthService.isBanned, ips]

theorem Filed.lookup_restart {service : AuthService} (filed : service.Filed)
    {start now : UInt64} {token : String} {session : Session} :
    (service.restart start).lookup now token = some session ↔
      session ∈ service.filedSessions ∧ session.token = token ∧ start < session.expiresAt ∧
        now ≤ session.expiresAt := by
  rw [lookup_eq_some, sessions_restart filed.persistsSessions,
    lookup_loadSessions_eq_some filed.distinct]
  simp only [and_assoc]

theorem Filed.transparent_iff {service : AuthService} (filed : service.Filed) (start : UInt64) :
    service.Transparent start ↔ service.NoneExpires start ∧ service.NoneReturns start := by
  constructor
  · intro transparent
    have same := (transparent start (UInt64.le_refl start)).lookup
    constructor
    · intro session mem expires
      have old : service.lookup start session.token = some session :=
        lookup_eq_some.mpr ⟨filed.keyed.lookup_token mem, UInt64.le_of_eq expires.symm⟩
      rw [← same, filed.lookup_restart, expires] at old
      exact UInt64.lt_irrefl start old.2.2.1
    · intro session mem live
      have new : (service.restart start).lookup start session.token = some session :=
        filed.lookup_restart.mpr ⟨mem, rfl, live, UInt64.le_of_lt live⟩
      rw [same, lookup_eq_some] at new
      exact HashMap.mem_values.mpr ⟨session.token, new.1⟩
  · rintro ⟨expires, returns⟩ now later
    refine .of_lookup (fun token => Option.ext fun session => ?_) (funext fun list => ?_)
    · rw [filed.lookup_restart, lookup_eq_some]
      constructor
      · rintro ⟨mem, rfl, loaded, live⟩
        exact ⟨filed.keyed.lookup_token (returns session mem loaded), live⟩
      · rintro ⟨found, live⟩
        have mem := HashMap.mem_values.mpr ⟨token, found⟩
        have loaded : start < session.expiresAt :=
          UInt64.lt_of_le_of_ne (UInt64.le_trans later live) (expires session mem).symm
        exact ⟨filed.stored session mem, filed.keyed token session found, loaded, live⟩
    · exact (restart_bans filed.persists start list).trans (filed.bans list)

end AuthService

/-- What holds of a service between two calls, in a run with successful writes. -/
theorem filed_final {events : List AuthEvent} {world : AuthWorld}
    (saves : Fitting AuthEvent.step AuthEvent.Saves events world) (filed : world.service.Filed) :
    (final AuthEvent.step events world).service.Filed := by
  have always : Throughout AuthEvent.step (fun world => world.service.Filed) events world := by
    refine throughout_of_fitting ?_ saves filed
    exact fun event world saves filed => filed_step saves filed
  exact always.last

theorem noneReturns_final {events : List AuthEvent} {world : AuthWorld}
    (saves : Fitting AuthEvent.step AuthEvent.Saves events world)
    (forward : Fitting AuthEvent.step AuthEvent.Forward events world)
    (filed : world.service.Filed) (returns : world.service.NoneReturns world.now) :
    (final AuthEvent.step events world).service.NoneReturns
      (final AuthEvent.step events world).now := by
  have always : Throughout AuthEvent.step
      (fun world => world.service.Filed ∧ world.service.NoneReturns world.now) events world := by
    refine throughout_of_fitting ?_ (saves.and forward) ⟨filed, returns⟩
    rintro event world ⟨saves, forward⟩ ⟨filed, returns⟩
    exact ⟨filed_step saves filed, noneReturns_step saves forward filed returns⟩
  exact always.last.2

/--
A restart goes unnoticed exactly when no session expires in the second in which the
new process loads the files.  Only a clock that was set back could also bring back a
session that an earlier load left out.
-/
theorem restart_transparent_iff {before : AuthService} (persists : before.persists = true)
    (persistsSessions : before.persistsSessions = true)
    (distinct : (before.filedSessions.map Session.token).Nodup) (now : UInt64)
    {events : List AuthEvent}
    (saves : Fitting AuthEvent.step AuthEvent.Saves events (opened before now))
    (start : UInt64) :
    ((final AuthEvent.step events (opened before now)).service.Transparent start ↔
        (final AuthEvent.step events (opened before now)).service.NoneExpires start ∧
        (final AuthEvent.step events (opened before now)).service.NoneReturns start) ∧
      (Fitting AuthEvent.step AuthEvent.Forward events (opened before now) →
        (final AuthEvent.step events (opened before now)).now ≤ start →
        ((final AuthEvent.step events (opened before now)).service.Transparent start ↔
          (final AuthEvent.step events (opened before now)).service.NoneExpires start)) := by
  have first := AuthService.filed_restart persists persistsSessions distinct now
  have filed := filed_final saves first
  have exact_at := filed.transparent_iff start
  refine ⟨exact_at, fun forward later => ?_⟩
  have returns := noneReturns_final saves forward first
    (AuthService.noneReturns_restart persistsSessions distinct now)
  rw [exact_at, and_iff_left]
  intro session mem live
  exact returns session mem (UInt64.lt_of_le_of_lt later live)

/-- One machine joins, 3600 seconds before its session expires. -/
def firstJoin : List AuthEvent :=
  [.clock 1000, .issue "token-1" .done "pc-1" "" "10.0.0.2"]

theorem firstJoin_saves : Fitting AuthEvent.step AuthEvent.Saves firstJoin (opened freshAuth 0) :=
  ⟨trivial, rfl, trivial⟩

theorem firstJoin_forward :
    Fitting AuthEvent.step AuthEvent.Forward firstJoin (opened freshAuth 0) :=
  ⟨(by decide : (0 : UInt64) ≤ 1000), trivial, trivial⟩

theorem restart_transparent_before_expiry :
    (final AuthEvent.step firstJoin (opened freshAuth 0)).service.Transparent 4599 := by
  refine ((restart_transparent_iff rfl rfl (by decide) 0 firstJoin_saves 4599).2
    firstJoin_forward (by decide)).mpr ?_
  unfold AuthService.NoneExpires
  decide

/-- At 4600 the old process still accepts the token, and the new one has not loaded it. -/
theorem restart_not_transparent :
    ¬ ∀ before : AuthService, before.persists = true → before.persistsSessions = true →
      (before.filedSessions.map Session.token).Nodup → ∀ now events,
      Fitting AuthEvent.step AuthEvent.Saves events (opened before now) →
      Fitting AuthEvent.step AuthEvent.Forward events (opened before now) → ∀ start,
      (final AuthEvent.step events (opened before now)).now ≤ start →
      (final AuthEvent.step events (opened before now)).service.Transparent start := by
  intro transparent
  have same := transparent freshAuth rfl rfl (by decide) 0 firstJoin firstJoin_saves
    firstJoin_forward 4600 (by decide) 4600 (UInt64.le_refl _)
  exact absurd (same.lookup "token-1") (by decide)

end AiPowerGateway.Share

import AiPowerGateway.Collections.HashMap
import AiPowerGateway.Share.Backend
import AiPowerGateway.Systems.Reachability
import Mathlib.Data.Finset.Insert
import Mathlib.Data.Finset.Sort
import Mathlib.Data.String.Basic

/-!
# Authentication

Tokens per machine, the ban lists of members and addresses, and the two files
that let both outlive the process.
-/

namespace AiPowerGateway.Share

structure Session where
  token : String
  memberId : String
  machineName : String
  displayName : String
  expiresAt : UInt64
  issuedAt : UInt64
  deriving DecidableEq, Repr

/-- The ban lists as a file holds them. -/
structure BannedState where
  members : List String
  ips : List String
  deriving DecidableEq, Repr

/-- The service with its files; a service without a path never writes its file. -/
structure AuthService where
  sessions : HashMap Session
  banned : Finset String
  bannedIps : Finset String
  ttlSecs : UInt64
  persists : Bool
  persistsSessions : Bool
  bannedFile : Option BannedState
  sessionsFile : Option (List Session)

namespace AuthService

/-! ## Files -/

def save (outcome : WriteOutcome) (service : AuthService) : AuthService :=
  if service.persists then
    { service with
      bannedFile := outcome.content service.bannedFile
        ⟨service.banned.sort, service.bannedIps.sort⟩ }
  else service

/-- The ban lists as a file would hold them. -/
def bannedState (service : AuthService) : BannedState :=
  ⟨service.banned.sort, service.bannedIps.sort⟩

def saveSessions (outcome : WriteOutcome) (service : AuthService) : AuthService :=
  if service.persistsSessions then
    { service with sessionsFile := outcome.content service.sessionsFile service.sessions.values }
  else service

/-- The sessions of a file that have not expired, under their tokens. -/
def loadSessions (now : UInt64) (stored : List Session) : HashMap Session :=
  (stored.filter fun session => now < session.expiresAt).foldl
    (fun table session => table.insert session.token session) ∅

/-- A new process over the files that there are. -/
def restart (now : UInt64) (service : AuthService) : AuthService :=
  let bans := if service.persists then service.bannedFile else none
  let stored := if service.persistsSessions then service.sessionsFile else none
  { service with
    sessions := loadSessions now (stored.getD [])
    banned := (bans.map BannedState.members).getD [] |>.toFinset
    bannedIps := (bans.map BannedState.ips).getD [] |>.toFinset }

/-! ## Tokens -/

def isMemberBanned (service : AuthService) (memberId : String) : Bool :=
  memberId ∈ service.banned

def isBanned (service : AuthService) (ip : String) : Bool := ip ∈ service.bannedIps

/-- The session of a machine that has not expired. -/
def liveSession (now : UInt64) (machineName : String) (service : AuthService) : Option Session :=
  service.sessions.values.find? fun session =>
    session.memberId = machineName && now < session.expiresAt

def newSession (now : UInt64) (genToken machineName displayName : String)
    (service : AuthService) : Session where
  token := genToken
  memberId := machineName
  machineName := machineName
  displayName := if displayName = "" then machineName else displayName
  expiresAt :=
    if service.ttlSecs = 0 then UInt64.ofNat (2 ^ 64 - 1) else now + service.ttlSecs
  issuedAt := now

/-- The live session of the machine, else a new one unless the source is banned. -/
def issue (now : UInt64) (genToken : String) (outcome : WriteOutcome)
    (machineName displayName ip : String) (service : AuthService) :
    Except RuntimeError Session × AuthService :=
  match service.liveSession now machineName with
  | some existing => (.ok existing, service)
  | none =>
      if service.isBanned ip || service.isMemberBanned machineName then
        (.error (.auth "banned"), service)
      else
        let session := service.newSession now genToken machineName displayName
        (.ok session,
          { service with
            sessions := service.sessions.insert session.token session }.saveSessions outcome)

/-- Drop the machine's tokens, then issue. -/
def rotate (now : UInt64) (genToken : String) (dropped issued : WriteOutcome)
    (machineName displayName ip : String) (service : AuthService) :
    Except RuntimeError Session × AuthService :=
  let remaining :=
    { service with
      sessions := service.sessions.retain fun session => session.memberId ≠ machineName }
  (remaining.saveSessions dropped).issue now genToken issued machineName displayName ip

/-- The session of a token that has not expired. -/
def lookup (now : UInt64) (token : String) (service : AuthService) : Option Session :=
  (service.sessions.lookup token).filter fun session => now ≤ session.expiresAt

/-- The session of a token that has not expired and whose member is not banned. -/
def verify (now : UInt64) (token : String) (service : AuthService) : Option Session :=
  (service.lookup now token).filter fun session => !service.isMemberBanned session.memberId

/-- Ban a member and, when it is known, the address. -/
def revokeMember (banWritten sessionsWritten : WriteOutcome) (memberId ip : String)
    (service : AuthService) : AuthService :=
  let bannedIps := if ip = "" then service.bannedIps else insert ip service.bannedIps
  (({ service with
    banned := insert memberId service.banned
    bannedIps := bannedIps }).save banWritten).saveSessions sessionsWritten

def unban (outcome : WriteOutcome) (memberId ip : String) (service : AuthService) : AuthService :=
  let bannedIps := if ip = "" then service.bannedIps else service.bannedIps.erase ip
  ({ service with
    banned := service.banned.erase memberId
    bannedIps := bannedIps }).save outcome

end AuthService

end AiPowerGateway.Share

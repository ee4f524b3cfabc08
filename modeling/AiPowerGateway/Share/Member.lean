import AiPowerGateway.Collections.HashMap
import Mathlib.Data.List.Sort

/-!
# The member registry

Who has been seen, from where, and when.
-/

namespace AiPowerGateway.Share

structure Member where
  memberId : String
  machineName : String
  ip : String
  gatewayId : String
  displayName : String
  lastSeen : UInt64
  joinedAt : UInt64
  online : Bool
  deriving DecidableEq, Repr

/-- Seen in time, and not marked as offline since. -/
def Member.isOnline (now timeout : UInt64) (member : Member) : Bool :=
  member.online && now.toNat - member.lastSeen.toNat ≤ timeout.toNat

structure MemberRegistry where
  members : HashMap Member
  timeoutSecs : UInt64
  gatewayId : String

namespace MemberRegistry

/-- What a sign of life changes; empty texts change nothing. -/
def refresh (displayName ip : String) (now : UInt64) (member : Member) : Member :=
  { member with
    lastSeen := now
    online := true
    ip := if ip = "" then member.ip else ip
    displayName := if displayName = "" then member.displayName else displayName }

/-- Register a member, or refresh the entry. -/
def upsert (machineName displayName ip : String) (now : UInt64) (registry : MemberRegistry) :
    MemberRegistry :=
  let fresh : Member :=
    { memberId := machineName, machineName := machineName, ip := ip
      gatewayId := registry.gatewayId
      displayName := if displayName = "" then machineName else displayName
      lastSeen := now, joinedAt := now, online := true }
  { registry with
    members := registry.members.upsert machineName fresh (refresh displayName ip now) }

/-- Rename a member; `false` when the machine is not registered. -/
def rename (machineName newDisplay : String) (registry : MemberRegistry) :
    Bool × MemberRegistry :=
  match registry.members.lookup machineName with
  | none => (false, registry)
  | some member =>
      (true,
        { registry with
          members := registry.members.insert machineName
            { member with displayName := newDisplay } })

/-- A machine that is not registered stays unregistered. -/
def markOffline (machineName : String) (registry : MemberRegistry) : MemberRegistry :=
  match registry.members.lookup machineName with
  | none => registry
  | some member =>
      { registry with
        members := registry.members.insert machineName { member with online := false } }

/-- Mark everyone who was not seen in time as offline. -/
def sweep (now : UInt64) (registry : MemberRegistry) : MemberRegistry :=
  { registry with
    members := registry.members.mapValues fun member =>
      if registry.timeoutSecs.toNat < now.toNat - member.lastSeen.toNat then
        { member with online := false }
      else member }

/-- All members in the order of their arrival, with who is online at this moment. -/
def all (now : UInt64) (registry : MemberRegistry) : List Member :=
  (registry.members.values.map fun member =>
    { member with online := member.isOnline now registry.timeoutSecs }).insertionSort
      fun first second => first.joinedAt.toNat ≤ second.joinedAt.toNat

/-- The address of a machine as the panel lists it; an unregistered one has none. -/
def recordedIp (machineName : String) (registry : MemberRegistry) : String :=
  ((registry.members.lookup machineName).map Member.ip).getD ""

/-- The display name of a registered machine. -/
def shownName? (machineName : String) (registry : MemberRegistry) : Option String :=
  (registry.members.lookup machineName).map Member.displayName

end MemberRegistry

end AiPowerGateway.Share

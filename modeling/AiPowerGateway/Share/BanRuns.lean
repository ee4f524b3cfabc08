import AiPowerGateway.Share.AuthRuns
import AiPowerGateway.Systems.Threads

/-!
# Concurrent bans and unbans

`revoke_member` and `unban` as the steps between which other calls may run: change
the set of members, change the set of addresses, copy one set, copy the other, write
the file.  The file may lag behind the sets for ever when a call writes copies that
were taken before another call changed the sets and wrote them out.
-/

namespace AiPowerGateway.Share

open Systems Threads

inductive BanList where
  | members
  | ips
  deriving DecidableEq, Repr

inductive BanOp where
  | revoke
  | unban
  deriving DecidableEq, Repr

def BanOp.apply (key : String) (names : Finset String) : BanOp → Finset String
  | .revoke => insert key names
  | .unban => names.erase key

def BannedState.list (state : BannedState) : BanList → List String
  | .members => state.members
  | .ips => state.ips

namespace AuthService

def banList (service : AuthService) : BanList → Finset String
  | .members => service.banned
  | .ips => service.bannedIps

def changeBanList (list : BanList) (change : Finset String → Finset String)
    (service : AuthService) : AuthService :=
  match list with
  | .members => { service with banned := change service.banned }
  | .ips => { service with bannedIps := change service.bannedIps }

/-- What the ban file holds; a file that is missing or does not parse holds nothing. -/
def filedBans (service : AuthService) : BannedState := service.bannedFile.getD ⟨[], []⟩

/-- The ban file holds the two sets. -/
def BansFiled (service : AuthService) : Prop :=
  ∀ list, (service.filedBans.list list).toFinset = service.banList list

end AuthService

/-! ## The calls -/

/-- One count for each list. -/
structure Stamps where
  members : Nat
  ips : Nat
  deriving DecidableEq, Repr

namespace Stamps

def zero : Stamps := ⟨0, 0⟩

def get (stamps : Stamps) : BanList → Nat
  | .members => stamps.members
  | .ips => stamps.ips

def set (list : BanList) (stamp : Nat) (stamps : Stamps) : Stamps :=
  match list with
  | .members => { stamps with members := stamp }
  | .ips => { stamps with ips := stamp }

@[simp] theorem get_set_self (list : BanList) (stamp : Nat) (stamps : Stamps) :
    (stamps.set list stamp).get list = stamp := by
  cases list <;> rfl

theorem get_set_ne {list other : BanList} (differ : other ≠ list) (stamp : Nat)
    (stamps : Stamps) : (stamps.set list stamp).get other = stamps.get other := by
  cases list <;> cases other <;> first | rfl | contradiction

end Stamps

/-- The next step of a call. -/
inductive BanPhase where
  | change (list : BanList)
  | readMembers
  | readIps (members : List String)
  | write (content : BannedState)
  | saveSessions
  | returned
  deriving DecidableEq, Repr

/-- A call, with the counts of changes that its own changes and its copies stand for. -/
structure BanCall where
  op : BanOp
  memberId : String
  ip : String
  phase : BanPhase
  changedAt : Stamps
  readAt : Stamps
  deriving DecidableEq, Repr

/-- The service, how often each list was changed, and the counts that the file stands for. -/
structure BanWorld where
  service : AuthService
  clock : Stamps
  filedAt : Stamps

namespace BanCall

def begin (op : BanOp) (memberId ip : String) : BanCall :=
  ⟨op, memberId, ip, .change .members, .zero, .zero⟩

def key (call : BanCall) : BanList → String
  | .members => call.memberId
  | .ips => call.ip

/-- After the ban file: only `revoke_member` saves the sessions as well. -/
def afterSave (call : BanCall) : BanPhase :=
  match call.op with
  | .revoke => .saveSessions
  | .unban => .returned

/-- After the changes; a service without a path never touches its file. -/
def afterChanges (service : AuthService) (call : BanCall) : BanPhase :=
  if service.persists then .readMembers else call.afterSave

def afterChange (service : AuthService) (call : BanCall) : BanList → BanPhase
  | .members => if call.ip = "" then call.afterChanges service else .change .ips
  | .ips => call.afterChanges service

/-- Change one list under its lock.  The clock goes on even where nothing had to be changed. -/
def change (list : BanList) (world : BanWorld) (call : BanCall) : Turn BanWorld BanCall where
  shared :=
    { world with
      service := world.service.changeBanList list fun names => call.op.apply (call.key list) names
      clock := world.clock.set list (world.clock.get list + 1) }
  thread :=
    { call with
      phase := call.afterChange world.service list
      changedAt := call.changedAt.set list (world.clock.get list + 1) }

/-- Copy one list under its lock. -/
def read (list : BanList) (next : BanPhase) (world : BanWorld) (call : BanCall) :
    Turn BanWorld BanCall where
  shared := world
  thread :=
    { call with phase := next, readAt := call.readAt.set list (world.clock.get list) }

/-- Write the file, with no lock held. -/
def write (content : BannedState) (world : BanWorld) (call : BanCall) : Turn BanWorld BanCall where
  shared :=
    { world with
      service := { world.service with bannedFile := some content }
      filedAt := call.readAt }
  thread := { call with phase := call.afterSave }

def saveSessions (outcome : WriteOutcome) (world : BanWorld) (call : BanCall) :
    Turn BanWorld BanCall where
  shared := { world with service := world.service.saveSessions outcome }
  thread := { call with phase := .returned }

def advance (sessionsWritten : WriteOutcome) (world : BanWorld) (call : BanCall) :
    Option (Turn BanWorld BanCall) :=
  match call.phase with
  | .change list => some (call.change list world)
  | .readMembers => some (call.read .members (.readIps world.service.bannedState.members) world)
  | .readIps members =>
      some (call.read .ips (.write ⟨members, world.service.bannedState.ips⟩) world)
  | .write content => some (call.write content world)
  | .saveSessions => some (call.saveSessions sessionsWritten world)
  | .returned => none

def program : Program WriteOutcome BanWorld BanCall where
  entry call := call = begin call.op call.memberId call.ip
  advance := advance

end BanCall

/-- A service that has just read its files. -/
def bansOpened (service : AuthService) : Pool BanWorld BanCall :=
  ⟨⟨service, .zero, .zero⟩, []⟩

section Alone

variable (service : AuthService) (persists : service.persists = true) (memberId ip : String)
  (sessionsWritten : WriteOutcome)

/-- The service after a call that runs alone for some turns. -/
def aloneFor (op : BanOp) (turns : Nat) : Option AuthService :=
  (BanCall.program.follow Program.anySchedule
    (.start (.begin op memberId ip) :: List.replicate turns (.turn 0 sessionsWritten))
    (bansOpened service)).map (·.shared.service)

include persists

/-- A call that runs alone does what the function does in one piece. -/
theorem alone_revokeMember :
    ∃ turns, aloneFor service memberId ip sessionsWritten .revoke turns =
      some (service.revokeMember .done sessionsWritten memberId ip) := by
  by_cases unknown : ip = ""
  · refine ⟨5, ?_⟩
    simp [aloneFor, Program.follow, Program.anySchedule, Program.perform, BanCall.program,
      BanCall.begin, BanCall.advance, BanCall.change, BanCall.read, BanCall.write,
      BanCall.saveSessions, bansOpened, Program.afterTurn, BanCall.afterChange, unknown,
      BanCall.afterChanges, BanCall.afterSave, persists, AuthService.revokeMember,
      AuthService.save, AuthService.bannedState, AuthService.changeBanList, BanOp.apply,
      BanCall.key, WriteOutcome.content]
  · refine ⟨6, ?_⟩
    simp [aloneFor, Program.follow, Program.anySchedule, Program.perform, BanCall.program,
      BanCall.begin, BanCall.advance, BanCall.change, BanCall.read, BanCall.write,
      BanCall.saveSessions, bansOpened, Program.afterTurn, BanCall.afterChange, unknown,
      BanCall.afterChanges, BanCall.afterSave, persists, AuthService.revokeMember,
      AuthService.save, AuthService.bannedState, AuthService.changeBanList, BanOp.apply,
      BanCall.key, WriteOutcome.content]

theorem alone_unban :
    ∃ turns, aloneFor service memberId ip sessionsWritten .unban turns =
      some (service.unban .done memberId ip) := by
  by_cases unknown : ip = ""
  · refine ⟨4, ?_⟩
    simp [aloneFor, Program.follow, Program.anySchedule, Program.perform, BanCall.program,
      BanCall.begin, BanCall.advance, BanCall.change, BanCall.read, BanCall.write,
      bansOpened, Program.afterTurn, BanCall.afterChange, unknown,
      BanCall.afterChanges, BanCall.afterSave, persists, AuthService.unban, AuthService.save,
      AuthService.bannedState, AuthService.changeBanList, BanOp.apply, BanCall.key,
      WriteOutcome.content]
  · refine ⟨5, ?_⟩
    simp [aloneFor, Program.follow, Program.anySchedule, Program.perform, BanCall.program,
      BanCall.begin, BanCall.advance, BanCall.change, BanCall.read, BanCall.write,
      bansOpened, Program.afterTurn, BanCall.afterChange, unknown,
      BanCall.afterChanges, BanCall.afterSave, persists, AuthService.unban, AuthService.save,
      AuthService.bannedState, AuthService.changeBanList, BanOp.apply, BanCall.key,
      WriteOutcome.content]

end Alone

/-! ## Copies and who overtakes them -/

/-- The copy of a list that a call holds and has not written yet. -/
def BanCall.copy? (call : BanCall) (list : BanList) : Option (List String) :=
  match call.phase, list with
  | .readIps members, .members => some members
  | .write content, list => some (content.list list)
  | _, _ => none

/-- The call has not written the file yet. -/
def BanCall.unwritten (call : BanCall) : Bool :=
  match call.phase with
  | .saveSessions => false
  | .returned => false
  | _ => true

/-- A call holds a copy of a list from before this call changed that list. -/
def BanCall.overtakesOn (call other : BanCall) (list : BanList) : Bool :=
  (other.copy? list).isSome && other.readAt.get list < call.changedAt.get list

def BanCall.overtakes (call other : BanCall) : Bool :=
  call.overtakesOn other .members || call.overtakesOn other .ips

def BanCall.writes (call : BanCall) : Bool :=
  match call.phase with
  | .write _ => true
  | _ => false

/--
No call writes the file while another call still holds, unwritten, a copy of a list
from before the first call changed that list.
-/
def inOrder (pool : Pool BanWorld BanCall) : Action WriteOutcome BanCall → Bool
  | .start _ => true
  | .turn index _ =>
      match pool.threads[index]? with
      | none => true
      | some call => !call.writes || pool.threads.all fun other => !call.overtakes other

def InOrder (pool : Pool BanWorld BanCall) (action : Action WriteOutcome BanCall) : Prop :=
  inOrder pool action = true

instance (pool : Pool BanWorld BanCall) (action : Action WriteOutcome BanCall) :
    Decidable (InOrder pool action) :=
  inferInstanceAs (Decidable (_ = true))

/-- Every call has returned. -/
def BansQuiet (pool : Pool BanWorld BanCall) : Prop :=
  ∀ call ∈ pool.threads, call.phase = .returned

instance (pool : Pool BanWorld BanCall) : Decidable (BansQuiet pool) :=
  inferInstanceAs (Decidable (∀ call ∈ pool.threads, call.phase = .returned))

/-! ## The invariant -/

/-- A list as it was read at some count is the list there is, or a call that changed it
since has yet to write. -/
def Covered (list : BanList) (stamp : Nat) (pool : Pool BanWorld BanCall) : Prop :=
  Program.Owed (fun world => world.clock.get list ≤ stamp)
    (fun call => call.unwritten = true ∧ stamp < call.changedAt.get list) pool

/-- What a call may rely on. -/
structure BanCall.Sound (world : BanWorld) (call : BanCall) : Prop where
  changed (list : BanList) : call.changedAt.get list ≤ world.clock.get list
  changed_read {list : BanList} {names : List String} :
    call.copy? list = some names → call.changedAt.get list ≤ call.readAt.get list
  read {list : BanList} {names : List String} :
    call.copy? list = some names → call.readAt.get list ≤ world.clock.get list
  current {list : BanList} {names : List String} :
    call.copy? list = some names → call.readAt.get list = world.clock.get list →
      names.toFinset = world.service.banList list

/-- A call without a copy relies on nothing that can change. -/
theorem BanCall.Sound.copyless {world : BanWorld} {call : BanCall}
    (none : ∀ list, call.copy? list = none)
    (changed : ∀ list, call.changedAt.get list ≤ world.clock.get list) :
    call.Sound world where
  changed := changed
  changed_read {list} names copied := by
    rw [none] at copied
    cases copied
  read {list} names copied := by
    rw [none] at copied
    cases copied
  current {list} names copied := by
    rw [none] at copied
    cases copied

structure BansSound (pool : Pool BanWorld BanCall) : Prop where
  persists : pool.shared.service.persists = true
  filed (list : BanList) : pool.shared.filedAt.get list ≤ pool.shared.clock.get list
  current (list : BanList) :
    pool.shared.filedAt.get list = pool.shared.clock.get list →
      (pool.shared.service.filedBans.list list).toFinset = pool.shared.service.banList list
  calls : ∀ call ∈ pool.threads, call.Sound pool.shared
  fileCovered (list : BanList) : Covered list (pool.shared.filedAt.get list) pool
  copiesCovered : ∀ call ∈ pool.threads, ∀ list, (call.copy? list).isSome →
    Covered list (call.readAt.get list) pool

/-! ## What one turn keeps -/

theorem InOrder.not_overtakesOn {pool : Pool BanWorld BanCall} {index : Nat}
    {input : WriteOutcome} {call other : BanCall} (ordered : InOrder pool (.turn index input))
    (found : pool.threads[index]? = some call) (writes : call.writes = true)
    (mem : other ∈ pool.threads) (list : BanList) : call.overtakesOn other list = false := by
  unfold InOrder inOrder at ordered
  simp only [found, writes, Bool.not_true, Bool.false_or, List.all_eq_true] at ordered
  have behind := ordered other mem
  rw [Bool.not_eq_true', BanCall.overtakes, Bool.or_eq_false_iff] at behind
  cases list with
  | members => exact behind.1
  | ips => exact behind.2

theorem Covered.turn {pool : Pool BanWorld BanCall} {list : BanList} {stamp index : Nat}
    {call : BanCall} {turn : Turn BanWorld BanCall} (covered : Covered list stamp pool)
    (found : pool.threads[index]? = some call)
    (clock : turn.shared.clock.get list = pool.shared.clock.get list)
    (owes : call.unwritten = true → stamp < call.changedAt.get list →
      turn.thread.unwritten = true ∧ stamp < turn.thread.changedAt.get list) :
    Covered list stamp ⟨turn.shared, Program.afterTurn pool.threads index turn⟩ := by
  refine Program.Owed.turn covered found fun own => ?_
  rcases own with current | ⟨unwritten, changed⟩
  · exact Or.inl (clock ▸ current)
  · exact Or.inr (Or.inl (owes unwritten changed))

@[simp] theorem AuthService.banList_changeBanList_self (list : BanList)
    (change : Finset String → Finset String) (service : AuthService) :
    (service.changeBanList list change).banList list = change (service.banList list) := by
  cases list <;> rfl

theorem AuthService.banList_changeBanList_ne {list other : BanList} (differ : other ≠ list)
    (change : Finset String → Finset String) (service : AuthService) :
    (service.changeBanList list change).banList other = service.banList other := by
  cases list <;> cases other <;> first | rfl | contradiction

/-- Changing the sets leaves the file and its path alone. -/
theorem AuthService.changeBanList_file (list : BanList) (change : Finset String → Finset String)
    (service : AuthService) :
    (service.changeBanList list change).filedBans = service.filedBans ∧
      (service.changeBanList list change).persists = service.persists := by
  cases list <;> exact ⟨rfl, rfl⟩

/-- Saving the sessions leaves the bans and their file alone. -/
theorem AuthService.saveSessions_bans (outcome : WriteOutcome) (service : AuthService) :
    (service.saveSessions outcome).banList = service.banList ∧
      (service.saveSessions outcome).filedBans = service.filedBans ∧
      (service.saveSessions outcome).persists = service.persists := by
  unfold AuthService.saveSessions
  split <;> exact ⟨rfl, rfl, rfl⟩

/-- Before it reads the sets, a call holds no copy. -/
theorem BanCall.copy?_change (call : BanCall) {world : BanWorld}
    (persists : world.service.persists = true) (list other : BanList) :
    (call.change list world).thread.copy? other = none ∧
      (call.change list world).thread.unwritten = true := by
  cases list with
  | ips =>
      simp [BanCall.change, BanCall.copy?, BanCall.unwritten, BanCall.afterChange,
        BanCall.afterChanges, persists]
  | members =>
      by_cases unknown : call.ip = ""
      · simp [BanCall.change, BanCall.copy?, BanCall.unwritten, BanCall.afterChange,
          BanCall.afterChanges, persists, unknown]
      · simp [BanCall.change, BanCall.copy?, BanCall.unwritten, BanCall.afterChange, unknown]

section Stamps

variable (call : BanCall) (world : BanWorld) {list other : BanList}

theorem BanCall.clock_change_self (list : BanList) :
    (call.change list world).shared.clock.get list = world.clock.get list + 1 :=
  Stamps.get_set_self _ _ _

theorem BanCall.clock_change_ne (differ : other ≠ list) :
    (call.change list world).shared.clock.get other = world.clock.get other :=
  Stamps.get_set_ne differ _ _

theorem BanCall.changedAt_change_self (list : BanList) :
    (call.change list world).thread.changedAt.get list = world.clock.get list + 1 :=
  Stamps.get_set_self _ _ _

theorem BanCall.changedAt_change_ne (differ : other ≠ list) :
    (call.change list world).thread.changedAt.get other = call.changedAt.get other :=
  Stamps.get_set_ne differ _ _

theorem BanCall.readAt_read_self (list : BanList) (next : BanPhase) :
    (call.read list next world).thread.readAt.get list = world.clock.get list :=
  Stamps.get_set_self _ _ _

theorem BanCall.readAt_read_ne (differ : other ≠ list) (next : BanPhase) :
    (call.read list next world).thread.readAt.get other = call.readAt.get other :=
  Stamps.get_set_ne differ _ _

end Stamps

theorem BanCall.clock_le_change (call : BanCall) (list : BanList) (world : BanWorld)
    (other : BanList) :
    world.clock.get other ≤ (call.change list world).shared.clock.get other := by
  by_cases same : other = list
  · subst same
    rw [call.clock_change_self]
    exact Nat.le_succ _
  · rw [call.clock_change_ne world same]

/-- After it has written the file, a call holds no copy. -/
theorem BanCall.copy?_write (call : BanCall) (content : BannedState) (world : BanWorld)
    (list : BanList) : (call.write content world).thread.copy? list = none := by
  cases op : call.op <;> simp [BanCall.write, BanCall.copy?, BanCall.afterSave, op]

/-- The call goes on to hold a copy of one list and keeps the other as it is. -/
structure BanCall.Copies (call : BanCall) (list : BanList) (next : BanPhase) (world : BanWorld) :
    Prop where
  own : (call.read list next world).thread.copy? list = some (world.service.banList list).sort
  other {list' : BanList} : list' ≠ list →
    (call.read list next world).thread.copy? list' = call.copy? list'
  unwritten : (call.read list next world).thread.unwritten = true

section Turn

variable {pool : Pool BanWorld BanCall} {index : Nat} {call : BanCall}

/-- A change puts the call in charge of every older copy of the list. -/
theorem BansSound.covered_change (sound : BansSound pool)
    (found : pool.threads[index]? = some call) (list other : BanList) {stamp : Nat}
    (old : stamp ≤ pool.shared.clock.get other) (covered : Covered other stamp pool) :
    Covered other stamp ⟨(call.change list pool.shared).shared,
      Program.afterTurn pool.threads index (call.change list pool.shared)⟩ := by
  obtain ⟨-, unwritten⟩ := call.copy?_change sound.persists list other
  by_cases same : other = list
  · subst same
    refine Or.inr ⟨_, Program.thread_mem_afterTurn found, unwritten, ?_⟩
    rw [call.changedAt_change_self]
    exact Nat.lt_succ_of_le old
  · refine covered.turn found (call.clock_change_ne _ same) fun _ changed => ?_
    rw [call.changedAt_change_ne _ same]
    exact ⟨unwritten, changed⟩

theorem BansSound.change (sound : BansSound pool) (found : pool.threads[index]? = some call)
    (list : BanList) :
    BansSound ⟨(call.change list pool.shared).shared,
      Program.afterTurn pool.threads index (call.change list pool.shared)⟩ := by
  have copyless := call.copy?_change sound.persists list
  have clock := call.clock_le_change list pool.shared
  constructor
  · exact (AuthService.changeBanList_file _ _ _).2.trans sound.persists
  · intro other
    exact (sound.filed other).trans (clock other)
  · intro other current
    have file : (call.change list pool.shared).shared.service.filedBans =
        pool.shared.service.filedBans := (AuthService.changeBanList_file _ _ _).1
    by_cases same : other = list
    · subst same
      have old : pool.shared.filedAt.get other = _ := current
      rw [call.clock_change_self] at old
      exact absurd (sound.filed other) (by omega)
    · have before : pool.shared.filedAt.get other = _ := current
      rw [call.clock_change_ne _ same] at before
      rw [file, sound.current other before]
      exact (AuthService.banList_changeBanList_ne same _ _).symm
  · refine Program.forall_mem_afterTurn (fun other mem => ?_) ?_ (by simp [BanCall.change])
    · have before := sound.calls other mem
      refine ⟨fun list' => (before.changed list').trans (clock list'), before.changed_read,
        fun copy => (before.read copy).trans (clock _), fun {list'} names copy current => ?_⟩
      by_cases same : list' = list
      · subst same
        rw [call.clock_change_self] at current
        exact absurd (before.read copy) (by omega)
      · rw [call.clock_change_ne _ same] at current
        rw [before.current copy current]
        exact (AuthService.banList_changeBanList_ne same _ _).symm
    · have before := sound.calls call (List.mem_of_getElem? found)
      refine .copyless (fun list' => (copyless list').1) fun list' => ?_
      by_cases same : list' = list
      · subst same
        rw [call.changedAt_change_self, call.clock_change_self]
      · rw [call.changedAt_change_ne _ same, call.clock_change_ne _ same]
        exact before.changed list'
  · intro other
    exact sound.covered_change found list other (sound.filed other) (sound.fileCovered other)
  · refine Program.forall_mem_afterTurn (fun other mem list' copied => ?_) ?_
      (by simp [BanCall.change])
    · obtain ⟨names, copy⟩ := Option.isSome_iff_exists.mp copied
      exact sound.covered_change found list list' ((sound.calls other mem).read copy)
        (sound.copiesCovered other mem list' copied)
    · intro list' copied
      simp [(copyless list').1] at copied

/-- A fresh copy is covered by being current. -/
theorem BansSound.read (sound : BansSound pool) (found : pool.threads[index]? = some call)
    {list : BanList} {next : BanPhase} (copies : call.Copies list next pool.shared) :
    BansSound ⟨pool.shared,
      Program.afterTurn pool.threads index (call.read list next pool.shared)⟩ := by
  have mem := List.mem_of_getElem? found
  have before := sound.calls call mem
  have covers {other : BanList} {stamp : Nat} (covered : Covered other stamp pool) :
      Covered other stamp ⟨pool.shared,
        Program.afterTurn pool.threads index (call.read list next pool.shared)⟩ :=
    covered.turn found rfl fun _ changed => ⟨copies.unwritten, changed⟩
  constructor
  · exact sound.persists
  · exact sound.filed
  · exact sound.current
  · refine Program.forall_mem_afterTurn sound.calls ?_ (by simp [BanCall.read])
    refine ⟨before.changed, ?_, ?_, ?_⟩
    · intro other names copy
      by_cases same : other = list
      · subst same
        rw [call.readAt_read_self]
        exact before.changed other
      · rw [copies.other same] at copy
        rw [call.readAt_read_ne _ same]
        exact before.changed_read copy
    · intro other names copy
      by_cases same : other = list
      · subst same
        rw [call.readAt_read_self]
      · rw [copies.other same] at copy
        rw [call.readAt_read_ne _ same]
        exact before.read copy
    · intro other names copy current
      by_cases same : other = list
      · subst same
        rw [copies.own, Option.some.injEq] at copy
        rw [← copy]
        exact Finset.sort_toFinset _ _
      · rw [copies.other same] at copy
        rw [call.readAt_read_ne _ same] at current
        exact before.current copy current
  · exact fun other => covers (sound.fileCovered other)
  · refine Program.forall_mem_afterTurn
      (fun other mem list' copied => covers (sound.copiesCovered other mem list' copied)) ?_
      (by simp [BanCall.read])
    intro other copied
    by_cases same : other = list
    · subst same
      exact Or.inl (call.readAt_read_self pool.shared other next).ge
    · rw [copies.other same] at copied
      rw [call.readAt_read_ne _ same]
      exact covers (sound.copiesCovered call mem other copied)

/-- Writing releases the call from its debts: nobody holds a copy that it overtakes. -/
theorem BansSound.write (sound : BansSound pool) (found : pool.threads[index]? = some call)
    {content : BannedState} (phase : call.phase = .write content)
    (ordered : ∀ other ∈ pool.threads, ∀ list, call.overtakesOn other list = false) :
    BansSound ⟨(call.write content pool.shared).shared,
      Program.afterTurn pool.threads index (call.write content pool.shared)⟩ := by
  have mem := List.mem_of_getElem? found
  have before := sound.calls call mem
  have copy (list : BanList) : call.copy? list = some (content.list list) := by
    simp [BanCall.copy?, phase]
  constructor
  · exact sound.persists
  · exact fun list => before.read (copy list)
  · exact fun list current => before.current (copy list) current
  · refine Program.forall_mem_afterTurn (fun other mem => ?_) ?_ (by simp [BanCall.write])
    · have other := sound.calls other mem
      exact ⟨other.changed, other.changed_read, other.read, other.current⟩
    · exact .copyless (call.copy?_write content pool.shared) before.changed
  · intro list
    refine Covered.turn (sound.copiesCovered call mem list (by simp [copy])) found rfl ?_
    exact fun _ changed => absurd changed (Nat.not_lt.mpr (before.changed_read (copy list)))
  · refine Program.forall_mem_afterTurn (fun other mem list copied => ?_) ?_
      (by simp [BanCall.write])
    · refine Covered.turn (sound.copiesCovered other mem list copied) found rfl ?_
      intro _ changed
      have behind := ordered other mem list
      simp [BanCall.overtakesOn, copied, changed] at behind
    · intro list copied
      simp [call.copy?_write] at copied

theorem BansSound.saveSessions (sound : BansSound pool)
    (found : pool.threads[index]? = some call) (phase : call.phase = .saveSessions)
    (outcome : WriteOutcome) :
    BansSound ⟨(call.saveSessions outcome pool.shared).shared,
      Program.afterTurn pool.threads index (call.saveSessions outcome pool.shared)⟩ := by
  obtain ⟨lists, file, path⟩ := pool.shared.service.saveSessions_bans outcome
  have idle (list : BanList) :
      (call.saveSessions outcome pool.shared).thread.copy? list = none := by
    cases list <;> rfl
  have covers {other : BanList} {stamp : Nat} (covered : Covered other stamp pool) :
      Covered other stamp ⟨(call.saveSessions outcome pool.shared).shared,
        Program.afterTurn pool.threads index (call.saveSessions outcome pool.shared)⟩ :=
    covered.turn found rfl fun unwritten => by simp [BanCall.unwritten, phase] at unwritten
  constructor
  · exact path.trans sound.persists
  · exact sound.filed
  · intro list current
    change ((pool.shared.service.saveSessions outcome).filedBans.list list).toFinset =
      (pool.shared.service.saveSessions outcome).banList list
    rw [file, lists]
    exact sound.current list current
  · refine Program.forall_mem_afterTurn (fun other mem => ?_) ?_ (by simp [BanCall.saveSessions])
    · have other := sound.calls other mem
      refine ⟨other.changed, other.changed_read, other.read, fun copied current => ?_⟩
      exact (other.current copied current).trans (congrFun lists _).symm
    · exact .copyless idle (sound.calls call (List.mem_of_getElem? found)).changed
  · exact fun list => covers (sound.fileCovered list)
  · refine Program.forall_mem_afterTurn
      (fun other mem list copied => covers (sound.copiesCovered other mem list copied)) ?_
      (by simp [BanCall.saveSessions])
    intro list copied
    simp [idle] at copied

end Turn

/-! ## Runs -/

theorem BansSound.opened {service : AuthService} (persists : service.persists = true)
    (filed : service.BansFiled) : BansSound (bansOpened service) where
  persists := persists
  filed list := by cases list <;> exact le_rfl
  current list _ := filed list
  calls call mem := by cases mem
  fileCovered list := Or.inl (by cases list <;> exact le_rfl)
  copiesCovered call mem := by cases mem

theorem BansSound.begin {pool : Pool BanWorld BanCall} (sound : BansSound pool)
    (op : BanOp) (memberId ip : String) :
    BansSound ⟨pool.shared, pool.threads ++ [.begin op memberId ip]⟩ where
  persists := sound.persists
  filed := sound.filed
  current := sound.current
  calls := by
    refine Program.forall_mem_start sound.calls (.copyless (fun list => ?_) fun list => ?_)
    · cases list <;> rfl
    · cases list <;> exact Nat.zero_le _
  fileCovered list := (sound.fileCovered list).start _
  copiesCovered := by
    refine Program.forall_mem_start (fun other mem list copied => ?_) fun list copied => ?_
    · exact (sound.copiesCovered other mem list copied).start _
    · cases list <;> cases copied

/-- One turn of a call, whichever step it is. -/
theorem BansSound.turn {pool : Pool BanWorld BanCall} (sound : BansSound pool) {index : Nat}
    {outcome : WriteOutcome} {call : BanCall} {turn : Turn BanWorld BanCall}
    (ordered : InOrder pool (.turn index outcome)) (found : pool.threads[index]? = some call)
    (advances : call.advance outcome pool.shared = some turn) :
    BansSound ⟨turn.shared, Program.afterTurn pool.threads index turn⟩ := by
  unfold BanCall.advance at advances
  cases phase : call.phase with
  | change list =>
      simp only [phase, Option.some.injEq] at advances
      exact advances ▸ sound.change found list
  | readMembers =>
      simp only [phase, Option.some.injEq] at advances
      refine advances ▸ sound.read found ⟨rfl, fun {other} differ => ?_, rfl⟩
      cases other with
      | members => contradiction
      | ips => simp [BanCall.copy?, phase, BanCall.read]
  | readIps members =>
      simp only [phase, Option.some.injEq] at advances
      refine advances ▸ sound.read found ⟨rfl, fun {other} differ => ?_, rfl⟩
      cases other with
      | members => simp [BanCall.copy?, phase, BanCall.read, BannedState.list]
      | ips => contradiction
  | write content =>
      simp only [phase, Option.some.injEq] at advances
      have writes : call.writes = true := by simp [BanCall.writes, phase]
      exact advances ▸ sound.write found phase fun other mem list =>
        ordered.not_overtakesOn found writes mem list
  | saveSessions =>
      simp only [phase, Option.some.injEq] at advances
      exact advances ▸ sound.saveSessions found phase outcome
  | returned => simp [phase] at advances

theorem bansSound_inductive {service : AuthService} (persists : service.persists = true)
    (filed : service.BansFiled) :
    (BanCall.program.system (bansOpened service) InOrder).Inductive BansSound := by
  refine Program.inductive_of (.opened persists filed) (fun {pool call} sound entry => ?_)
    fun ordered sound found advances => sound.turn ordered found advances
  have fresh : call = .begin call.op call.memberId call.ip := of_decide_eq_true entry
  rw [fresh]
  exact sound.begin _ _ _

/-- A restart reads back what the file holds. -/
theorem AuthService.restart_bans {service : AuthService} (persists : service.persists = true)
    (now : UInt64) (list : BanList) :
    (service.restart now).banList list = (service.filedBans.list list).toFinset := by
  cases file : service.bannedFile with
  | none => cases list <;> simp [restart, persists, file, banList, filedBans, BannedState.list]
  | some bans => cases list <;> simp [restart, persists, file, banList, filedBans, BannedState.list]

theorem AuthService.bansFiled_restart {service : AuthService}
    (persists : service.persists = true) (now : UInt64) : (service.restart now).BansFiled :=
  fun list => (service.restart_bans persists now list).symm

/--
When no call writes past another that still holds an older copy, then once all calls
have returned the file holds the two sets, and a restart changes neither of them.
-/
theorem bans_filed_in_order {before : AuthService} (persists : before.persists = true)
    (opened : UInt64) {pool : Pool BanWorld BanCall}
    (reached : (BanCall.program.system (bansOpened (before.restart opened)) InOrder).Reachable pool)
    (quiet : BansQuiet pool) :
    pool.shared.service.BansFiled ∧
      ∀ now list, (pool.shared.service.restart now).banList list =
        pool.shared.service.banList list := by
  have persisted : (before.restart opened).persists = true := persists
  have sound := (bansSound_inductive persisted
    (AuthService.bansFiled_restart persists opened)).reachable reached
  have filed : pool.shared.service.BansFiled := by
    intro list
    have settled := (sound.fileCovered list).settled fun call mem owes => by
      simp [BanCall.unwritten, quiet call mem] at owes
    exact sound.current list (le_antisymm (sound.filed list) settled)
  exact ⟨filed, fun now list =>
    (AuthService.restart_bans sound.persists now list).trans (filed list)⟩

/-- A service with an empty ban file. -/
def freshBans : AuthService where
  sessions := ∅
  banned := ∅
  bannedIps := ∅
  ttlSecs := 3600
  persists := true
  persistsSessions := false
  bannedFile := none
  sessionsFile := none

/-- Two overlapping bans; the one that wrote first copied the sets last. -/
def overlappingBans : List (Action WriteOutcome BanCall) :=
  [.start (.begin .revoke "pc-1" "10.0.0.2"), .start (.begin .unban "pc-2" "")] ++
    [0, 1, 0, 0, 0, 1, 0, 1, 1, 0].map fun index => .turn index .done

def overlappingBansEnd : Option (Pool BanWorld BanCall) :=
  BanCall.program.follow InOrder overlappingBans (bansOpened (freshBans.restart 0))

theorem overlappingBansEnd_isSome : overlappingBansEnd.isSome := by decide

theorem overlappingBansEnd_reachable :
    (BanCall.program.system (bansOpened (freshBans.restart 0)) InOrder).Reachable
      (overlappingBansEnd.get overlappingBansEnd_isSome) :=
  Program.get_follow_reachable overlappingBansEnd_isSome

theorem bans_filed_overlapping :
    (overlappingBansEnd.get overlappingBansEnd_isSome).shared.service.BansFiled :=
  (bans_filed_in_order rfl 0 overlappingBansEnd_reachable (by decide)).1

/-- The ban of `pc-2` is written, then a copy from before it. -/
def staleBan : List (Action WriteOutcome BanCall) :=
  [.start (.begin .revoke "pc-1" ""), .start (.begin .revoke "pc-2" "")] ++
    [0, 0, 0, 1, 1, 1, 1, 1, 0, 0].map fun index => .turn index .done

def staleBanEnd : Option (Pool BanWorld BanCall) :=
  BanCall.program.follow Program.anySchedule staleBan (bansOpened (freshBans.restart 0))

theorem staleBanEnd_isSome : staleBanEnd.isSome := by decide

theorem staleBanEnd_reachable :
    (BanCall.program.system (bansOpened (freshBans.restart 0)) Program.anySchedule).Reachable
      (staleBanEnd.get staleBanEnd_isSome) :=
  Program.get_follow_reachable staleBanEnd_isSome

/-- Both bans were acknowledged, and the file lists only the first. -/
theorem bans_not_filed :
    ¬ ∀ before : AuthService, before.persists = true → ∀ opened pool,
      (BanCall.program.system (bansOpened (before.restart opened))
        Program.anySchedule).Reachable pool →
      BansQuiet pool → pool.shared.service.BansFiled := by
  intro filed
  have members := filed freshBans rfl 0 _ staleBanEnd_reachable (by decide) .members
  have stored : (staleBanEnd.get staleBanEnd_isSome).shared.service.filedBans.list .members =
      (insert "pc-1" (freshBans.restart 0).banned).sort := rfl
  rw [stored, Finset.sort_toFinset] at members
  exact absurd members (by decide)

end AiPowerGateway.Share

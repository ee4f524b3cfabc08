import AiPowerGateway.Punch.Socket
import AiPowerGateway.Systems.Reachability
import Mathlib.Logic.Function.Basic

/-!
# Two parties that punch to each other

The leader and the member run the loop of `punch` at the same time.  The network between
them translates addresses; it may lose, repeat and reorder datagrams, but it makes none up.
-/

namespace AiPowerGateway.Punch

open Systems TransitionSystem

inductive Side where
  | leader
  | member
  deriving DecidableEq, Repr

def Side.other : Side → Side
  | .leader => .member
  | .member => .leader

@[simp] theorem Side.other_other (side : Side) : side.other.other = side := by
  cases side <;> rfl

@[simp] theorem Side.other_ne (side : Side) : side.other ≠ side := by
  cases side <;> decide

@[simp] theorem Side.ne_other (side : Side) : side ≠ side.other := side.other_ne.symm

theorem Side.eq_or_eq_other (side mover : Side) : side = mover ∨ side = mover.other := by
  cases side <;> cases mover <;> decide

/-- The address translation between the two. -/
structure Network where
  /-- The address from which a datagram of the side to a target seems to come. -/
  seenAs : Side → SocketAddr → SocketAddr
  /-- Whether datagrams to a target can reach the side. -/
  routes : Side → SocketAddr → Bool
  /-- A translation that let a datagram out lets the answer in. -/
  back (side : Side) (target : SocketAddr) :
    routes side.other target = true → routes side (seenAs side target) = true

structure PunchWorld where
  states : Side → PunchState := fun _ => {}
  results : Side → Option (Except PunchError SocketAddr) := fun _ => none

namespace PunchWorld

/-- A tag fills its frame, and a datagram was posted by the other side. -/
def Possible (net : Network) (world : PunchWorld) (side : Side) (turn : PunchTurn) : Prop :=
  match turn.wake with
  | .tick tag _ => tag.length = 8
  | .received payload source =>
      ∃ target, (target, payload) ∈ (world.states side.other).posted ∧
        net.routes side target = true ∧ source = net.seenAs side.other target
  | _ => True

def take (calls : Side → PunchCall) (world : PunchWorld) (side : Side) (turn : PunchTurn) :
    PunchWorld :=
  let ended := (calls side).turn (world.states side) turn
  { states := Function.update world.states side ended.1
    results := Function.update world.results side ended.2 }

end PunchWorld

/-- Each side takes turns until its call returns. -/
def punching (net : Network) (calls : Side → PunchCall) : TransitionSystem PunchWorld where
  start := (· = {})
  step world next := ∃ side turn, world.results side = none ∧ world.Possible net side turn ∧
    next = world.take calls side turn

/-! ## What is posted -/

/-- A frame as a tick sends it. -/
def IsProbe (payload : Bytes) : Prop := ∃ tag, tag.length = 8 ∧ payload = probeFrame tag

theorem IsProbe.isFrame {payload : Bytes} (probe : IsProbe payload) : IsFrame payload := by
  obtain ⟨tag, filled, rfl⟩ := probe
  refine ⟨?_, rfl⟩
  simp [probeFrame, frameMagic, frameHeaderLen, filled]

/-- A probe fits into the buffer of the receiver. -/
theorem IsProbe.take {payload : Bytes} (probe : IsProbe payload) :
    payload.take 2048 = payload := by
  obtain ⟨tag, filled, rfl⟩ := probe
  refine List.take_of_length_le ?_
  simp [probeFrame, frameMagic, filled]

/-- Only probes, and only to the candidates. -/
def OnlyProbes (call : PunchCall) (posted : List (SocketAddr × Bytes)) : Prop :=
  ∀ datagram ∈ posted, IsProbe datagram.2 ∧
    ∃ candidate ∈ call.candidates, datagram.1 = call.toSocketAddr candidate

namespace PunchCall

variable {call : PunchCall} {state : PunchState} {turn : PunchTurn}

theorem candidate_of_mem_roundSends {sends : Nat → Send} {position : Nat}
    {candidates : List Candidate} {probe : Candidate × Bool}
    (mem : probe ∈ roundSends sends position candidates) : probe.1 ∈ candidates := by
  induction candidates generalizing position with
  | nil => simp [roundSends] at mem
  | cons candidate rest ih =>
      rw [roundSends] at mem
      rcases List.mem_cons.mp mem with rfl | later
      · exact List.mem_cons_self
      · split at later
        · simp at later
        · exact List.mem_cons_of_mem _ (ih later)

theorem onlyProbes_tickSends {tag : Bytes} (filled : tag.length = 8)
    (sends : Nat → Nat → Send) : OnlyProbes call
      ((call.tickSends sends).map fun probe => (call.toSocketAddr probe.1, probeFrame tag)) := by
  intro datagram mem
  obtain ⟨probe, sent, rfl⟩ := List.mem_map.mp mem
  obtain ⟨round, -, inRound⟩ := List.mem_flatMap.mp sent
  exact ⟨⟨tag, filled, rfl⟩, probe.1, candidate_of_mem_roundSends inRound, rfl⟩

/-- Everything that one turn can do. -/
theorem turn_cases (call : PunchCall) (state : PunchState) (turn : PunchTurn) :
    ((call.turn state turn).2 = none ∧ ∃ tag sends, turn.wake = .tick tag sends ∧
        (call.turn state turn).1.posted = state.posted ++
          (call.tickSends sends).map fun probe => (call.toSocketAddr probe.1, probeFrame tag)) ∨
      (∃ error, (call.turn state turn).2 = some (.error error) ∧
        (call.turn state turn).1 = state) ∨
      ∃ payload source, turn.wake = .received payload source ∧
        (call.turn state turn).2 = some (.ok source) ∧
        (call.turn state turn).1.peerSeen = some source ∧
        (call.turn state turn).1.posted =
          if IsFrame (payload.take 2048) then state.posted ++ [(source, payload.take 2048)]
          else state.posted := by
  obtain ⟨now, wake⟩ := turn
  rw [PunchCall.turn]
  split
  · exact Or.inr (Or.inl ⟨_, rfl, rfl⟩)
  · cases wake with
    | deadline => exact Or.inr (Or.inl ⟨_, rfl, rfl⟩)
    | failed => exact Or.inr (Or.inl ⟨_, rfl, rfl⟩)
    | tick tag sends => exact Or.inl ⟨rfl, tag, sends, rfl, rfl⟩
    | received payload source => exact Or.inr (Or.inr ⟨payload, source, rfl, rfl, rfl, rfl⟩)

end PunchCall

namespace PunchWorld

variable {net : Network} {calls : Side → PunchCall} {world : PunchWorld} {side : Side}

/-- A call that returned heard a probe of the other side, and echoed it. -/
structure Heard (net : Network) (calls : Side → PunchCall) (world : PunchWorld) (side : Side)
    (source target : SocketAddr) (payload : Bytes) (before : List (SocketAddr × Bytes)) :
    Prop where
  posted : (target, payload) ∈ (world.states side.other).posted
  routed : net.routes side target = true
  seen : source = net.seenAs side.other target
  probe : IsProbe payload
  probes : OnlyProbes (calls side) before
  echo : (world.states side).posted = before ++ [(source, payload)]
  peerSeen : (world.states side).peerSeen = some source

/-- What holds at every time. -/
structure Agreed (net : Network) (calls : Side → PunchCall) (world : PunchWorld) : Prop where
  unended (side : Side) : (∀ source, world.results side ≠ some (.ok source)) →
    OnlyProbes (calls side) (world.states side).posted
  ended (side : Side) (source : SocketAddr) : world.results side = some (.ok source) →
    ∃ target payload before, Heard net calls world side source target payload before

variable {net : Network} {calls : Side → PunchCall} {world : PunchWorld} {side : Side}
  {turn : PunchTurn}

@[simp] theorem states_take : (world.take calls side turn).states side =
    ((calls side).turn (world.states side) turn).1 := Function.update_self ..

@[simp] theorem results_take : (world.take calls side turn).results side =
    ((calls side).turn (world.states side) turn).2 := Function.update_self ..

@[simp] theorem states_take_other : (world.take calls side turn).states side.other =
    world.states side.other := Function.update_of_ne side.other_ne ..

@[simp] theorem results_take_other : (world.take calls side turn).results side.other =
    world.results side.other := Function.update_of_ne side.other_ne ..

/-- Everything on the wire is a probe. -/
theorem Agreed.isProbe (agreed : Agreed net calls world) {target : SocketAddr} {payload : Bytes}
    (mem : (target, payload) ∈ (world.states side).posted) : IsProbe payload := by
  by_cases ended : ∃ source, world.results side = some (.ok source)
  · obtain ⟨source, ended⟩ := ended
    obtain ⟨_, echoed, before, heard⟩ := agreed.ended side source ended
    rw [heard.echo] at mem
    rcases List.mem_append.mp mem with probe | echo
    · exact (heard.probes _ probe).1
    · cases List.mem_singleton.mp echo
      exact heard.probe
  · exact (agreed.unended side (not_exists.mp ended) _ mem).1

theorem posted_take (call : PunchCall) (state : PunchState) (turn : PunchTurn)
    {datagram : SocketAddr × Bytes} (mem : datagram ∈ state.posted) :
    datagram ∈ (call.turn state turn).1.posted := by
  rcases call.turn_cases state turn with ⟨-, tag, sends, -, posted⟩ | ⟨error, -, same⟩ |
      ⟨payload, source, -, -, -, posted⟩
  · rw [posted]
    exact List.mem_append_left _ mem
  · rw [same]
    exact mem
  · rw [posted]
    split
    · exact List.mem_append_left _ mem
    · exact mem

/-- The other side of a turn. -/
theorem Heard.take {source target : SocketAddr} {payload : Bytes}
    {before : List (SocketAddr × Bytes)}
    (heard : Heard net calls world side.other source target payload before) :
    Heard net calls (world.take calls side turn) side.other source target payload before where
  posted := by
    have posted := heard.posted
    rw [Side.other_other] at posted ⊢
    rw [states_take]
    exact posted_take _ _ _ posted
  routed := heard.routed
  seen := heard.seen
  probe := heard.probe
  probes := heard.probes
  echo := by rw [states_take_other, heard.echo]
  peerSeen := by rw [states_take_other, heard.peerSeen]

/-- One turn of either side. -/
theorem Agreed.take (agreed : Agreed net calls world) (waiting : world.results side = none)
    (possible : world.Possible net side turn) : Agreed net calls (world.take calls side turn) := by
  have own : OnlyProbes (calls side) (world.states side).posted :=
    agreed.unended side fun source ended => by simp [waiting] at ended
  constructor
  · intro moved unended
    rcases moved.eq_or_eq_other side with rfl | rfl
    · rw [states_take]
      rcases (calls moved).turn_cases (world.states moved) turn with
        ⟨-, tag, sends, wake, posted⟩ | ⟨error, -, same⟩ | ⟨payload, source, -, returned, -⟩
      · rw [Possible, wake] at possible
        rw [posted]
        intro datagram mem
        rcases List.mem_append.mp mem with earlier | probe
        · exact own datagram earlier
        · exact PunchCall.onlyProbes_tickSends possible sends datagram probe
      · rw [same]
        exact own
      · exact absurd (results_take.trans returned) (unended source)
    · rw [states_take_other]
      refine agreed.unended _ fun source ended => unended source ?_
      rw [results_take_other, ended]
  · intro moved source ended
    rcases moved.eq_or_eq_other side with rfl | rfl
    · rw [results_take] at ended
      rcases (calls moved).turn_cases (world.states moved) turn with
        ⟨waits, -⟩ | ⟨error, failed, -⟩ | ⟨payload, heardFrom, wake, returned, peerSeen, posted⟩
      · rw [waits] at ended
        cases ended
      · rw [failed] at ended
        cases ended
      · cases returned.symm.trans ended
        rw [Possible, wake] at possible
        obtain ⟨target, sent, routed, seen⟩ := possible
        have probe := agreed.isProbe sent
        rw [probe.take, if_pos probe.isFrame] at posted
        exact ⟨target, payload, (world.states moved).posted, {
          posted := by rw [states_take_other]; exact sent
          routed := routed
          seen := seen
          probe := probe
          probes := own
          echo := by rw [states_take, posted]
          peerSeen := by rw [states_take, peerSeen] }⟩
    · rw [results_take_other] at ended
      obtain ⟨target, payload, before, heard⟩ := agreed.ended _ source ended
      exact ⟨target, payload, before, heard.take⟩

theorem agreed_inductive (net : Network) (calls : Side → PunchCall) :
    (punching net calls).Inductive (Agreed net calls) where
  start := by
    rintro world rfl
    exact ⟨fun side _ datagram mem => by simp at mem, fun side source ended => by simp at ended⟩
  step := by
    rintro world next agreed ⟨side, turn, waiting, possible, rfl⟩
    exact agreed.take waiting possible

end PunchWorld

open PunchWorld

/--
However the two loops are interleaved and whatever the network loses, repeats and delays: a
call that returns an address has heard a probe of the other side, it has answered it with its
only echo, and the address reaches the other side.  If that side still waits, the echo ends
its call as well, with an address that reaches back.
-/
theorem punch_agrees (net : Network) (calls : Side → PunchCall) {world : PunchWorld}
    (reached : (punching net calls).Reachable world) {side : Side} {source : SocketAddr}
    (ended : world.results side = some (.ok source)) :
    (∃ target payload before, Heard net calls world side source target payload before) ∧
      net.routes side.other source = true ∧
      (world.results side.other = none → ∀ now < (calls side.other).deadline, ∃ payload,
        world.Possible net side.other ⟨now, .received payload (net.seenAs side source)⟩ ∧
          (world.take calls side.other
              ⟨now, .received payload (net.seenAs side source)⟩).results side.other =
            some (.ok (net.seenAs side source)) ∧
          net.routes side (net.seenAs side source) = true) := by
  obtain ⟨target, payload, before, heard⟩ :=
    ((agreed_inductive net calls).reachable reached).ended side source ended
  have routed : net.routes side.other source = true := by
    rw [heard.seen]
    exact net.back side.other target (by rw [Side.other_other]; exact heard.routed)
  refine ⟨⟨target, payload, before, heard⟩, routed, fun _ now inTime => ?_⟩
  have echoed : (source, payload) ∈ (world.states side).posted := by simp [heard.echo]
  refine ⟨payload, ⟨source, by rwa [Side.other_other], routed, by rw [Side.other_other]⟩, ?_,
    net.back side source routed⟩
  rw [results_take, PunchCall.turn, if_neg (Nat.not_le.mpr inTime)]

/-! ## A punch without translation -/

def openAddr : Side → SocketAddr
  | .leader => ⟨"192.0.2.1", 40001⟩
  | .member => ⟨"192.0.2.2", 40002⟩

def openNetwork : Network where
  seenAs side _ := openAddr side
  routes side target := target = openAddr side
  back _ _ _ := decide_eq_true rfl

def openCalls (side : Side) : PunchCall where
  candidates := [⟨(openAddr side.other).ip, (openAddr side.other).port, .local⟩]
  options := {}
  start := 0
  toSocketAddr candidate := ⟨candidate.ip, candidate.port⟩
  describe _ := ""

def openTick : PunchTurn := ⟨0, .tick [1, 2, 3, 4, 5, 6, 7, 8] fun _ _ => ⟨true, false⟩⟩

def openProbe : PunchTurn :=
  ⟨5, .received (probeFrame [1, 2, 3, 4, 5, 6, 7, 8]) (openAddr .leader)⟩

/-- The leader has sent a probe, and the member has received it. -/
def openWorld : PunchWorld :=
  (PunchWorld.take openCalls {} .leader openTick).take openCalls .member openProbe

theorem reachable_openWorld : (punching openNetwork openCalls).Reachable openWorld := by
  have start : (punching openNetwork openCalls).Reachable {} := reachable_start rfl
  have ticks : (punching openNetwork openCalls).step {}
      (PunchWorld.take openCalls {} .leader openTick) := ⟨.leader, openTick, rfl, rfl, rfl⟩
  have receives : (punching openNetwork openCalls).step
      (PunchWorld.take openCalls {} .leader openTick) openWorld :=
    ⟨.member, openProbe, rfl, ⟨openAddr .member, by decide, by decide, rfl⟩, rfl⟩
  exact (start.step ticks).step receives

theorem punch_agrees_openWorld :
    openNetwork.routes .leader (openAddr .leader) = true ∧
      ∃ payload, openWorld.Possible openNetwork .leader
        ⟨9, .received payload (openAddr .member)⟩ := by
  have ended : openWorld.results .member = some (.ok (openAddr .leader)) := rfl
  obtain ⟨-, routed, rest⟩ := punch_agrees openNetwork openCalls reachable_openWorld ended
  obtain ⟨payload, possible, -⟩ := rest rfl 9 (by decide)
  exact ⟨routed, payload, possible⟩

end AiPowerGateway.Punch

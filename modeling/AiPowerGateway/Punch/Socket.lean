import AiPowerGateway.Punch.Signal

/-!
# The punch socket

One UDP socket asks the echo server for its mapped address and punches to the candidates
of the peer.  Both are loops that wait for a deadline and for datagrams; the second one
sends probes on the ticks of a clock besides.
-/

namespace AiPowerGateway.Punch

abbrev Bytes := List UInt8

structure SocketAddr where
  ip : String
  port : UInt16
  deriving DecidableEq, Repr

/-! ## Frames -/

/-- `AIPG` -/
def frameMagic : Bytes := [65, 73, 80, 71]

def frameProbe : UInt8 := 1

def frameHeaderLen : Nat := 13

/-- A frame of the peer. -/
def IsFrame (payload : Bytes) : Prop :=
  frameHeaderLen ≤ payload.length ∧ payload.take 4 = frameMagic

instance (payload : Bytes) : Decidable (IsFrame payload) := inferInstanceAs (Decidable (_ ∧ _))

def probeFrame (tag : Bytes) : Bytes := frameMagic ++ [frameProbe] ++ tag

/-! ## The mapped candidate -/

/-- What the loop of `stun_mapped_candidate` is woken by. -/
inductive StunWake where
  | deadline
  | received (payload : Bytes) (source : SocketAddr)
  | failed (error : String)

structure StunTurn where
  now : Nat
  wake : StunWake

structure StunCall where
  stunAddr : String
  deadline : Nat
  /-- `serde_json::from_slice` -/
  fromSlice : Bytes → Option Json

namespace StunCall

def timeout (call : StunCall) : PunchError := .timeout ("STUN 回显超时: " ++ call.stunAddr)

/-- The candidate of a reply. -/
def mapped (reply : Json) : Except PunchError Candidate :=
  match reply.text? "ip", (reply.get? "port").bind Json.asU64? with
  | none, _ => .error (.punchFailed "STUN 响应缺 ip")
  | some _, none => .error (.punchFailed "STUN 响应缺 port")
  | some ip, some port => .ok { ip := ip, port := port.toUInt16, kind := .mapped }

/-- The reply of the echo server in a datagram. -/
def reply? (call : StunCall) (payload : Bytes) : Option Json :=
  (call.fromSlice (payload.take 512)).filter (·.text? "type" = some "mapped")

/-- One turn of the loop; no result while it waits. -/
def turn (call : StunCall) (turn : StunTurn) : Option (Except PunchError Candidate) :=
  if call.deadline ≤ turn.now then some (.error call.timeout)
  else
    match turn.wake with
    | .deadline => some (.error call.timeout)
    | .failed error => some (.error (.io error))
    | .received payload _ => (call.reply? payload).map mapped

/-- The source's `stun_mapped_candidate`, behind the request. -/
def run (call : StunCall) (turns : List StunTurn) : Option (Except PunchError Candidate) :=
  turns.findSome? call.turn

/-- The wait for the echo server goes on past every datagram that is no reply of it. -/
theorem run_append_received (call : StunCall) {turns : List StunTurn}
    (waiting : call.run turns = none) {now : Nat} {payload : Bytes} (source : SocketAddr)
    (inTime : now < call.deadline) (other : call.reply? payload = none) :
    call.run (turns ++ [⟨now, .received payload source⟩]) = none := by
  rw [run, List.findSome?_append, ← run, waiting, Option.none_or]
  simp [turn, Nat.not_le.mpr inTime, other]

end StunCall

/-! ## Punching -/

/-- Whether a probe could be sent, and whether the deadline has passed by then. -/
structure Send where
  sent : Bool
  overdue : Bool

/-- What the loop of `punch` is woken by; a tick comes with a tag for the frame and with
what each send of each round gives. -/
inductive PunchWake where
  | deadline
  | tick (tag : Bytes) (sends : Nat → Nat → Send)
  | received (payload : Bytes) (source : SocketAddr)
  | failed

structure PunchTurn where
  now : Nat
  wake : PunchWake

structure PunchOptions where
  timeout : Nat := 10000
  probesPerRound : Nat := 1

structure PunchCall where
  candidates : List Candidate
  options : PunchOptions
  start : Nat
  /-- `Candidate::to_socket_addr` -/
  toSocketAddr : Candidate → SocketAddr
  /-- The candidates as `Debug` prints them. -/
  describe : List Candidate → String

structure PunchState where
  sentAny : Bool := false
  /-- The datagrams handed to the socket. -/
  posted : List (SocketAddr × Bytes) := []
  peerSeen : Option SocketAddr := none

namespace PunchCall

def deadline (call : PunchCall) : Nat := call.start + call.options.timeout

/-- The sends of a round, up to the first one after which the deadline has passed. -/
def roundSends (sends : Nat → Send) : Nat → List Candidate → List (Candidate × Bool)
  | _, [] => []
  | position, candidate :: rest =>
      (candidate, (sends position).sent) ::
        if (sends position).overdue then [] else roundSends sends (position + 1) rest

def tickSends (call : PunchCall) (sends : Nat → Nat → Send) : List (Candidate × Bool) :=
  (List.range call.options.probesPerRound).flatMap fun round =>
    roundSends (sends round) 0 call.candidates

/-- The error when the loop has ended without a peer. -/
def giveUp (call : PunchCall) (state : PunchState) : PunchError :=
  if ! state.sentAny then .punchFailed "无法发送任何探测包（候选不可达）"
  else .timeout ("在 " ++ toString (call.options.timeout / 1000) ++ "s 内未与对端候选 " ++
    call.describe call.candidates ++ " 打通（跨网直连失败）")

/-- One turn of the loop; no result while it waits. -/
def turn (call : PunchCall) (state : PunchState) (turn : PunchTurn) :
    PunchState × Option (Except PunchError SocketAddr) :=
  if call.deadline ≤ turn.now then (state, some (.error (call.giveUp state)))
  else
    match turn.wake with
    | .deadline => (state, some (.error (call.giveUp state)))
    | .failed => (state, some (.error (call.giveUp state)))
    | .tick tag sends =>
        let probes := call.tickSends sends
        ({ state with
            sentAny := state.sentAny || probes.any (·.2)
            posted := state.posted ++
              probes.map fun probe => (call.toSocketAddr probe.1, probeFrame tag) }, none)
    | .received payload source =>
        let read := payload.take 2048
        ({ state with
            posted := if IsFrame read then state.posted ++ [(source, read)] else state.posted
            peerSeen := some source }, some (.ok source))

/-- The source's `punch`: the turns of its loop until one gives a result. -/
def run (call : PunchCall) (state : PunchState) :
    List PunchTurn → PunchState × Option (Except PunchError SocketAddr)
  | [] => (state, none)
  | first :: rest =>
      match call.turn state first with
      | (state, some result) => (state, some result)
      | (state, none) => run call state rest

end PunchCall

end AiPowerGateway.Punch

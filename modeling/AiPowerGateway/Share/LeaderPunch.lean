import AiPowerGateway.Punch.Socket
import AiPowerGateway.Systems.EventRuns
import Mathlib.Data.Finset.Insert

/-!
# The punch session of the leader

The leader pulls its mailbox, answers the candidates of every member with its own, punches,
and starts a tunnel task.  It keeps the members that have a tunnel in a set, and skips
their messages; nothing takes a member out of the set when its tunnel task ends.
-/

namespace AiPowerGateway.Share

open Punch Systems EventRuns

structure LeaderPunchConfig where
  stunAddr : Option String := none
  /-- The fingerprint of the certificate. -/
  fingerprint : String

/-- What the sockets and the coordination server give while one message is handled. -/
structure LeaderAttempt where
  /-- The socket and its local candidates. -/
  bind : Except PunchError (List Punch.Candidate)
  stunMappedCandidate : String → Except PunchError Punch.Candidate
  signalPush : String → Json → Except String Unit
  punch : List Punch.Candidate → Except PunchError SocketAddr
  leaderEndpoint : Except PunchError Unit

/-- How far the leader came with a message. -/
inductive Handled where
  /-- The member is in the set. -/
  | established
  | noCandidates
  | bindFailed (error : PunchError)
  | pushFailed (reply : Json) (error : String)
  | punchFailed (reply : Json) (error : PunchError)
  | endpointFailed (reply : Json) (error : PunchError)
  /-- A tunnel task was spawned. -/
  | connected (reply : Json) (peer : SocketAddr)

/-- The leader did not look further than the message. -/
def Handled.ignored : Handled → Bool
  | established | noCandidates => true
  | _ => false

/-- The candidates that a message brings, if it brings any. -/
def memberCandidates (message : SignalMessage) : List Punch.Candidate :=
  match message.body.asObject? with
  | none => []
  | some _ =>
      if message.body.text? "type" = some "candidate" then
        (signalCandidates? message.body).getD []
      else []

namespace LeaderPunchConfig

/-- The reply to a member, with the mapped candidate if the echo server answers. -/
def reply (config : LeaderPunchConfig) (attempt : LeaderAttempt)
    (ours : List Punch.Candidate) : Json :=
  let mapped := match config.stunAddr with
    | none => []
    | some stun =>
        match attempt.stunMappedCandidate stun with
        | .ok candidate => [candidate]
        | .error _ => []
  leaderSignal (ours ++ mapped) config.fingerprint

/-- Bind a socket, post its candidates to the member, punch, and start the tunnel. -/
def punchMember (config : LeaderPunchConfig) (attempt : LeaderAttempt) (member : String)
    (candidates : List Punch.Candidate) : Handled :=
  match attempt.bind with
  | .error error => .bindFailed error
  | .ok ours =>
      let reply := config.reply attempt ours
      match attempt.signalPush member reply with
      | .error error => .pushFailed reply error
      | .ok () =>
          match attempt.punch candidates with
          | .error error => .punchFailed reply error
          | .ok peer =>
              match attempt.leaderEndpoint with
              | .error error => .endpointFailed reply error
              | .ok () => .connected reply peer

/-- The body of the loop over the messages. -/
def handle (config : LeaderPunchConfig) (tunnels : Finset String) (attempt : LeaderAttempt)
    (message : SignalMessage) : Handled :=
  if message.fromShareId ∈ tunnels then .established
  else if memberCandidates message = [] then .noCandidates
  else config.punchMember attempt message.fromShareId (memberCandidates message)

end LeaderPunchConfig

/-! ## Sessions -/

/-- The set of the loop, the rest of the batch that it is in, and the members of the
tunnel tasks that are running. -/
structure LeaderSession where
  tunnels : Finset String := ∅
  pending : List SignalMessage := []
  running : List String := []

inductive LeaderEvent where
  | pulled (messages : Except String (List SignalMessage))
  /-- The next message of the batch is handled. -/
  | handled (attempt : LeaderAttempt)
  /-- A tunnel task of the member ends. -/
  | ended (member : String)

namespace LeaderEvent

def step (config : LeaderPunchConfig) (event : LeaderEvent) (session : LeaderSession) :
    LeaderSession :=
  match event with
  | pulled (.ok messages) =>
      if session.pending = [] then { session with pending := messages } else session
  | pulled (.error _) => session
  | handled attempt =>
      match session.pending with
      | [] => session
      | message :: rest =>
          match config.handle session.tunnels attempt message with
          | .connected _ _ =>
              { tunnels := insert message.fromShareId session.tunnels
                pending := rest
                running := message.fromShareId :: session.running }
          | _ => { session with pending := rest }
  | ended member => { session with running := session.running.erase member }

end LeaderEvent

namespace LeaderSession

/-- The members in the set are those with a running tunnel task. -/
def Current (session : LeaderSession) : Prop :=
  ∀ member, member ∈ session.tunnels ↔ member ∈ session.running

end LeaderSession

/-- Of the messages that bring candidates, those of members with a running tunnel are
ignored, and the others are not. -/
def AnswersMembers (config : LeaderPunchConfig) (event : LeaderEvent) (session : LeaderSession) :
    Prop :=
  match event with
  | .handled attempt => ∀ message rest, session.pending = message :: rest →
      memberCandidates message ≠ [] →
        ((config.handle session.tunnels attempt message).ignored = true ↔
          message.fromShareId ∈ session.running)
  | _ => True

/-- No tunnel task ends. -/
def KeepsTunnels (event : LeaderEvent) (session : LeaderSession) : Prop :=
  match event with
  | .ended member => member ∉ session.running
  | _ => True

/-! ## One event -/

variable {config : LeaderPunchConfig} {session : LeaderSession}

theorem ignored_punchMember (attempt : LeaderAttempt) (member : String)
    (candidates : List Punch.Candidate) :
    (config.punchMember attempt member candidates).ignored = false := by
  rw [LeaderPunchConfig.punchMember]
  cases attempt.bind with
  | error => rfl
  | ok ours =>
      simp only
      cases attempt.signalPush member (config.reply attempt ours) with
      | error => rfl
      | ok =>
          simp only
          cases attempt.punch candidates with
          | error => rfl
          | ok peer =>
              cases attempt.leaderEndpoint with
              | error => rfl
              | ok => rfl

theorem ignored_handle_iff {tunnels : Finset String} (attempt : LeaderAttempt)
    {message : SignalMessage} (candidates : memberCandidates message ≠ []) :
    (config.handle tunnels attempt message).ignored = true ↔ message.fromShareId ∈ tunnels := by
  rw [LeaderPunchConfig.handle, if_neg candidates]
  split
  · next listed => simp [listed, Handled.ignored]
  · next unlisted => simp [unlisted, ignored_punchMember]

/-- The set tells whom the leader ignores. -/
theorem LeaderSession.Current.answersMembers (current : session.Current) (event : LeaderEvent) :
    AnswersMembers config event session := by
  cases event with
  | handled attempt =>
      intro message rest _ candidates
      rw [ignored_handle_iff attempt candidates]
      exact current message.fromShareId
  | _ => trivial

/-- A tunnel is only started for a member that is not in the set. -/
theorem fresh_of_connected {tunnels : Finset String} {attempt : LeaderAttempt}
    {message : SignalMessage} {reply : Json} {peer : SocketAddr}
    (connects : config.handle tunnels attempt message = .connected reply peer) :
    message.fromShareId ∉ tunnels := by
  intro listed
  rw [LeaderPunchConfig.handle, if_pos listed] at connects
  cases connects

/-- What holds while no tunnel task ends: the set is current, and no member has two. -/
structure LeaderSession.Steady (session : LeaderSession) : Prop where
  current : session.Current
  single : session.running.Nodup

theorem LeaderSession.Steady.step_handled (steady : session.Steady) (attempt : LeaderAttempt) :
    (LeaderEvent.step config (.handled attempt) session).Steady := by
  rw [LeaderEvent.step]
  cases session.pending with
  | nil => exact steady
  | cons message rest =>
      simp only
      split
      · next connects =>
          have fresh : message.fromShareId ∉ session.running :=
            mt (steady.current _).mpr (fresh_of_connected connects)
          refine ⟨fun member => ?_, List.nodup_cons.mpr ⟨fresh, steady.single⟩⟩
          simp only [Finset.mem_insert, List.mem_cons, steady.current member]
      · exact ⟨steady.current, steady.single⟩

theorem LeaderSession.Steady.step_pulled (steady : session.Steady)
    (messages : Except String (List SignalMessage)) :
    (LeaderEvent.step config (.pulled messages) session).Steady := by
  cases messages with
  | error => exact steady
  | ok messages =>
      rw [LeaderEvent.step]
      split
      · exact ⟨steady.current, steady.single⟩
      · exact steady

/-- The end of a tunnel task makes the set stale. -/
theorem LeaderSession.Steady.current_ended_iff (steady : session.Steady) (member : String) :
    (LeaderEvent.step config (.ended member) session).Current ↔ member ∉ session.running := by
  constructor
  · intro current running
    have listed := (steady.current member).mpr running
    exact steady.single.not_mem_erase ((current member).mp listed)
  · intro stopped other
    rw [LeaderEvent.step, List.erase_of_not_mem stopped]
    exact steady.current other

theorem LeaderSession.Steady.step (steady : session.Steady) {event : LeaderEvent}
    (keeps : KeepsTunnels event session) : (event.step config session).Steady := by
  cases event with
  | pulled messages => exact steady.step_pulled messages
  | handled attempt => exact steady.step_handled attempt
  | ended member =>
      exact ⟨(steady.current_ended_iff member).mpr keeps, steady.single.erase member⟩

theorem LeaderSession.Steady.keepsTunnels (steady : session.Steady) {event : LeaderEvent}
    (current : (event.step config session).Current) : KeepsTunnels event session := by
  cases event with
  | ended member => exact (steady.current_ended_iff member).mp current
  | _ => trivial

/-! ## Every session -/

/--
The set names the members with a running tunnel task throughout a session, and messages
are answered accordingly, if and only if no tunnel task ends.  A task outlives a connection
that is lost, so it is the end of the task that counts.
-/
theorem tunnels_current_iff (config : LeaderPunchConfig) (events : List LeaderEvent) :
    Throughout (LeaderEvent.step config) LeaderSession.Current events {} ∧
        Fitting (LeaderEvent.step config) (AnswersMembers config) events {} ↔
      Fitting (LeaderEvent.step config) KeepsTunnels events {} := by
  have starts : LeaderSession.Steady {} := ⟨fun _ => by simp, List.nodup_nil⟩
  refine throughout_and_fitting_iff_of (fun session => session.running.Nodup) ?_ ?_
    starts.current starts.single events
  · intro event session current single next
    have steady : session.Steady := ⟨current, single⟩
    exact (steady.step (steady.keepsTunnels next)).single
  · intro event session current single
    have steady : session.Steady := ⟨current, single⟩
    rw [and_iff_left (current.answersMembers event)]
    exact ⟨steady.keepsTunnels, fun keeps => (steady.step keeps).current⟩

/-- A member with one candidate. -/
def memberMessage : SignalMessage where
  fromShareId := "m"
  body := memberSignal [{ ip := "198.51.100.4", port := 40001, kind := .mapped }]

def meetingAttempt : LeaderAttempt where
  bind := .ok []
  stunMappedCandidate _ := .error (.timeout "")
  signalPush _ _ := .ok ()
  punch _ := .ok ⟨"198.51.100.4", 40001⟩
  leaderEndpoint := .ok ()

/-- The member connects, its tunnel ends, and it asks again. -/
def reconnect : List LeaderEvent :=
  [.pulled (.ok [memberMessage]), .handled meetingAttempt, .ended "m",
    .pulled (.ok [memberMessage]), .handled meetingAttempt]

theorem not_current_reconnect :
    ¬ (Throughout (LeaderEvent.step ⟨none, ""⟩) LeaderSession.Current reconnect {} ∧
        Fitting (LeaderEvent.step ⟨none, ""⟩) (AnswersMembers ⟨none, ""⟩) reconnect {}) := by
  rintro ⟨always, -⟩
  have stale := always.2.2.2.first
  have running := (stale "m").mp (by decide)
  exact absurd running (by decide)

end AiPowerGateway.Share

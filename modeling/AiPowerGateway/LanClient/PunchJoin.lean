import AiPowerGateway.Punch.Signal

/-!
# Joining a leader by a punched connection

A member posts its candidates to the leader's mailbox, waits for the leader's
candidates and certificate fingerprint in its own, punches, and pins the
fingerprint on the QUIC connection.  The mailbox takes messages from every
registered node; the wait takes the first candidate message, whoever sent it.
-/

namespace AiPowerGateway.LanClient

open Punch

/-- One turn of the mailbox loop: the clock at its head, and what `signal_pull` gave. -/
structure Poll where
  now : Nat
  pulled : Except String (List SignalMessage)

def Poll.messages (poll : Poll) : List SignalMessage :=
  match poll.pulled with
  | .ok messages => messages
  | .error _ => []

/-- The sockets, the coordination server and the clock that a session meets. -/
structure PunchEnv where
  /-- The socket and its local candidates. -/
  bind : Except PunchError (List Candidate)
  /-- The address that the echo server reports. -/
  stunMappedCandidate : String → Except PunchError Candidate
  signalPush : String → Json → Except String Unit
  /-- The clock in milliseconds when the loop starts. -/
  start : Nat
  /-- The turns of the loop while it runs; the deadline has passed when they end. -/
  polls : List Poll
  /-- Punching to the candidates gives the address of the peer. -/
  punch : List Candidate → Except PunchError String
  memberEndpoint : String → Except PunchError Unit
  connect : String → String → Except PunchError Unit
  spawnMemberTunnel : Except PunchError UInt16

/-- What a session did, as far as it came. -/
structure PunchSession where
  posted : Option Json := none
  /-- The message that the session took for the leader's. -/
  used : Option SignalMessage := none
  punched : Option (List Candidate) := none
  /-- The fingerprint that the QUIC step pins. -/
  pinned : Option String := none
  /-- The local port of the tunnel. -/
  result : Except PunchError UInt16

def signalTimeout : Nat := 15000

/-- Pull until the deadline; the first candidate message ends the wait. -/
def awaitCandidate (deadline : Nat) : List Poll → Option SignalMessage
  | [] => none
  | poll :: later =>
      if poll.now < deadline then
        match poll.pulled with
        | .ok messages =>
            match messages.find? (·.isCandidate) with
            | some message => some message
            | none => awaitCandidate deadline later
        | .error _ => awaitCandidate deadline later
      else none

/-- The fingerprint and the candidates of the message. -/
def readLeaderSignal (body : Json) : Except PunchError (String × List Candidate) :=
  match body.asObject? with
  | none => .error (.quic "组长信令格式无效")
  | some _ =>
      match body.text? "cert_fp" with
      | none => .error (.quic "组长信令缺 cert_fp")
      | some certFp =>
          match signalCandidates? body with
          | none => .error (.quic "组长信令缺 candidates")
          | some candidates => .ok (certFp, candidates)

/-- A member reads what a leader posts. -/
theorem readLeaderSignal_leaderSignal (candidates : List Candidate) (fingerprint : String) :
    readLeaderSignal (leaderSignal candidates fingerprint) = .ok (fingerprint, candidates) := by
  have fields : (leaderSignal candidates fingerprint).text? "cert_fp" = some fingerprint := by
    simp [leaderSignal, Json.text?]
  unfold readLeaderSignal
  rw [fields, signalCandidates?_leaderSignal]
  rfl

namespace PunchEnv

/-- The local candidates, and the mapped one when the echo server answers. -/
def candidates (env : PunchEnv) (stunAddr : Option String) (ours : List Candidate) :
    List Candidate :=
  match stunAddr with
  | none => ours
  | some stun =>
      match env.stunMappedCandidate stun with
      | .ok mapped => ours ++ [mapped]
      | .error _ => ours

/-- Bind a socket and post its candidates to the leader. -/
def post (env : PunchEnv) (leaderShareId : String) (stunAddr : Option String) :
    Except PunchError Json :=
  match env.bind with
  | .error failure => .error failure
  | .ok ours =>
      let body := memberSignal (env.candidates stunAddr ours)
      match env.signalPush leaderShareId body with
      | .error text => .error (.quic ("投递候选失败: " ++ text))
      | .ok () => .ok body

/-- The QUIC step: an endpoint that trusts the fingerprint, the connection, the bridge. -/
def carry (env : PunchEnv) (certFp peer : String) : Except PunchError UInt16 := do
  env.memberEndpoint certFp
  env.connect certFp peer
  env.spawnMemberTunnel

end PunchEnv

def punchJoin (env : PunchEnv) (leaderShareId : String) (stunAddr : Option String) :
    PunchSession :=
  match env.post leaderShareId stunAddr with
  | .error failure => { result := .error failure }
  | .ok body =>
      match awaitCandidate (env.start + signalTimeout) env.polls with
      | none =>
          { posted := some body
            result := .error (.timeout "等待组长候选超时（打洞失败：无法连接）") }
      | some message =>
          match readLeaderSignal message.body with
          | .error failure =>
              { posted := some body, used := some message, result := .error failure }
          | .ok (certFp, candidates) =>
              match env.punch candidates with
              | .error failure =>
                  { posted := some body, used := some message, punched := some candidates
                    result := .error failure }
              | .ok peer =>
                  { posted := some body, used := some message, punched := some candidates
                    pinned := some certFp, result := env.carry certFp peer }

/-! ## Messages delivered in time -/

/-- The messages of every pull that started before the deadline. -/
def deliveredBefore (deadline : Nat) (polls : List Poll) : List SignalMessage :=
  (polls.takeWhile fun poll => poll.now < deadline).flatMap Poll.messages

/-- The messages that the server had for the session; none when it never came to pull. -/
def PunchEnv.delivered (env : PunchEnv) (leaderShareId : String) (stunAddr : Option String) :
    List SignalMessage :=
  match env.post leaderShareId stunAddr with
  | .error _ => []
  | .ok _ => deliveredBefore (env.start + signalTimeout) env.polls

/-- The wait ends with the first candidate message delivered in time. -/
theorem awaitCandidate_eq_find? (deadline : Nat) (polls : List Poll) :
    awaitCandidate deadline polls =
      (deliveredBefore deadline polls).find? (·.isCandidate) := by
  induction polls with
  | nil => rfl
  | cons poll later ih =>
      by_cases inTime : poll.now < deadline
      · have delivered : deliveredBefore deadline (poll :: later) =
            poll.messages ++ deliveredBefore deadline later := by
          simp [deliveredBefore, inTime]
        rw [delivered, List.find?_append, ← ih]
        cases pulled : poll.pulled with
        | error text => simp [awaitCandidate, inTime, pulled, Poll.messages]
        | ok messages =>
            cases found : messages.find? (·.isCandidate) <;>
              simp [awaitCandidate, inTime, pulled, Poll.messages, found]
      · simp [awaitCandidate, deliveredBefore, inTime]

/-! ## What a session uses -/

section Session

variable (env : PunchEnv) (leaderShareId : String) (stunAddr : Option String)

theorem punchJoin_used :
    (punchJoin env leaderShareId stunAddr).used =
      (env.delivered leaderShareId stunAddr).find? (·.isCandidate) := by
  cases posts : env.post leaderShareId stunAddr with
  | error failure => simp [punchJoin, PunchEnv.delivered, posts]
  | ok body =>
      have delivered : env.delivered leaderShareId stunAddr =
          deliveredBefore (env.start + signalTimeout) env.polls := by
        simp only [PunchEnv.delivered, posts]
      rw [delivered, ← awaitCandidate_eq_find?]
      cases waits : awaitCandidate (env.start + signalTimeout) env.polls with
      | none => simp [punchJoin, posts, waits]
      | some message =>
          cases reads : readLeaderSignal message.body with
          | error failure => simp [punchJoin, posts, waits, reads]
          | ok read =>
              cases punches : env.punch read.2 <;>
                simp [punchJoin, posts, waits, reads, punches]

/-- The member punches to the candidates of the message it used, as far as it can read it. -/
theorem punchJoin_punched :
    (punchJoin env leaderShareId stunAddr).punched =
      (punchJoin env leaderShareId stunAddr).used.bind fun message =>
        (readLeaderSignal message.body).toOption.map (·.2) := by
  cases posts : env.post leaderShareId stunAddr with
  | error failure => simp [punchJoin, posts]
  | ok body =>
      cases waits : awaitCandidate (env.start + signalTimeout) env.polls with
      | none => simp [punchJoin, posts, waits]
      | some message =>
          cases reads : readLeaderSignal message.body with
          | error failure => simp [punchJoin, posts, waits, reads, Except.toOption]
          | ok read =>
              cases punches : env.punch read.2 <;>
                simp [punchJoin, posts, waits, reads, punches, Except.toOption]

variable {env leaderShareId stunAddr}

/-- The pinned fingerprint and the punched candidates are read from the used message. -/
theorem punchJoin_pinned {certFp : String}
    (pins : (punchJoin env leaderShareId stunAddr).pinned = some certFp) :
    ∃ message candidates, (punchJoin env leaderShareId stunAddr).used = some message ∧
      readLeaderSignal message.body = .ok (certFp, candidates) ∧
      (punchJoin env leaderShareId stunAddr).punched = some candidates := by
  cases posts : env.post leaderShareId stunAddr with
  | error failure => simp [punchJoin, posts] at pins
  | ok body =>
      cases waits : awaitCandidate (env.start + signalTimeout) env.polls with
      | none => simp [punchJoin, posts, waits] at pins
      | some message =>
          cases reads : readLeaderSignal message.body with
          | error failure => simp [punchJoin, posts, waits, reads] at pins
          | ok read =>
              obtain ⟨fingerprint, candidates⟩ := read
              cases punches : env.punch candidates with
              | error failure => simp [punchJoin, posts, waits, reads, punches] at pins
              | ok peer =>
                  have same : fingerprint = certFp := by
                    simpa [punchJoin, posts, waits, reads, punches] using pins
                  subst same
                  exact ⟨message, candidates, by simp [punchJoin, posts, waits, reads, punches],
                    reads, by simp [punchJoin, posts, waits, reads, punches]⟩

/-- A leader's message that comes first is the one that is punched and pinned. -/
theorem punchJoin_of_leaderSignal {candidates : List Candidate} {fingerprint peer : String}
    (first : (env.delivered leaderShareId stunAddr).find? (·.isCandidate) =
      some ⟨leaderShareId, leaderSignal candidates fingerprint⟩)
    (punches : env.punch candidates = .ok peer) :
    (punchJoin env leaderShareId stunAddr).punched = some candidates ∧
      (punchJoin env leaderShareId stunAddr).pinned = some fingerprint ∧
      (punchJoin env leaderShareId stunAddr).result = env.carry fingerprint peer := by
  cases posts : env.post leaderShareId stunAddr with
  | error failure => simp [PunchEnv.delivered, posts] at first
  | ok body =>
      have waits : awaitCandidate (env.start + signalTimeout) env.polls =
          some ⟨leaderShareId, leaderSignal candidates fingerprint⟩ := by
        rw [awaitCandidate_eq_find?, ← first, PunchEnv.delivered, posts]
      simp [punchJoin, posts, waits, readLeaderSignal_leaderSignal, punches]

end Session

/-! ## Whose certificate is pinned -/

/-- The session is pinned to the leader, whatever other nodes post. -/
structure LeaderPinned (leaderShareId : String) (delivered : List SignalMessage)
    (session : PunchSession) : Prop where
  /-- Fingerprint and candidates of the QUIC step come from a message of the leader. -/
  pinned : ∀ certFp, session.pinned = some certFp →
    ∃ message ∈ delivered, message.fromShareId = leaderShareId ∧
      ∃ candidates, readLeaderSignal message.body = .ok (certFp, candidates) ∧
        session.punched = some candidates
  /-- No message of another node is taken for the leader's. -/
  used : ∀ message, session.used = some message → message.fromShareId = leaderShareId
  /-- A leader's candidate message delivered in time is not lost to another node's. -/
  kept : ∀ message ∈ delivered, message.fromShareId = leaderShareId →
    message.isCandidate = true →
      ∃ taken, session.used = some taken ∧ taken.fromShareId = leaderShareId

/-- Before every candidate message of another node stands one of the leader. -/
def LeaderFirst (leaderShareId : String) (delivered : List SignalMessage) : Prop :=
  ∀ before message after, delivered = before ++ message :: after →
    message.isCandidate = true → message.fromShareId ≠ leaderShareId →
      ∃ earlier ∈ before, earlier.isCandidate = true ∧ earlier.fromShareId = leaderShareId

theorem leaderFirst_iff_find? {leaderShareId : String} {delivered : List SignalMessage} :
    LeaderFirst leaderShareId delivered ↔
      ∀ message, delivered.find? (·.isCandidate) = some message →
        message.fromShareId = leaderShareId := by
  constructor
  · intro leaderFirst message found
    by_contra foreign
    obtain ⟨candidate, before, after, split, clean⟩ := List.find?_eq_some_iff_append.mp found
    obtain ⟨earlier, mem, isCandidate, -⟩ :=
      leaderFirst before message after split candidate foreign
    simpa [isCandidate] using clean earlier mem
  · rintro firstIsLeader before message after rfl candidate foreign
    rw [List.find?_append] at firstIsLeader
    cases found : before.find? (·.isCandidate) with
    | none =>
        have taken : message.fromShareId = leaderShareId :=
          firstIsLeader message (by simp [found, candidate])
        exact absurd taken foreign
    | some earlier =>
        have isCandidate : earlier.isCandidate = true := List.find?_some found
        exact ⟨earlier, List.mem_of_find?_eq_some found, isCandidate,
          firstIsLeader earlier (by simp [found])⟩

/-- A session is pinned to the leader exactly when the leader's candidate message comes
before those of other nodes. -/
theorem leader_pinned_iff (env : PunchEnv) (leaderShareId : String) (stunAddr : Option String) :
    LeaderPinned leaderShareId (env.delivered leaderShareId stunAddr)
        (punchJoin env leaderShareId stunAddr) ↔
      LeaderFirst leaderShareId (env.delivered leaderShareId stunAddr) := by
  rw [leaderFirst_iff_find?, ← punchJoin_used]
  constructor
  · exact LeaderPinned.used
  · intro used
    refine ⟨fun certFp pins => ?_, used, fun message mem fromLeader candidate => ?_⟩
    · obtain ⟨message, candidates, taken, reads, punches⟩ := punchJoin_pinned pins
      have mem : message ∈ env.delivered leaderShareId stunAddr :=
        List.mem_of_find?_eq_some (punchJoin_used env leaderShareId stunAddr ▸ taken)
      exact ⟨message, mem, used message taken, candidates, reads, punches⟩
    · have someCandidate :
          ((env.delivered leaderShareId stunAddr).find? (·.isCandidate)).isSome = true :=
        List.find?_isSome.mpr ⟨message, mem, candidate⟩
      obtain ⟨taken, found⟩ := Option.isSome_iff_exists.mp someCandidate
      rw [← punchJoin_used] at found
      exact ⟨taken, found, used taken found⟩

/-- Another node's candidates reach the mailbox in one batch with the leader's. -/
def crossedMailbox : PunchEnv where
  bind := .ok [⟨"10.0.0.7", 40001, .local⟩]
  stunMappedCandidate _ := .error (.timeout "STUN 回显超时")
  signalPush _ _ := .ok ()
  start := 0
  polls := [⟨0, .ok []⟩, ⟨500, .ok [
    ⟨"rogue", leaderSignal [⟨"198.51.100.9", 50001, .mapped⟩] "rogue-cert"⟩,
    ⟨"leader", leaderSignal [⟨"203.0.113.7", 39093, .mapped⟩] "leader-cert"⟩]⟩]
  punch _ := .ok "198.51.100.9:50001"
  memberEndpoint _ := .ok ()
  connect _ _ := .ok ()
  spawnMemberTunnel := .ok 41000

theorem foreign_certificate_pinned :
    (punchJoin crossedMailbox "leader" none).pinned = some "rogue-cert" ∧
      ¬ LeaderPinned "leader" (crossedMailbox.delivered "leader" none)
          (punchJoin crossedMailbox "leader" none) := by
  refine ⟨by decide, fun pinned => ?_⟩
  have taken : (punchJoin crossedMailbox "leader" none).used =
      some ⟨"rogue", leaderSignal [⟨"198.51.100.9", 50001, .mapped⟩] "rogue-cert"⟩ := by decide
  exact absurd (pinned.used _ taken) (by decide)

end AiPowerGateway.LanClient

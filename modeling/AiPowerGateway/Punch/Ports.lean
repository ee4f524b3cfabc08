import AiPowerGateway.LanClient.Discovery
import AiPowerGateway.LanClient.PunchJoin
import AiPowerGateway.Share.LeaderPunch

/-!
# Port numbers from the network

Announcements, signalling candidates and replies of the echo server name a port by an
unsigned integer of 64 bits.  All four readers cut it to 16 bits: a number from 65536 on
becomes another port, and a multiple of 65536 becomes port zero.
-/

namespace AiPowerGateway.Punch

open LanClient Share

def IsPort (port : UInt64) : Prop := 0 < port.toNat ∧ port.toNat < 65536

instance (port : UInt64) : Decidable (IsPort port) := inferInstanceAs (Decidable (_ ∧ _))

/-- The port that is used is the one that was named, and it is not zero. -/
def PortExact (named : Option UInt64) (used : UInt16) : Prop :=
  used ≠ 0 ∧ named = some used.toUInt64

theorem toUInt16_eq_zero_iff {port : UInt64} : port.toUInt16 = 0 ↔ 65536 ∣ port.toNat := by
  rw [← UInt16.toNat_inj, UInt64.toNat_toUInt16, UInt16.toNat_zero, Nat.dvd_iff_mod_eq_zero]

theorem toUInt64_toUInt16_eq_iff {port : UInt64} :
    port.toUInt16.toUInt64 = port ↔ port.toNat < 65536 := by
  rw [← UInt64.toNat_inj, UInt16.toNat_toUInt64, UInt64.toNat_toUInt16,
    Nat.mod_eq_iff_lt (by decide)]

theorem portExact_iff {port : UInt64} : PortExact (some port) port.toUInt16 ↔ IsPort port := by
  rw [PortExact, Option.some_inj, eq_comm, toUInt64_toUInt16_eq_iff, Ne,
    toUInt16_eq_zero_iff, IsPort]
  constructor
  · rintro ⟨nonzero, small⟩
    refine ⟨Nat.pos_of_ne_zero fun zero => nonzero ?_, small⟩
    rw [zero]
    exact Nat.dvd_zero _
  · rintro ⟨positive, small⟩
    exact ⟨Nat.not_dvd_of_pos_of_lt positive small, small⟩

/-- Where no port is named the port is zero. -/
theorem portExact_getD_iff {named : Option UInt64} (nonzero : (named.getD 0).toUInt16 ≠ 0) :
    PortExact named (named.getD 0).toUInt16 ↔ (named.getD 0).toNat < 65536 := by
  cases named with
  | none => exact absurd rfl nonzero
  | some port =>
      rw [Option.getD_some] at nonzero ⊢
      rw [PortExact, Option.some_inj, eq_comm, toUInt64_toUInt16_eq_iff, and_iff_right nonzero]

/-- Where a port that is cut to zero is dropped. -/
theorem portExact_filter_iff {named : Option UInt64} :
    (∀ used, (named.map UInt64.toUInt16).filter (0 < ·) = some used → PortExact named used) ↔
      ∀ port, named = some port → port.toNat < 65536 ∨ 65536 ∣ port.toNat := by
  cases named with
  | none => simp
  | some port =>
      by_cases dropped : port.toUInt16 = 0
      · have divides := toUInt16_eq_zero_iff.mp dropped
        simp [dropped, divides]
      · have positive : 0 < port.toUInt16 := UInt16.pos_iff_ne_zero.mpr dropped
        have whole : ¬ 65536 ∣ port.toNat := mt toUInt16_eq_zero_iff.mpr dropped
        have kept : (some port.toUInt16).filter (0 < ·) = some port.toUInt16 := by simp [positive]
        simp only [Option.map_some, kept, Option.some_inj, forall_eq', or_iff_left whole]
        rw [PortExact, Option.some_inj, eq_comm, toUInt64_toUInt16_eq_iff, and_iff_right dropped]

/-! ## Announcements -/

/-- The ports of the leader are the announced ones. -/
def AnnouncedPorts (parsed : Json) (leader : LeaderInfo) : Prop :=
  PortExact (portField? parsed "api_port") leader.apiPort ∧
    ∀ port, leader.sharePort = some port → PortExact (portField? parsed "share_port") port

/-- What an announcement puts into the table has the announced ports. -/
def AnnouncementExact (fromStr : String → Option Json) (datagram : Datagram) : Prop :=
  ∀ client key leader, (handleAnnounce fromStr client datagram).leaders.lookup key = some leader →
    client.leaders.lookup key = some leader ∨
      ∃ parsed, fromStr (Text.trim datagram.text) = some parsed ∧ AnnouncedPorts parsed leader

/-- The API port is cut to zero, which drops the announcement; or it fits, and the share
port fits as well or is cut to zero, which drops the share port. -/
def AnnouncedPortsFit (parsed : Json) : Prop :=
  let apiPort := (portField? parsed "api_port").getD 0
  65536 ∣ apiPort.toNat ∨
    apiPort.toNat < 65536 ∧ ∀ sharePort, portField? parsed "share_port" = some sharePort →
      sharePort.toNat < 65536 ∨ 65536 ∣ sharePort.toNat

theorem announcedPorts_iff {fromStr : String → Option Json} {datagram : Datagram} {parsed : Json}
    (announces : datagram.Announces fromStr parsed) :
    (∀ leader, datagram.leader? fromStr = some leader → AnnouncedPorts parsed leader) ↔
      AnnouncedPortsFit parsed := by
  rw [AnnouncedPortsFit, ← toUInt16_eq_zero_iff]
  by_cases dropped : ((portField? parsed "api_port").getD 0).toUInt16 = 0
  · refine iff_of_true (fun leader heard => ?_) (Or.inl dropped)
    obtain ⟨nonzero, -⟩ := announces.leader?_eq_some_iff.mp heard
    exact absurd dropped nonzero
  · rw [or_iff_right dropped, ← portExact_getD_iff dropped, ← portExact_filter_iff]
    constructor
    · intro exact
      exact exact _ (announces.leader?_eq_some_iff.mpr ⟨dropped, rfl⟩)
    · intro exact leader heard
      obtain ⟨-, rfl⟩ := announces.leader?_eq_some_iff.mp heard
      exact exact

theorem announcementExact_iff {fromStr : String → Option Json} {datagram : Datagram} :
    AnnouncementExact fromStr datagram ↔
      ∀ parsed, datagram.Announces fromStr parsed → AnnouncedPortsFit parsed := by
  constructor
  · intro exact parsed announces
    refine (announcedPorts_iff announces).mp fun leader heard => ?_
    have stored : (handleAnnounce fromStr {} datagram).leaders.lookup leader.id = some leader := by
      rw [handleAnnounce, heard]
      exact AList.lookup_insert _
    obtain fresh | ⟨other, parses, ports⟩ := exact {} leader.id leader stored
    · cases fresh
    · rwa [Option.some.inj (announces.parses.symm.trans parses)]
  · intro fits client key leader stored
    cases heard : datagram.leader? fromStr with
    | none =>
        rw [handleAnnounce, heard] at stored
        exact Or.inl stored
    | some info =>
        rw [handleAnnounce, heard] at stored
        by_cases same : key = info.id
        · subst same
          rw [AList.lookup_insert] at stored
          obtain rfl := Option.some.inj stored
          obtain ⟨parsed, announces⟩ := Datagram.announces_of_leader? heard
          exact Or.inr ⟨parsed, announces.parses,
            (announcedPorts_iff announces).mpr (fits parsed announces) info heard⟩
        · rw [AList.lookup_insert_ne same] at stored
          exact Or.inl stored

/-! ## Candidates -/

/-- The address and the port that a record names. -/
def endpoint? (record : Json) : Option (String × UInt64) :=
  match record.text? "ip", portField? record "port" with
  | some ip, some port => some (ip, port)
  | _, _ => none

def Candidate.endpoint (candidate : Candidate) : String × UInt64 :=
  (candidate.ip, candidate.port.toUInt64)

/-- The candidates that are used are records, in their order, with their own ports. -/
def CandidatesExact (records : List Json) (used : List Candidate) : Prop :=
  (used.map Candidate.endpoint).Sublist (records.filterMap endpoint?) ∧
    ∀ candidate ∈ used, candidate.port ≠ 0

def RecordsFit (records : List Json) : Prop :=
  ∀ endpoint ∈ records.filterMap endpoint?, IsPort endpoint.2

/-- A port as it is after the cut. -/
def cut (endpoint : String × UInt64) : String × UInt64 :=
  (endpoint.1, endpoint.2.toUInt16.toUInt64)

theorem cut_eq_iff {endpoint : String × UInt64} :
    cut endpoint = endpoint ↔ endpoint.2.toNat < 65536 := by
  rw [cut, Prod.ext_iff, and_iff_right rfl, toUInt64_toUInt16_eq_iff]

/-- A reader of records that takes address and port, and cuts the port. -/
def Cuts (read : Json → Option Candidate) : Prop :=
  ∀ record, (read record).map Candidate.endpoint = (endpoint? record).map cut

theorem cuts_signalCandidate? : Cuts signalCandidate? := by
  intro record
  rw [signalCandidate?, endpoint?, portField?]
  cases record.text? "ip" with
  | none => rfl
  | some ip => cases (record.get? "port").bind Json.asU64? <;> rfl

theorem cuts_mapped : Cuts fun reply => (StunCall.mapped reply).toOption := by
  intro reply
  simp only [StunCall.mapped, endpoint?, portField?]
  cases reply.text? "ip" with
  | none => rfl
  | some ip => cases (reply.get? "port").bind Json.asU64? <;> rfl

theorem Cuts.map_endpoint {read : Json → Option Candidate} (cuts : Cuts read)
    (records : List Json) :
    (records.filterMap read).map Candidate.endpoint = (records.filterMap endpoint?).map cut := by
  simp only [List.map_filterMap, cuts _]

/-- Whoever cuts the ports uses the named ones exactly when the cut changes none. -/
theorem Cuts.candidatesExact_iff {read : Json → Option Candidate} (cuts : Cuts read)
    {records : List Json} :
    CandidatesExact records (records.filterMap read) ↔ RecordsFit records := by
  rw [CandidatesExact, cuts.map_endpoint]
  constructor
  · rintro ⟨sublist, nonzero⟩ endpoint mem
    have same : (records.filterMap endpoint?).map cut = records.filterMap endpoint? :=
      sublist.eq_of_length (List.length_map cut)
    have used : endpoint ∈ (records.filterMap read).map Candidate.endpoint := by
      rwa [cuts.map_endpoint, same]
    obtain ⟨candidate, candidateMem, rfl⟩ := List.mem_map.mp used
    exact portExact_iff.mp
      ⟨by simpa [Candidate.endpoint] using nonzero candidate candidateMem,
        by simp [Candidate.endpoint]⟩
  · intro fits
    have same : (records.filterMap endpoint?).map cut = records.filterMap endpoint? := by
      rw [List.map_congr_left fun endpoint mem => cut_eq_iff.mpr (fits endpoint mem).2,
        List.map_id']
    refine ⟨by rw [same], fun candidate mem zero => ?_⟩
    have used : candidate.endpoint ∈ records.filterMap endpoint? := by
      rw [← same, ← cuts.map_endpoint]
      exact List.mem_map_of_mem mem
    have positive := (fits _ used).1
    simp [Candidate.endpoint, zero] at positive

/-- No candidate is used. -/
theorem candidatesExact_nil (records : List Json) : CandidatesExact records [] :=
  ⟨List.nil_sublist _, fun _ mem => absurd mem List.not_mem_nil⟩

/-- The records of a signal. -/
def candidateRecords (body : Json) : List Json :=
  ((body.get? "candidates").bind Json.asArray?).getD []

theorem getD_signalCandidates? (body : Json) :
    (signalCandidates? body).getD [] = (candidateRecords body).filterMap signalCandidate? := by
  rw [signalCandidates?, candidateRecords]
  cases (body.get? "candidates").bind Json.asArray? <;> rfl

theorem isCandidate_iff {message : SignalMessage} :
    message.isCandidate = true ↔ message.body.text? "type" = some "candidate" := by
  rw [SignalMessage.isCandidate]
  cases message.body.text? "type" <;> simp

theorem memberCandidates_of_isCandidate {message : SignalMessage}
    (isCandidate : message.isCandidate = true) :
    memberCandidates message = (candidateRecords message.body).filterMap signalCandidate? := by
  obtain ⟨fields, body⟩ := SignalMessage.exists_fields_of_isCandidate isCandidate
  have object : message.body.asObject? = some fields := by rw [body]; rfl
  rw [memberCandidates, object, ← getD_signalCandidates?]
  exact if_pos (isCandidate_iff.mp isCandidate)

theorem memberCandidates_of_not_isCandidate {message : SignalMessage}
    (other : ¬ message.isCandidate = true) : memberCandidates message = [] := by
  rw [memberCandidates]
  cases message.body.asObject? with
  | none => rfl
  | some fields => exact if_neg (mt isCandidate_iff.mpr other)

theorem memberCandidates_exact_iff {message : SignalMessage} :
    CandidatesExact (candidateRecords message.body) (memberCandidates message) ↔
      (message.isCandidate = true → RecordsFit (candidateRecords message.body)) := by
  by_cases isCandidate : message.isCandidate = true
  · rw [memberCandidates_of_isCandidate isCandidate, cuts_signalCandidate?.candidatesExact_iff,
      imp_iff_right isCandidate]
  · rw [memberCandidates_of_not_isCandidate isCandidate]
    exact iff_of_true (candidatesExact_nil _) fun is => absurd is isCandidate

/-! ## A session of the member -/

/-- The candidates that a member punches to are records of the message it took, with their
own ports. -/
def JoinExact (session : PunchSession) : Prop :=
  ∀ message used, session.used = some message → session.punched = some used →
    CandidatesExact (candidateRecords message.body) used

theorem readLeaderSignal_eq_ok {body : Json} {fingerprint : String} {candidates : List Candidate}
    (reads : readLeaderSignal body = .ok (fingerprint, candidates)) :
    body.text? "cert_fp" = some fingerprint ∧
      candidates = (candidateRecords body).filterMap signalCandidate? := by
  rw [← getD_signalCandidates?]
  rw [readLeaderSignal] at reads
  cases object : body.asObject? with
  | none => simp [object] at reads
  | some fields =>
      cases certFp : body.text? "cert_fp" with
      | none => simp [object, certFp] at reads
      | some text =>
          cases listed : signalCandidates? body with
          | none => simp [object, certFp, listed] at reads
          | some found =>
              simp only [object, certFp, listed, Except.ok.injEq, Prod.mk.injEq] at reads
              obtain ⟨rfl, rfl⟩ := reads
              exact ⟨rfl, rfl⟩

theorem readLeaderSignal_of_listed {message : SignalMessage} {fingerprint : String}
    {candidates : List Candidate} (isCandidate : message.isCandidate = true)
    (certFp : message.body.text? "cert_fp" = some fingerprint)
    (listed : signalCandidates? message.body = some candidates) :
    readLeaderSignal message.body = .ok (fingerprint, candidates) := by
  obtain ⟨fields, body⟩ := SignalMessage.exists_fields_of_isCandidate isCandidate
  have object : message.body.asObject? = some fields := by rw [body]; rfl
  simp only [readLeaderSignal, object, certFp, listed]

theorem joinExact_iff (env : PunchEnv) (leaderShareId : String) (stunAddr : Option String) :
    JoinExact (punchJoin env leaderShareId stunAddr) ↔
      ∀ message, (env.delivered leaderShareId stunAddr).find? (·.isCandidate) = some message →
        (message.body.text? "cert_fp").isSome = true →
          RecordsFit (candidateRecords message.body) := by
  constructor
  · intro exact message found named
    obtain ⟨fingerprint, certFp⟩ := Option.isSome_iff_exists.mp named
    cases listed : signalCandidates? message.body with
    | none =>
        have absent : (message.body.get? "candidates").bind Json.asArray? = none :=
          Option.map_eq_none_iff.mp listed
        intro endpoint mem
        rw [candidateRecords, absent] at mem
        exact absurd mem List.not_mem_nil
    | some candidates =>
        have reads := readLeaderSignal_of_listed (List.find?_some found) certFp listed
        have used := (punchJoin_used env leaderShareId stunAddr).trans found
        have punched : (punchJoin env leaderShareId stunAddr).punched = some candidates := by
          rw [punchJoin_punched, used, Option.bind_some, reads]
          rfl
        obtain ⟨-, rfl⟩ := readLeaderSignal_eq_ok reads
        exact cuts_signalCandidate?.candidatesExact_iff.mp (exact message _ used punched)
  · intro fits message candidates used punched
    rw [punchJoin_punched, used, Option.bind_some] at punched
    cases reads : readLeaderSignal message.body with
    | error failure => simp [reads, Except.toOption] at punched
    | ok read =>
        obtain ⟨fingerprint, found⟩ := read
        obtain rfl : found = candidates := by simpa [reads, Except.toOption] using punched
        obtain ⟨certFp, rfl⟩ := readLeaderSignal_eq_ok reads
        rw [punchJoin_used] at used
        exact cuts_signalCandidate?.candidatesExact_iff.mpr
          (fits message used (Option.isSome_iff_exists.mpr ⟨fingerprint, certFp⟩))

/-! ## The reply of the echo server -/

/-- The candidate of the datagram that ends the wait is the reply in it, with its own port. -/
def StunExact (call : StunCall) (turns : List StunTurn) (now : Nat) (payload : Bytes)
    (source : SocketAddr) : Prop :=
  call.run turns = none →
    ∀ candidate, call.run (turns ++ [⟨now, .received payload source⟩]) = some (.ok candidate) →
      CandidatesExact (call.reply? payload).toList [candidate]

theorem stunExact_iff (call : StunCall) (turns : List StunTurn) (now : Nat) (payload : Bytes)
    (source : SocketAddr) :
    StunExact call turns now payload source ↔
      (call.run turns = none → now < call.deadline →
        RecordsFit (call.reply? payload).toList) := by
  refine imp_congr_right fun waiting => ?_
  have last : call.run (turns ++ [⟨now, .received payload source⟩]) =
      call.turn ⟨now, .received payload source⟩ := by
    rw [StunCall.run, List.findSome?_append, ← StunCall.run, waiting, Option.none_or,
      List.findSome?_singleton]
  rw [last]
  by_cases late : call.deadline ≤ now
  · refine iff_of_true (fun candidate result => ?_) fun early => absurd early (Nat.not_lt.mpr late)
    rw [StunCall.turn, if_pos late] at result
    cases result
  rw [imp_iff_right (Nat.not_le.mp late), ← cuts_mapped.candidatesExact_iff]
  have turned : call.turn ⟨now, .received payload source⟩ =
      (call.reply? payload).map StunCall.mapped := by
    rw [StunCall.turn, if_neg late]
  rw [turned]
  cases call.reply? payload with
  | none => exact iff_of_true (fun _ result => by cases result) (candidatesExact_nil _)
  | some reply =>
      cases read : StunCall.mapped reply with
      | error failure => simp [read, Except.toOption, candidatesExact_nil]
      | ok candidate => simp [read, Except.toOption]

/-! ## All four readers -/

/--
The four readers use the ports that the network names, or drop the record, exactly when
the named numbers are ports; an announcement may also name a multiple of 65536, which
drops it.
-/
theorem ports_exact_iff (fromStr : String → Option Json) (datagram : Datagram)
    (message : SignalMessage) (env : PunchEnv) (leaderShareId : String) (stunAddr : Option String)
    (call : StunCall) (turns : List StunTurn) (now : Nat) (payload : Bytes)
    (source : SocketAddr) :
    (AnnouncementExact fromStr datagram ↔
      ∀ parsed, datagram.Announces fromStr parsed → AnnouncedPortsFit parsed) ∧
    (CandidatesExact (candidateRecords message.body) (memberCandidates message) ↔
      (message.isCandidate = true → RecordsFit (candidateRecords message.body))) ∧
    (JoinExact (punchJoin env leaderShareId stunAddr) ↔
      ∀ message, (env.delivered leaderShareId stunAddr).find? (·.isCandidate) = some message →
        (message.body.text? "cert_fp").isSome = true →
          RecordsFit (candidateRecords message.body)) ∧
    (StunExact call turns now payload source ↔
      (call.run turns = none → now < call.deadline →
        RecordsFit (call.reply? payload).toList)) :=
  ⟨announcementExact_iff, memberCandidates_exact_iff, joinExact_iff env leaderShareId stunAddr,
    stunExact_iff call turns now payload source⟩

/-- A member with the port 104627, which is cut to 39091. -/
def aliasedMessage : SignalMessage where
  fromShareId := "m"
  body := .obj [("type", .str "candidate"),
    ("candidates", .arr [.obj [("ip", .str "203.0.113.7"), ("port", .num (.posInt 104627)),
      ("kind", .str "mapped")]])]

theorem port_aliased :
    memberCandidates aliasedMessage = [⟨"203.0.113.7", 39091, .mapped⟩] ∧
      ¬ CandidatesExact (candidateRecords aliasedMessage.body)
        (memberCandidates aliasedMessage) := by
  refine ⟨by decide, fun exact => ?_⟩
  have fits := memberCandidates_exact_iff.mp exact (by decide)
  exact absurd (fits ("203.0.113.7", 104627) (by decide)) (by decide)

end AiPowerGateway.Punch

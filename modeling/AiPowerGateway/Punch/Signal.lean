import AiPowerGateway.Json.Value

/-!
# Punch candidates and the signals that carry them

Before two nodes punch through their NATs they exchange candidate addresses
through the mailboxes of the coordination server.  Both sides post and read the
same JSON bodies; the leader's body also carries the fingerprint of its
certificate.
-/

namespace AiPowerGateway.Punch

/-- Where a candidate address was seen. -/
inductive CandidateKind where
  | «local»
  | mapped
  deriving DecidableEq, Repr

structure Candidate where
  ip : String
  port : UInt16
  kind : CandidateKind
  deriving DecidableEq, Repr

inductive PunchError where
  | punchFailed (text : String)
  | timeout (text : String)
  | io (text : String)
  | quic (text : String)
  | cert (text : String)
  deriving DecidableEq, Repr

/-- A message from a mailbox; the server stamps the sender. -/
structure SignalMessage where
  fromShareId : String
  body : Json
  deriving DecidableEq, Repr

/-! ## Bodies -/

def CandidateKind.toJson : CandidateKind → Json
  | .local => .str "local"
  | .mapped => .str "mapped"

def Candidate.toJson (candidate : Candidate) : Json :=
  .obj [("ip", .str candidate.ip), ("port", .num (.posInt candidate.port.toUInt64)),
    ("kind", candidate.kind.toJson)]

/-- A candidate without address or port is dropped; a port is cut to 16 bits. -/
def signalCandidate? (value : Json) : Option Candidate :=
  match value.text? "ip", (value.get? "port").bind Json.asU64? with
  | some ip, some port =>
      some { ip := ip, port := port.toUInt16,
             kind := if value.text? "kind" = some "mapped" then .mapped else .local }
  | _, _ => none

def signalCandidates? (body : Json) : Option (List Candidate) :=
  ((body.get? "candidates").bind Json.asArray?).map (·.filterMap signalCandidate?)

def SignalMessage.isCandidate (message : SignalMessage) : Bool :=
  match message.body.text? "type" with
  | some type => type = "candidate"
  | none => false

/-- What a member posts. -/
def memberSignal (candidates : List Candidate) : Json :=
  .obj [("type", .str "candidate"), ("candidates", .arr (candidates.map Candidate.toJson))]

/-- What the leader posts back. -/
def leaderSignal (candidates : List Candidate) (fingerprint : String) : Json :=
  .obj [("type", .str "candidate"), ("candidates", .arr (candidates.map Candidate.toJson)),
    ("cert_fp", .str fingerprint)]

/-! ## Posted candidates are read back -/

theorem signalCandidate?_toJson (candidate : Candidate) :
    signalCandidate? candidate.toJson = some candidate := by
  obtain ⟨ip, port, kind⟩ := candidate
  cases kind <;>
    simp [signalCandidate?, Candidate.toJson, CandidateKind.toJson, Json.text?]

theorem signalCandidates?_leaderSignal (candidates : List Candidate) (fingerprint : String) :
    signalCandidates? (leaderSignal candidates fingerprint) = some candidates := by
  simp [signalCandidates?, leaderSignal, signalCandidate?_toJson]

/-- A candidate message has an object as its body. -/
theorem SignalMessage.exists_fields_of_isCandidate {message : SignalMessage}
    (candidate : message.isCandidate = true) : ∃ fields, message.body = .obj fields := by
  obtain ⟨sender, body⟩ := message
  cases body with
  | obj fields => exact ⟨fields, rfl⟩
  | _ => simp [isCandidate, Json.text?, Json.get?] at candidate

end AiPowerGateway.Punch

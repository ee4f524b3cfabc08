import AiPowerGateway.Link.Crypto
import AiPowerGateway.Share.Http
import Mathlib.Data.List.Sort

/-!
# The member gateway

It picks a leader and forwards a path, an authorization and a body to it; over a
deep link it encrypts what it sends and decrypts what comes back.
-/

namespace AiPowerGateway.LanClient

open Link Share

structure LeaderInfo where
  name : String
  apiPort : UInt16
  sharePort : Option UInt16
  fingerprint : String
  address : String
  lastSeen : UInt64
  online : Bool
  deriving DecidableEq, Repr

/-- The share port if the leader announced one, else its API port. -/
def LeaderInfo.linkBase (leader : LeaderInfo) : String :=
  let port := (leader.sharePort.filter (0 < ·)).getD leader.apiPort
  "http://" ++ leader.address ++ ":" ++ toString port

/-- How one HTTP exchange ends. -/
inductive Exchange where
  | unreachable (error : String)
  /-- The head of a response came, but not all of its body. -/
  | cutOff (error : String)
  | answered (response : HttpResponse)

/-- The hosts by their base URL. -/
abbrev Network := String → HttpRequest → Exchange

structure MemberGateway where
  /-- The leaders that discovery lists, in the order of its table. -/
  leaders : List LeaderInfo
  staticLeader : Option LeaderInfo
  encrypt : LinkEncryptMode

namespace MemberGateway

/-- The deep link leader, else the one last seen among those online. -/
def pickLeader (gateway : MemberGateway) : Option LeaderInfo :=
  match gateway.staticLeader with
  | some leader => some leader
  | none =>
      ((gateway.leaders.filter LeaderInfo.online).mergeSort
        fun first second => second.lastSeen ≤ first.lastSeen).head?

def isExempt (path : String) : Bool := path = "/auth/token" || path = "/auth/rename"

def linkEncrypts (gateway : MemberGateway) : Bool :=
  gateway.encrypt ≠ .off && gateway.staticLeader.isSome

/-- The token of an authorization, empty when it is no bearer. -/
def token (auth : Option String) : String :=
  Text.trim ((auth.bind (Text.stripLeading? · "Bearer ")).getD "")

def encrypting (path : String) (auth : Option String) (gateway : MemberGateway) : Bool :=
  gateway.linkEncrypts && !isExempt path && token auth ≠ ""

def encKey (prims : Primitives) (path : String) (auth : Option String)
    (gateway : MemberGateway) : Bytes :=
  if gateway.encrypting path auth then LinkCrypto.deriveKey prims (token auth)
  else List.replicate 32 0

/-- The request that goes to the leader. -/
def request (prims : Primitives) (nonce : Nonce) (path : String) (auth : Option String)
    (body : Option Bytes) (gateway : MemberGateway) : HttpRequest where
  method := if body.isSome then .post else .get
  path := path
  headers :=
    (auth.map fun value => ("authorization", Text.utf8 value)).toList ++
      [("content-type", Text.utf8 "application/json")] ++
      if gateway.encrypting path auth then [(encHeader, Text.utf8 encVersion)] else []
  body :=
    match body with
    | none => []
    | some plain =>
        if gateway.encrypting path auth then
          LinkCrypto.new.encrypt prims nonce (gateway.encKey prims path auth) plain
        else plain

/-- The status and the body of a response, opened if the leader sealed it. -/
def receive (prims : Primitives) (key : Bytes) (response : HttpResponse) :
    Except String (Nat × Bytes) :=
  if response.headers.text? encHeader = some encVersion then
    match LinkCrypto.decrypt prims key response.body with
    | .ok plain => .ok (response.status, plain)
    | .error error => .error ("leader response decrypt failed: " ++ error.display)
  else .ok (response.status, response.body)

def proxy (prims : Primitives) (nonce : Nonce) (network : Network) (path : String)
    (auth : Option String) (body : Option Bytes) (gateway : MemberGateway) :
    Except String (Nat × Bytes) :=
  match gateway.pickLeader with
  | none => .error "no leader available (LAN discovery empty + no deep-link target)"
  | some leader =>
      match network (Text.trimEnd leader.linkBase '/')
          (gateway.request prims nonce path auth body) with
      | .unreachable error => .error ("leader unreachable: " ++ error)
      | .cutOff error => .error ("read response: " ++ error)
      | .answered response => receive prims (gateway.encKey prims path auth) response

end MemberGateway

end AiPowerGateway.LanClient

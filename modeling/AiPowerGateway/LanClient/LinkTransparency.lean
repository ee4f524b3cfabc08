import AiPowerGateway.LanClient.Gateway
import AiPowerGateway.Share.Link

/-!
# The two ends of an encrypted link

The member gateway and the link layer of the leader were written separately.  Here
they meet: what the one sends, the other opens for the handler, and back.
-/

namespace AiPowerGateway.LanClient

open Link Share Share.Link

/-! ## The leader's end -/

section Leader

variable {prims : Primitives} {policy : LinkEncryptMode} {nonce : Nonce}
  {next : HttpRequest → Option HttpResponse} {req : HttpRequest}

/-- Plain requests pass, except model requests under enforcement. -/
theorem linkEncMiddleware_plain (plain : wantsEnc req = false) (policyFree : policy ≠ .enforce) :
    linkEncMiddleware prims policy nonce next req = run next req := by
  simp [linkEncMiddleware, plain, policyFree]

theorem linkEncMiddleware_enforced (plain : wantsEnc req = false)
    (modelPath : Text.startsWith req.path "/v1/") (guarded : req.path ∉ exemptPaths) :
    linkEncMiddleware prims .enforce nonce next req = turnAway upgradeRequired := by
  simp [linkEncMiddleware, plain, modelPath, guarded]

theorem linkEncMiddleware_exempt (exempt : req.path ∈ exemptPaths) :
    linkEncMiddleware prims policy nonce next req = run next req := by
  unfold linkEncMiddleware
  by_cases declared : wantsEnc req = true
  · rw [if_neg (not_not.mpr declared), if_pos exempt]
  · rw [if_pos declared, if_neg fun enforced => enforced.2.2 exempt]

/-- A request that declares encryption, and that the leader is to open. -/
structure Negotiated (policy : LinkEncryptMode) (req : HttpRequest) : Prop where
  declared : wantsEnc req = true
  guarded : req.path ∉ exemptPaths
  policyOn : policy ≠ .off

/-- The handler sees a negotiated request only after it was opened. -/
theorem Negotiated.opened (negotiated : Negotiated policy req) {inner : HttpRequest}
    (ran : (linkEncMiddleware prims policy nonce next req).seen = some inner) :
    ∃ token, Share.Link.bearerToken req.headers = some token ∧
      openRequest prims (LinkCrypto.deriveKey prims token) req = .ok inner := by
  unfold linkEncMiddleware at ran
  rw [if_neg (by simp [negotiated.declared]), if_neg negotiated.guarded,
    if_neg negotiated.policyOn] at ran
  cases held : Share.Link.bearerToken req.headers with
  | none =>
      rw [held] at ran
      cases ran
  | some token =>
      rw [held] at ran
      dsimp only at ran
      split at ran
      · cases ran
      · split at ran
        · cases ran
        · rename_i opened
          cases ran
          exact ⟨token, rfl, opened⟩

/-- An opened request runs, and its response is sealed under the same key. -/
theorem Negotiated.runs (negotiated : Negotiated policy req) {inner : HttpRequest}
    {token : String} (held : Share.Link.bearerToken req.headers = some token)
    (named : token ≠ "")
    (opened : openRequest prims (LinkCrypto.deriveKey prims token) req = .ok inner) :
    linkEncMiddleware prims policy nonce next req =
      ⟨some inner,
        (next inner).map (sealResponse prims nonce (LinkCrypto.deriveKey prims token))⟩ := by
  unfold linkEncMiddleware
  rw [if_neg (by simp [negotiated.declared]), if_neg negotiated.guarded,
    if_neg negotiated.policyOn, held]
  dsimp only
  rw [if_neg named, opened]

theorem decrypt_of_openRequest {key : Bytes} {inner : HttpRequest} (hasBody : req.method ≠ .get)
    (opened : openRequest prims key req = .ok inner) :
    LinkCrypto.decrypt prims key req.body = .ok inner.body := by
  rcases openRequest_cases prims key req with
    ⟨bodiless, -⟩ | ⟨message, failed⟩ | ⟨plain, body, decrypted⟩
  · exact absurd bodiless hasBody
  · rw [failed] at opened
    cases opened
  · rw [decrypted] at opened
    cases opened
    exact body

end Leader

/-! ## The member's end -/

namespace MemberGateway

variable {prims : Primitives} {memberNonce : Nonce} {gateway : MemberGateway} {path auth : String}
  {body : Option Bytes}

/-- What it takes for the gateway to encrypt. -/
theorem encrypting_eq_true :
    gateway.encrypting path (some auth) = true ↔
      gateway.encrypt ≠ .off ∧ gateway.staticLeader.isSome ∧ path ∉ exemptPaths ∧
        token (some auth) ≠ "" := by
  simp [encrypting, linkEncrypts, isExempt, exemptPaths, and_assoc]

section Encrypting

variable (encrypts : gateway.encrypting path (some auth) = true)

include encrypts

theorem headers_request :
    (gateway.request prims memberNonce path (some auth) body).headers =
      [("authorization", Text.utf8 auth), ("content-type", Text.utf8 "application/json"),
        (encHeader, Text.utf8 encVersion)] := by
  simp [request, encrypts]

theorem encKey_eq :
    gateway.encKey prims path (some auth) = LinkCrypto.deriveKey prims (token (some auth)) := by
  rw [encKey, if_pos encrypts]

/-- The leader takes the request for a declared one. -/
theorem wantsEnc_request :
    wantsEnc (gateway.request prims memberNonce path (some auth) body) = true := by
  have declared : HeaderMap.toStr? (Text.utf8 encVersion) = some encVersion := by decide
  unfold wantsEnc HeaderMap.text?
  rw [headers_request encrypts]
  simp [encHeader, declared]

/-- The leader reads the token that the gateway derived its key from. -/
theorem bearerToken_request {value : Bytes} (read : HeaderMap.toStr? value = some auth) :
    Share.Link.bearerToken
        (gateway.request prims memberNonce path (some auth) body).headers =
      some (token (some auth)) := by
  have sent : HeaderMap.toStr? (Text.utf8 auth) = some auth := by
    rw [HeaderMap.utf8_of_toStr? read, read]
  have named := (encrypting_eq_true.mp encrypts).2.2.2
  unfold Share.Link.bearerToken HeaderMap.text?
  rw [headers_request encrypts]
  cases stripped : Text.stripLeading? auth "Bearer " with
  | none => exact absurd (by simp [token, stripped]; decide) named
  | some rest => simp [token, sent, stripped]

/-- The leader opens the request to the body that was given to the gateway. -/
theorem openRequest_request
    (fits : (gateway.request prims memberNonce path (some auth) body).body.length ≤ bodyLimit) :
    ∃ inner,
      openRequest prims (LinkCrypto.deriveKey prims (token (some auth)))
          (gateway.request prims memberNonce path (some auth) body) = .ok inner ∧
        inner.body = body.getD [] ∧
        Share.bearerToken inner.headers = Share.bearerToken
          (gateway.request prims memberNonce path (some auth) body).headers := by
  cases body with
  | none => exact ⟨_, rfl, rfl, rfl⟩
  | some plain =>
      generalize sent : gateway.request prims memberNonce path (some auth) (some plain) = req
      rw [sent] at fits
      have hasBody : req.method ≠ .get := by simp [← sent, request]
      have decrypted : LinkCrypto.decrypt prims (LinkCrypto.deriveKey prims (token (some auth)))
          req.body = .ok plain := by simp [← sent, request, encrypts, encKey_eq encrypts]
      have opened : openRequest prims (LinkCrypto.deriveKey prims (token (some auth))) req =
          .ok { req with headers := req.headers.remove encHeader, body := plain } := by
        unfold openRequest
        rw [if_neg hasBody, if_neg (Nat.not_lt.mpr fits), decrypted]
      exact ⟨_, opened, rfl, bearerToken_congr (HeaderMap.get?_remove_ne (by decide) _)
        (HeaderMap.get?_remove_ne (by decide) _)⟩

end Encrypting

/-- A sealed response is received as the handler gave it. -/
theorem receive_sealResponse (nonce : Nonce) (key : Bytes) {answer : HttpResponse}
    (fits : answer.body.length ≤ bodyLimit) :
    receive prims key (sealResponse prims nonce key answer) = .ok (answer.status, answer.body) := by
  have declared : HeaderMap.toStr? (Text.utf8 encVersion) = some encVersion := by decide
  unfold sealResponse
  rw [if_neg (Nat.not_lt.mpr fits)]
  simp [receive, HeaderMap.text?, declared]

end MemberGateway

/-! ## Both ends -/

/-- A leader that answers through its link layer. -/
def Serves (network : Network) (leader : LeaderInfo) (passage : HttpRequest → Passage) : Prop :=
  ∀ req response, (passage req).response = some response →
    network (Text.trimEnd leader.linkBase '/') req = .answered response

/-- What the gateway encrypts reaches the handler as given, and its answer comes back. -/
theorem transparent_of_encrypting {prims : Primitives} {nonce memberNonce : Nonce}
    {next : HttpRequest → Option HttpResponse} {policy : LinkEncryptMode}
    {gateway : MemberGateway} {leader : LeaderInfo} {network : Network} {path auth : String}
    {value : Bytes} {body : Option Bytes} (linked : gateway.staticLeader = some leader)
    (serves : Serves network leader (linkEncMiddleware prims policy nonce next))
    (read : HeaderMap.toStr? value = some auth)
    (encrypts : gateway.encrypting path (some auth) = true) (policyOn : policy ≠ .off)
    (fits : (gateway.request prims memberNonce path (some auth) body).body.length ≤ bodyLimit) :
    ∃ inner,
      (linkEncMiddleware prims policy nonce next
        (gateway.request prims memberNonce path (some auth) body)).seen = some inner ∧
      inner.body = body.getD [] ∧
      Share.bearerToken inner.headers = some (MemberGateway.token (some auth)) ∧
      ∀ answer, next inner = some answer → answer.body.length ≤ bodyLimit →
        gateway.proxy prims memberNonce network path (some auth) body =
          .ok (answer.status, answer.body) := by
  obtain ⟨-, -, guarded, named⟩ := MemberGateway.encrypting_eq_true.mp encrypts
  have negotiated : Negotiated policy (gateway.request prims memberNonce path (some auth) body) :=
    ⟨MemberGateway.wantsEnc_request encrypts, guarded, policyOn⟩
  have held : Share.Link.bearerToken
      (gateway.request prims memberNonce path (some auth) body).headers =
        some (MemberGateway.token (some auth)) := MemberGateway.bearerToken_request encrypts read
  obtain ⟨inner, opened, sameBody, sameToken⟩ :=
    MemberGateway.openRequest_request encrypts fits
  have runs : linkEncMiddleware prims policy nonce next
      (gateway.request prims memberNonce path (some auth) body) = _ :=
    negotiated.runs held named opened
  refine ⟨inner, by rw [runs], sameBody, sameToken.trans held, ?_⟩
  intro answer answered small
  have picked : gateway.pickLeader = some leader := by
    rw [MemberGateway.pickLeader, linked]
  have back := serves (gateway.request prims memberNonce path (some auth) body)
    (sealResponse prims nonce
      (LinkCrypto.deriveKey prims (MemberGateway.token (some auth))) answer)
    (by rw [runs, answered]; rfl)
  simp only [MemberGateway.proxy, picked, back]
  rw [MemberGateway.encKey_eq encrypts, MemberGateway.receive_sealResponse nonce _ small]

/-- The SHA-256 digest of `token-1`. -/
def sampleKey : Bytes :=
  [63, 8, 170, 206, 18, 46, 226, 54, 132, 50, 193, 202, 35, 160, 73, 188, 100, 11, 175, 191, 0,
    253, 243, 58, 82, 66, 159, 56, 186, 18, 219, 249]

def requestNonce : Nonce := ⟨[1, 2, 3, 4, 5, 6, 7, 8, 9, 10, 11, 12], rfl⟩

def responseNonce : Nonce := ⟨[13, 14, 15, 16, 17, 18, 19, 20, 21, 22, 23, 24], rfl⟩

def zippedRequest : Bytes :=
  [31, 139, 8, 0, 0, 0, 0, 0, 0, 255, 171, 174, 5, 0, 67, 191, 166, 163, 2, 0, 0, 0]

def zippedResponse : Bytes :=
  [31, 139, 8, 0, 0, 0, 0, 0, 0, 255, 203, 207, 6, 0, 71, 221, 220, 121, 2, 0, 0, 0]

def sealedRequest : Bytes :=
  [79, 186, 85, 194, 230, 193, 217, 84, 79, 208, 138, 33, 153, 79, 115, 128, 124, 103, 241, 203,
    58, 2, 224, 111, 28, 102, 207, 104, 15, 189, 51, 159, 206, 140, 27, 186, 165, 35]

def sealedResponse : Bytes :=
  [228, 62, 225, 22, 60, 35, 243, 70, 70, 240, 167, 72, 33, 129, 81, 14, 135, 80, 228, 117, 147,
    167, 185, 42, 33, 84, 68, 241, 58, 34, 47, 113, 43, 197, 141, 253, 194, 220]

/-- A text with an empty tag. -/
def tagged (plain : Bytes) : Bytes := plain ++ List.replicate tagLen 0

def untag? (text : Bytes) : Option Bytes :=
  if text = tagged (text.take (text.length - tagLen)) then some (text.take (text.length - tagLen))
  else none

theorem untag?_eq_some {text plain : Bytes} : untag? text = some plain ↔ text = tagged plain := by
  unfold untag?
  constructor
  · intro read
    split at read
    · rename_i whole
      rwa [Option.some.inj read] at whole
    · cases read
  · rintro rfl
    have back : (tagged plain).take ((tagged plain).length - tagLen) = plain := by simp [tagged]
    rw [back, if_pos rfl]

/-- What the cipher really does to the two messages, in exchange for their tagged texts. -/
def known (key nonce : Bytes) : Equiv.Perm Bytes :=
  if key = sampleKey ∧ nonce = requestNonce.val then
    Equiv.swap (tagged zippedRequest) sealedRequest
  else if key = sampleKey ∧ nonce = responseNonce.val then
    Equiv.swap (tagged zippedResponse) sealedResponse
  else Equiv.refl Bytes

theorem length_swap {first second : Bytes} (same : first.length = second.length)
    (bytes : Bytes) : (Equiv.swap first second bytes).length = bytes.length := by
  rw [Equiv.swap_apply_def]
  split
  · rename_i isFirst
    rw [isFirst, same]
  · split
    · rename_i isSecond
      rw [isSecond, same]
    · rfl

theorem length_known (key nonce bytes : Bytes) : (known key nonce bytes).length = bytes.length := by
  unfold known
  split
  · exact length_swap (by decide) bytes
  · split
    · exact length_swap (by decide) bytes
    · rfl

/-- A cipher that seals the two messages as AES-256-GCM does. -/
def sampleCipher : NonceBox.Cipher Bytes UInt8 nonceLen tagLen where
  sealWith key nonce plain := known key nonce (tagged plain)
  openWith? key nonce sealing := untag? ((known key nonce).symm sealing)
  length_sealWith key nonce plain := by simp [length_known, tagged]
  openWith?_eq_some key nonce sealing plain := by
    rw [untag?_eq_some, Equiv.symm_apply_eq]

/-- The primitives as far as the two messages need them. -/
def samplePrimitives : Primitives where
  sha256 bytes := if bytes = Text.utf8 "token-1" then sampleKey else List.replicate 32 0
  aesGcm := sampleCipher
  gzip _ plain :=
    if plain = Text.utf8 "\x7b\x7d" then zippedRequest
    else if plain = Text.utf8 "ok" then zippedResponse
    else 0 :: plain
  gunzip bytes :=
    if bytes = zippedRequest then .ok (Text.utf8 "\x7b\x7d")
    else if bytes = zippedResponse then .ok (Text.utf8 "ok")
    else match bytes with
      | 0 :: plain => .ok plain
      | _ => .error "invalid gzip header"
  gunzip_gzip level plain := by
    split
    · rename_i isRequest
      rw [if_pos rfl, isRequest]
    · split
      · rename_i isResponse
        rw [if_neg (by decide), if_pos rfl, isResponse]
      · simp [zippedRequest, zippedResponse]

def sampleLeader : LeaderInfo where
  name := "share"
  apiPort := 39091
  sharePort := some 39092
  fingerprint := ""
  address := "203.0.113.7"
  lastSeen := 0
  online := true

def sampleGateway : MemberGateway where
  leaders := []
  staticLeader := some sampleLeader
  encrypt := .aesGcm

/-- A handler that answers every request alike. -/
def sampleHandler : HttpRequest → Option HttpResponse := fun _ =>
  some ⟨200, [("content-type", Text.utf8 "text/plain")], Text.utf8 "ok"⟩

def samplePassage : HttpRequest → Passage :=
  linkEncMiddleware samplePrimitives .enforce responseNonce sampleHandler

def sampleNetwork : Network := fun _ req =>
  match (samplePassage req).response with
  | some response => .answered response
  | none => .unreachable "connection closed before message completed"

def sampleRequest : HttpRequest :=
  sampleGateway.request samplePrimitives requestNonce "/v1/chat/completions"
    (some "Bearer token-1") (some (Text.utf8 "\x7b\x7d"))

def plainRequest (path : String) : HttpRequest := ⟨.post, path, [], []⟩

end AiPowerGateway.LanClient

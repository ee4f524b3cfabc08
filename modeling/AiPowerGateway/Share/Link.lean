import AiPowerGateway.Link.Crypto
import AiPowerGateway.Share.Http

/-!
# The link layer of the leader

`link_enc_middleware`, which stands in front of every route: it turns plain model
requests away when encryption is enforced, and opens and seals the bodies of the
requests that declare encryption.
-/

namespace AiPowerGateway.Share.Link

open AiPowerGateway.Link

def exemptPaths : List String := ["/auth/token", "/auth/rename"]

def bodyLimit : Nat := 64 * 1024 * 1024

/-- The copy of `bearer_token` that derives the key. -/
def bearerToken (headers : HeaderMap) : Option String :=
  match (headers.text? "authorization").bind (Text.stripLeading? · "Bearer ") with
  | some token => some (Text.trim token)
  | none => (headers.text? "x-api-key").map Text.trim

def jsonContentType : String × List UInt8 := ("content-type", Text.utf8 "application/json")

/-- The answer to a plain model request under enforcement. -/
def upgradeRequired : HttpResponse where
  status := 426
  headers := [("upgrade", Text.utf8 encHeader), jsonContentType]
  body := Text.utf8 ("\x7b\"error\":\x7b\"message\":\"link encryption is enforced: " ++
    "send request with " ++ encHeader ++ ": " ++ encVersion ++ "\"\x7d\x7d")

def badRequest (message : String) : HttpResponse where
  status := 400
  headers := [jsonContentType]
  body := Text.utf8 ("\x7b\"error\":\x7b\"message\":\"" ++ message ++ "\"\x7d\x7d")

def wantsEnc (req : HttpRequest) : Bool := req.headers.text? encHeader = some encVersion

/-- What became of a request; a handler that panics gives no response. -/
structure Passage where
  /-- The request that the handler saw, if it ran. -/
  seen : Option HttpRequest
  response : Option HttpResponse

def turnAway (response : HttpResponse) : Passage := ⟨none, some response⟩

def run (next : HttpRequest → Option HttpResponse) (req : HttpRequest) : Passage :=
  ⟨some req, next req⟩

/-- The request for the handler.  A `GET` has no body to open. -/
def openRequest (prims : Primitives) (key : Bytes) (req : HttpRequest) :
    Except HttpResponse HttpRequest :=
  if req.method = .get then .ok req
  else if bodyLimit < req.body.length then .error (badRequest "read encrypted body failed")
  else match LinkCrypto.decrypt prims key req.body with
    | .error error =>
        .error (badRequest ("decrypt failed: " ++ error.display ++ " (bad token or tampered)"))
    | .ok plain => .ok { req with headers := req.headers.remove encHeader, body := plain }

/-- The sealed response, with the other headers behind its own.  Of several values under one
name the loop over the headers passes on the first; the others come without their name. -/
def sealResponse (prims : Primitives) (nonce : Nonce) (key : Bytes) (response : HttpResponse) :
    HttpResponse :=
  if bodyLimit < response.body.length then badRequest "read response body failed"
  else
    { status := response.status
      headers := [(encHeader, Text.utf8 encVersion), jsonContentType] ++
        (response.headers.remove "content-length").firstValues
      body := LinkCrypto.new.encrypt prims nonce key response.body }

def linkEncMiddleware (prims : Primitives) (policy : LinkEncryptMode) (nonce : Nonce)
    (next : HttpRequest → Option HttpResponse) (req : HttpRequest) : Passage :=
  if ¬ wantsEnc req then
    if policy = .enforce ∧ Text.startsWith req.path "/v1/" ∧ req.path ∉ exemptPaths then
      turnAway upgradeRequired
    else run next req
  else if req.path ∈ exemptPaths then run next req
  else if policy = .off then run next req
  else
    let refusal := badRequest "encrypted request requires bearer token"
    match bearerToken req.headers with
    | none => turnAway refusal
    | some token =>
        if token = "" then turnAway refusal
        else
          let key := LinkCrypto.deriveKey prims token
          match openRequest prims key req with
          | .error refusal => turnAway refusal
          | .ok inner => ⟨some inner, (next inner).map (sealResponse prims nonce key)⟩

/-- The handler gets the request as it came, or with its body opened, or none at all. -/
theorem openRequest_cases (prims : Primitives) (key : Bytes) (req : HttpRequest) :
    (req.method = .get ∧ openRequest prims key req = .ok req) ∨
      (∃ message, openRequest prims key req = .error (badRequest message)) ∨
        ∃ plain, LinkCrypto.decrypt prims key req.body = .ok plain ∧
          openRequest prims key req =
            .ok { req with headers := req.headers.remove encHeader, body := plain } := by
  unfold openRequest
  by_cases bodiless : req.method = .get
  · exact .inl ⟨bodiless, if_pos bodiless⟩
  · rw [if_neg bodiless]
    by_cases large : bodyLimit < req.body.length
    · exact .inr (.inl ⟨_, if_pos large⟩)
    · rw [if_neg large]
      cases LinkCrypto.decrypt prims key req.body with
      | error error => exact .inr (.inl ⟨_, rfl⟩)
      | ok plain => exact .inr (.inr ⟨plain, rfl, rfl⟩)

end AiPowerGateway.Share.Link

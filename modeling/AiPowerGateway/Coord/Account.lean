import AiPowerGateway.LanClient.Gateway
import AiPowerGateway.Share.Host
import AiPowerGateway.Share.Switches

/-!
# The account of a node

A node is anonymous until its user logs in.  The session and the credentials of the device
are two JSON files; a switch of the configuration decides whether a gateway that starts
carries the account plugin.
-/

namespace AiPowerGateway.Coord

open Share (SerdeJson TextWrite)
open LanClient (Exchange)

/-! ## Sessions -/

structure AccountSession where
  username : Option String := none
  token : Option String := none
  deviceBound : Bool := false
  /-- The share id of this machine when it was bound. -/
  shareId : Option String := none
  deriving DecidableEq, Repr

namespace AccountSession

def isLoggedIn (session : AccountSession) : Bool := session.token.isSome

def summary (session : AccountSession) : String :=
  if session.isLoggedIn then
    let bound :=
      if session.deviceBound then
        ", 本机设备已绑定(shareId=" ++ session.shareId.getD "?" ++ ")"
      else ", 本机设备未绑定(可运行 account bind)"
    "已登录(账号: " ++ session.username.getD "?" ++ bound ++ ")"
  else "匿名模式(未登录)——全部核心功能可用,登录为可选增强"

/-- An optional text is left out when there is none. -/
def field (key : String) : Option String → Json.Fields
  | some text => [(key, .str text)]
  | none => []

def toJson (session : AccountSession) : Json :=
  .obj (field "username" session.username ++ field "token" session.token ++
    [("device_bound", .bool session.deviceBound)] ++ field "share_id" session.shareId)

/-- A missing text and `null` are no text; anything but a text is an error. -/
def optionalText? : Option Json → Option (Option String)
  | none | some .null => some none
  | some (.str text) => some (some text)
  | some _ => none

/-- A missing flag is false; anything but a flag is an error. -/
def flag? : Option Json → Option Bool
  | none => some false
  | some (.bool flag) => some flag
  | some _ => none

/-- The fields of an object, or all of them in order. -/
def ofJson? : Json → Option AccountSession
  | .obj fields => do
      let username ← optionalText? ((Json.obj fields).get? "username")
      let token ← optionalText? ((Json.obj fields).get? "token")
      let deviceBound ← flag? ((Json.obj fields).get? "device_bound")
      let shareId ← optionalText? ((Json.obj fields).get? "share_id")
      some { username, token, deviceBound, shareId }
  | .arr [username, token, deviceBound, shareId] => do
      let username ← optionalText? (some username)
      let token ← optionalText? (some token)
      let deviceBound ← flag? (some deviceBound)
      let shareId ← optionalText? (some shareId)
      some { username, token, deviceBound, shareId }
  | _ => none

theorem ofJson?_toJson (session : AccountSession) : ofJson? session.toJson = some session := by
  obtain ⟨username, token, deviceBound, shareId⟩ := session
  cases username <;> cases token <;> cases shareId <;> rfl

theorem fractionFree_toJson (session : AccountSession) : session.toJson.fractionFree := by
  obtain ⟨username, token, deviceBound, shareId⟩ := session
  cases username <;> cases token <;> cases shareId <;> rfl

end AccountSession

/-- What the coordination server issued to this machine. -/
structure DeviceSession where
  deviceToken : String
  shareId : String
  deriving DecidableEq, Repr

namespace DeviceSession

def toJson (device : DeviceSession) : Json :=
  .obj [("device_token", .str device.deviceToken), ("share_id", .str device.shareId)]

def ofJson? : Json → Option DeviceSession
  | .obj fields => do
      let deviceToken ← (Json.obj fields).text? "device_token"
      let shareId ← (Json.obj fields).text? "share_id"
      some { deviceToken, shareId }
  | .arr [.str deviceToken, .str shareId] => some { deviceToken, shareId }
  | _ => none

@[simp] theorem ofJson?_toJson (device : DeviceSession) : ofJson? device.toJson = some device := rfl

end DeviceSession

/-! ## Stores -/

section Stores

variable (serde : SerdeJson)

/-- What a file of JSON holds; nothing when it is missing or damaged. -/
def readFile {α : Type} (ofJson? : Json → Option α) (file : Option String) : Option α :=
  (file.bind fun text => (serde.fromStr text).toOption).bind ofJson?

/-- The source's `AccountStore::load`. -/
def AccountStore.load (file : Option String) : AccountSession :=
  (readFile serde AccountSession.ofJson? file).getD {}

/-- The source's `DeviceStore::load`. -/
def DeviceStore.load (file : Option String) : Option DeviceSession :=
  readFile serde DeviceSession.ofJson? file

def AccountStore.save (written : TextWrite) (session : AccountSession) (file : Option String) :
    Option String :=
  written.content file (serde.toString session.toJson)

def DeviceStore.save (written : TextWrite) (device : DeviceSession) (file : Option String) :
    Option String :=
  written.content file (serde.toString device.toJson)

/-- The source's `AccountStore::clear`. -/
def AccountStore.clear (removed : Bool) (file : Option String) : Option String :=
  if removed then none else file

theorem readFile_toString {α : Type} {ofJson? : Json → Option α} {value : Json} {content : α}
    (exact : value.fractionFree) (reads : ofJson? value = some content) :
    readFile serde ofJson? (some (serde.toString value)) = some content := by
  rw [readFile, Option.bind_some, serde.fromStr_toString value exact]
  exact reads

@[simp] theorem AccountStore.load_none : AccountStore.load serde none = {} := rfl

@[simp] theorem AccountStore.load_toString (session : AccountSession) :
    AccountStore.load serde (some (serde.toString session.toJson)) = session := by
  rw [AccountStore.load, readFile_toString serde session.fractionFree_toJson
    session.ofJson?_toJson, Option.getD_some]

@[simp] theorem DeviceStore.load_toString (device : DeviceSession) :
    DeviceStore.load serde (some (serde.toString device.toJson)) = some device :=
  readFile_toString serde rfl device.ofJson?_toJson

end Stores

/-! ## The client of the account server -/

inductive CoordError where
  | http (error : String)
  | relay (status : Nat) (body : String)
  | unreachable (error : String)
  | missingField (name : String)
  | notRegistered
  deriving DecidableEq, Repr

def CoordError.text : CoordError → String
  | .http error => "http error: " ++ error
  | .relay status body => "relay returned " ++ toString status ++ ": " ++ body
  | .unreachable error => "relay unreachable: " ++ error
  | .missingField name => "missing response field: " ++ name
  | .notRegistered => "device not registered"

structure LoginResponse where
  token : String
  deviceBound : Bool
  deriving DecidableEq, Repr

def LoginResponse.ofJson? : Json → Option LoginResponse
  | .obj fields => do
      let token ← (Json.obj fields).text? "token"
      let deviceBound ← AccountSession.flag? ((Json.obj fields).get? "device_bound")
      some { token, deviceBound }
  | .arr [.str token] => some { token, deviceBound := false }
  | .arr [.str token, .bool deviceBound] => some { token, deviceBound }
  | _ => none

namespace AccountClient

/-- The body of a successful answer. -/
def answerText : Exchange → Except CoordError String
  | .unreachable error => .error (.unreachable error)
  | .cutOff error => .error (.http error)
  | .answered response =>
      let body := Text.fromUtf8Lossy response.body
      if 200 ≤ response.status ∧ response.status < 300 then .ok body
      else .error (.relay response.status body)

def register (exchange : Exchange) : Except CoordError Unit :=
  (answerText exchange).map fun _ => ()

def login (serde : SerdeJson) (exchange : Exchange) : Except CoordError LoginResponse := do
  let body ← answerText exchange
  match ((serde.fromStr body).toOption).bind LoginResponse.ofJson? with
  | some parsed => .ok parsed
  | none => .error (.missingField "login")

/-- Only asked with a session. -/
def bindDevice (session : Option String) (exchange : String → Exchange) :
    Except CoordError Unit :=
  match session with
  | none => .error .notRegistered
  | some token => (answerText (exchange token)).map fun _ => ()

end AccountClient

end AiPowerGateway.Coord

import AiPowerGateway.Share.Api

/-!
# Joining, renaming, banning and unbanning

`auth_token` and `auth_rename`, by which a machine joins and names itself, and the arms
`revoke`, `unban` and `rename` of `api_control`, by which the panel does it.
-/

namespace AiPowerGateway.Share

variable {τ : Type}

/-- How `auth_token` gets its session: `force` drops the machine's tokens first. -/
def issueOrRotate (now : UInt64) (genToken : String) (dropped issued : WriteOutcome)
    (ip : String) (body : Json) (auth : AuthService) :
    Except RuntimeError Session × AuthService :=
  let machine := body.textOr "machineName" ""
  let display := body.textOr "displayName" ""
  if ((body.get? "force").bind Json.asBool?).getD false then
    auth.rotate now genToken dropped issued machine display ip
  else auth.issue now genToken issued machine display ip

/-- `auth_token` for a client at the address `ip`. -/
def authToken (host : Host) (now : UInt64) (genToken : String) (dropped issued : WriteOutcome)
    (ip : String) (body : Json) (state : ApiState τ) : Reply × ApiState τ :=
  if ¬ state.sharing then (errorReply host 503 "sharing paused", state)
  else
    let machine := body.textOr "machineName" ""
    let display := body.textOr "displayName" ""
    if machine = "" then (errorReply host 400 "machineName required", state)
    else
      match issueOrRotate now genToken dropped issued ip body state.auth with
      | (.ok session, auth) =>
          (jsonReply host 200 (.obj [("token", .str session.token),
              ("expiresAt", .num (.posInt session.expiresAt))]),
            { state with
              auth := auth
              members := state.members.upsert machine display ip now })
      | (.error _, auth) => (errorReply host 401 "banned", { state with auth := auth })

/-- `auth_rename`; whether the machine is registered makes no difference to the answer. -/
def authRename (host : Host) (now : UInt64) (headers : HeaderMap) (body : Json)
    (state : ApiState τ) : Reply × ApiState τ :=
  match bearerToken headers with
  | none => (Refusal.unauthorized.reply host, state)
  | some token =>
      match state.auth.verify now token with
      | none => (Refusal.unauthorized.reply host, state)
      | some session =>
          let newName := body.textOr "displayName" ""
          if newName = "" then (errorReply host 400 "displayName required", state)
          else
            (jsonReply host 200 (.obj [("ok", .bool true)]),
              { state with members := (state.members.rename session.machineName newName).2 })

/-- What the panel posts to `/api/control` for a row of its member list. -/
def panelRequest (action memberId ip : String) : Json :=
  .obj [("action", .str action), ("memberId", .str memberId), ("ip", .str ip)]

/-- `api_control` for the action `revoke`. -/
def controlRevoke (host : Host) (banWritten sessionsWritten : WriteOutcome) (body : Json)
    (state : ApiState τ) : Reply × ApiState τ :=
  let memberId := body.textOr "memberId" ""
  let ip := body.textOr "ip" ""
  (jsonReply host 200 (.obj [("ok", .bool true), ("banned", .bool true)]),
    { state with
      auth := state.auth.revokeMember banWritten sessionsWritten memberId ip
      members := state.members.markOffline memberId })

/-- `api_control` for the action `unban`. -/
def controlUnban (host : Host) (outcome : WriteOutcome) (body : Json) (state : ApiState τ) :
    Reply × ApiState τ :=
  let memberId := body.textOr "memberId" ""
  if memberId = "" then (errorReply host 400 "memberId required", state)
  else
    let ip := body.textOr "ip" ""
    (jsonReply host 200 (.obj [("ok", .bool true), ("banned", .bool false)]),
      { state with auth := state.auth.unban outcome memberId ip })

/-- `api_control` for the action `rename`. -/
def controlRename (host : Host) (body : Json) (state : ApiState τ) : Reply × ApiState τ :=
  let memberId := body.textOr "memberId" ""
  let displayName := body.textOr "displayName" ""
  if memberId = "" ∨ displayName = "" then
    (errorReply host 400 "memberId and displayName required", state)
  else
    match state.members.rename memberId displayName with
    | (false, _) => (errorReply host 400 "member not found", state)
    | (true, members) =>
        (jsonReply host 200 (.obj [("ok", .bool true)]), { state with members := members })

end AiPowerGateway.Share

import AiPowerGateway.Protocols.Aead
import AiPowerGateway.Share.CandidateLoop
import AiPowerGateway.Share.Channel

/-!
# The switches of the panel

`api_control` with its arms for sharing, for the link layer and for the load policy.  The
last two are saved in files of their own, which a new process prefers to its configuration.
-/

namespace AiPowerGateway.Share

open AiPowerGateway.Link (LinkEncryptMode)

/-! ## Files -/

/-- How the write of a text ends; one that is interrupted leaves a front part. -/
inductive TextWrite where
  | done
  | untouched
  | cut (length : Nat)
  deriving DecidableEq, Repr

def TextWrite.content (write : TextWrite) (old : Option String) (text : String) :
    Option String :=
  match write with
  | .done => some text
  | .untouched => old
  | .cut length => some (String.ofList (text.toList.take length))

structure SwitchFiles where
  /-- `link-encrypt.json` -/
  linkEncrypt : Option String := none
  /-- The readable content of `load-policy.json`. -/
  loadPolicy : Option Bool := none
  deriving DecidableEq, Repr

/-- The service of a process, with the policy of its link layer. -/
structure Running where
  api : ApiState UInt64
  linkPolicy : LinkEncryptMode

/-- The source's `assemble`, over what was loaded from the other files. -/
def assemble (linkEncrypt : LinkEncryptMode) (files : SwitchFiles) (loaded : ApiState UInt64) :
    Running where
  api := { loaded with
    sharing := true
    policy := { enabled := files.loadPolicy.getD true } }
  linkPolicy :=
    match files.linkEncrypt with
    | some text => .parse (Text.trim text)
    | none => linkEncrypt

/-! ## `api_control` -/

/-- A request of the panel, with what it meets. -/
structure ControlCall where
  body : Json
  host : Host
  banWritten : WriteOutcome
  sessionsWritten : WriteOutcome
  linkWritten : TextWrite
  policyWritten : WriteOutcome
  /-- What the system says to switching the autostart. -/
  autostart : Bool → Except String Unit

namespace ControlCall

def action (call : ControlCall) : String := call.body.textOr "action" ""

/-- The mode that the arm `link-encrypt` is asked for; none of blanks only. -/
def mode? (call : ControlCall) : Option LinkEncryptMode :=
  let mode := call.body.textOr "mode" ""
  if Text.trim mode = "" then none else some (.parse mode)

def enabledOr (call : ControlCall) (fallback : Bool) : Bool :=
  ((call.body.get? "enabled").bind Json.asBool?).getD fallback

def setSharing (call : ControlCall) (sharing : Bool) (running : Running) : Reply × Running :=
  (jsonReply call.host 200 (.obj [("ok", .bool true), ("sharing", .bool sharing)]),
    { running with api := { running.api with sharing := sharing } })

def controlAutostart (call : ControlCall) : Reply :=
  match call.autostart (call.enabledOr false) with
  | .ok () =>
      jsonReply call.host 200
        (.obj [("ok", .bool true), ("autostart", .bool (call.enabledOr false))])
  | .error message => errorReply call.host 400 ("autostart failed: " ++ message)

def controlLinkEncrypt (call : ControlCall) (files : SwitchFiles) (running : Running) :
    Reply × SwitchFiles × Running :=
  match call.mode? with
  | none =>
      (errorReply call.host 400 "mode must be one of: off | aes-gcm | enforce", files, running)
  | some mode =>
      (jsonReply call.host 200 (.obj [("ok", .bool true), ("linkEncrypt", .str mode.asStr)]),
        { files with linkEncrypt := call.linkWritten.content files.linkEncrypt mode.asStr },
        { running with linkPolicy := mode })

def controlLoadPolicy (call : ControlCall) (files : SwitchFiles) (running : Running) :
    Reply × SwitchFiles × Running :=
  let enabled := call.enabledOr true
  let policy := { running.api.policy with enabled := enabled }
  (jsonReply call.host 200 (.obj [("ok", .bool true), ("loadPolicy", .bool enabled),
      ("miningHits", .num (.posInt policy.miningHits)),
      ("deepfakeHits", .num (.posInt policy.deepfakeHits))]),
    { files with loadPolicy := call.policyWritten.content files.loadPolicy enabled },
    { running with api := { running.api with policy := policy } })

/-- An arm that only changes the service. -/
def onApi (files : SwitchFiles) (running : Running) (arm : Reply × ApiState UInt64) :
    Reply × SwitchFiles × Running :=
  (arm.1, files, { running with api := arm.2 })

/-- The source's `api_control`. -/
def apiControl (call : ControlCall) (files : SwitchFiles) (running : Running) :
    Reply × SwitchFiles × Running :=
  match call.action with
  | "revoke" =>
      onApi files running
        (controlRevoke call.host call.banWritten call.sessionsWritten call.body running.api)
  | "unban" => onApi files running (controlUnban call.host call.banWritten call.body running.api)
  | "rename" => onApi files running (controlRename call.host call.body running.api)
  | "pause" => ((call.setSharing false running).1, files, (call.setSharing false running).2)
  | "resume" => ((call.setSharing true running).1, files, (call.setSharing true running).2)
  | "autostart" => (call.controlAutostart, files, running)
  | "link-encrypt" => call.controlLinkEncrypt files running
  | "load-policy" => call.controlLoadPolicy files running
  | _ => (errorReply call.host 400 "unknown action", files, running)

end ControlCall

/-! ## Processes that come and go -/

/-- The files, and the process that runs over them, if there is one. -/
structure SwitchWorld where
  files : SwitchFiles := {}
  running : Option Running := none

inductive SwitchEvent where
  | started (configured : LinkEncryptMode) (loaded : ApiState UInt64)
  | stopped
  | control (call : ControlCall)
  | channel (call : ChannelCall)

/-- The request as it meets a process. -/
def Running.receives (running : Running) (call : ChannelCall) : ChannelCall :=
  { call with policy := running.linkPolicy }

namespace SwitchWorld

def step : SwitchEvent → SwitchWorld → SwitchWorld
  | .started configured loaded, world =>
      { world with running := some (assemble configured world.files loaded) }
  | .stopped, world => { world with running := none }
  | .control call, world =>
      match world.running with
      | none => world
      | some running =>
          let (_, files, after) := call.apiControl world.files running
          ⟨files, some after⟩
  | .channel call, world =>
      { world with
        running := world.running.map fun running =>
          { running with api := (running.receives call).step running.api } }

def after (events : List SwitchEvent) (world : SwitchWorld) : SwitchWorld :=
  Systems.EventRuns.final step events world

end SwitchWorld

/-- The panel talks to a running process, and what it saves is written. -/
def SwitchEvent.Saved : SwitchEvent → SwitchWorld → Prop
  | .control call, world =>
      world.running.isSome ∧ call.linkWritten = .done ∧ call.policyWritten = .done
  | _, _ => True

/-- What the panel was told last, and how the last process was configured.  The modes of the
link and of the filter outlast a process; a pause is only meant for the one that runs. -/
structure Wanted where
  /-- What was chosen since the last start, if anything was. -/
  sharing : Option Bool := none
  link : Option LinkEncryptMode := none
  configured : LinkEncryptMode := .aesGcm
  loadPolicy : Bool := true

namespace Wanted

/-- The mode of the panel; as long as it chose none, that of the configuration. -/
def mode (wanted : Wanted) : LinkEncryptMode := wanted.link.getD wanted.configured

/-- A process shares unless it was paused. -/
def shares (wanted : Wanted) : Bool := wanted.sharing.getD true

def step : SwitchEvent → Wanted → Wanted
  | .started configured _, wanted => { wanted with sharing := none, configured := configured }
  | .stopped, wanted => wanted
  | .control call, wanted =>
      match call.action with
      | "pause" => { wanted with sharing := some false }
      | "resume" => { wanted with sharing := some true }
      | "link-encrypt" => { wanted with link := call.mode?.or wanted.link }
      | "load-policy" => { wanted with loadPolicy := call.enabledOr true }
      | _ => wanted
  | .channel _, wanted => wanted

def after (events : List SwitchEvent) (wanted : Wanted) : Wanted :=
  Systems.EventRuns.final step events wanted

end Wanted

/-! ## The switches stand as wanted -/

/-- A process behaves as the panel wants it. -/
structure Running.Obeys (running : Running) (wanted : Wanted) : Prop where
  sharing : running.api.sharing = wanted.shares
  link : running.linkPolicy = wanted.mode
  loadPolicy : running.api.policy.enabled = wanted.loadPolicy

/-- The files hold what the panel wants, and a process behaves like it. -/
structure SwitchWorld.Obeys (world : SwitchWorld) (wanted : Wanted) : Prop where
  link : world.files.linkEncrypt = wanted.link.map LinkEncryptMode.asStr
  loadPolicy : world.files.loadPolicy.getD true = wanted.loadPolicy
  running : ∀ running, world.running = some running → running.Obeys wanted

theorem obeys_new : SwitchWorld.Obeys {} {} where
  link := rfl
  loadPolicy := rfl
  running running isRunning := by cases isRunning

section Obeys

variable {world : SwitchWorld} {wanted : Wanted} {running : Running}

theorem SwitchWorld.Obeys.assemble (obeys : world.Obeys wanted) (configured : LinkEncryptMode)
    (loaded : ApiState UInt64) :
    (assemble configured world.files loaded).Obeys
      { wanted with sharing := none, configured := configured } where
  sharing := rfl
  link := by
    simp only [Share.assemble, obeys.link]
    cases chosen : wanted.link with
    | none => simp [Wanted.mode]
    | some mode => simp [Wanted.mode, LinkEncryptMode.parse_trim_asStr]
  loadPolicy := obeys.loadPolicy

/-- The arms that have nothing to do with the switches leave them alone. -/
theorem switches_controlRevoke (call : ControlCall) (api : ApiState UInt64) :
    (controlRevoke call.host call.banWritten call.sessionsWritten call.body api).2.sharing =
        api.sharing ∧
      (controlRevoke call.host call.banWritten call.sessionsWritten call.body api).2.policy =
        api.policy := ⟨rfl, rfl⟩

theorem switches_controlUnban (call : ControlCall) (api : ApiState UInt64) :
    (controlUnban call.host call.banWritten call.body api).2.sharing = api.sharing ∧
      (controlUnban call.host call.banWritten call.body api).2.policy = api.policy := by
  unfold controlUnban
  simp only
  split <;> exact ⟨rfl, rfl⟩

theorem switches_controlRename (call : ControlCall) (api : ApiState UInt64) :
    (controlRename call.host call.body api).2.sharing = api.sharing ∧
      (controlRename call.host call.body api).2.policy = api.policy := by
  unfold controlRename
  simp only
  split
  · exact ⟨rfl, rfl⟩
  · split <;> exact ⟨rfl, rfl⟩

theorem Running.Obeys.onApi (obeys : running.Obeys wanted) {api : ApiState UInt64}
    (same : api.sharing = running.api.sharing ∧ api.policy = running.api.policy) :
    Running.Obeys { running with api := api } wanted where
  sharing := same.1.trans obeys.sharing
  link := obeys.link
  loadPolicy := (congrArg LoadPolicy.enabled same.2).trans obeys.loadPolicy

/-- What `api_control` does to the files and the process. -/
theorem SwitchWorld.Obeys.control (obeys : world.Obeys wanted)
    (isRunning : world.running = some running) {call : ControlCall}
    (linkWritten : call.linkWritten = .done) (policyWritten : call.policyWritten = .done) :
    SwitchWorld.Obeys
      ⟨(call.apiControl world.files running).2.1, some (call.apiControl world.files running).2.2⟩
      (Wanted.step (.control call) wanted) := by
  have obeyed := obeys.running running isRunning
  have kept {after : Running} (same : after.Obeys wanted) :
      SwitchWorld.Obeys ⟨world.files, some after⟩ wanted :=
    ⟨obeys.link, obeys.loadPolicy, fun other isOther => Option.some.inj isOther ▸ same⟩
  unfold ControlCall.apiControl Wanted.step
  simp only
  split
  · next act =>
    simp only [act]
    exact kept (obeyed.onApi (switches_controlRevoke call running.api))
  · next act =>
    simp only [act]
    exact kept (obeyed.onApi (switches_controlUnban call running.api))
  · next act =>
    simp only [act]
    exact kept (obeyed.onApi (switches_controlRename call running.api))
  · next act =>
    simp only [act]
    exact ⟨obeys.link, obeys.loadPolicy, fun other isOther =>
      Option.some.inj isOther ▸ ⟨rfl, obeyed.link, obeyed.loadPolicy⟩⟩
  · next act =>
    simp only [act]
    exact ⟨obeys.link, obeys.loadPolicy, fun other isOther =>
      Option.some.inj isOther ▸ ⟨rfl, obeyed.link, obeyed.loadPolicy⟩⟩
  · next act =>
    simp only [act]
    exact kept obeyed
  · next act =>
    simp only [act, ControlCall.controlLinkEncrypt]
    cases call.mode? with
    | none => exact kept obeyed
    | some mode =>
        refine ⟨?_, obeys.loadPolicy, fun other isOther => Option.some.inj isOther ▸ ?_⟩
        · simp [linkWritten, TextWrite.content]
        · exact ⟨obeyed.sharing, by simp [Wanted.mode], obeyed.loadPolicy⟩
  · next act =>
    simp only [act, ControlCall.controlLoadPolicy]
    refine ⟨obeys.link, ?_, fun other isOther => Option.some.inj isOther ▸ ?_⟩
    · simp [policyWritten, WriteOutcome.content]
    · exact ⟨obeyed.sharing, obeyed.link, rfl⟩
  · next unknown =>
    split <;> first | contradiction | exact kept obeyed

theorem SwitchWorld.Obeys.step (obeys : world.Obeys wanted) {event : SwitchEvent}
    (saved : event.Saved world) : (world.step event).Obeys (wanted.step event) := by
  cases event with
  | started configured loaded =>
      refine ⟨obeys.link, obeys.loadPolicy, fun running isRunning => ?_⟩
      rw [← Option.some.inj isRunning]
      exact obeys.assemble configured loaded
  | stopped =>
      exact ⟨obeys.link, obeys.loadPolicy, fun running isRunning => by cases isRunning⟩
  | control call =>
      obtain ⟨runs, linkWritten, policyWritten⟩ := saved
      obtain ⟨running, isRunning⟩ := Option.isSome_iff_exists.mp runs
      have after := obeys.control isRunning linkWritten policyWritten
      rw [SwitchWorld.step, isRunning]
      exact after
  | channel call =>
      refine ⟨obeys.link, obeys.loadPolicy, fun after isAfter => ?_⟩
      obtain ⟨running, isRunning, rfl⟩ := Option.map_eq_some_iff.mp isAfter
      have obeyed := obeys.running running isRunning
      have same := (running.receives call).sameSettings_step running.api
      exact ⟨same.sharing.trans obeyed.sharing, obeyed.link, same.policy.trans obeyed.loadPolicy⟩

theorem SwitchWorld.Obeys.after (obeys : world.Obeys wanted) {events : List SwitchEvent}
    (saved : Systems.EventRuns.Fitting SwitchWorld.step SwitchEvent.Saved events world) :
    (world.after events).Obeys (wanted.after events) := by
  induction events generalizing world wanted with
  | nil => exact obeys
  | cons event events ih => exact ih (obeys.step saved.1) saved.2

end Obeys

/-! ## Enforcement lasts -/

/-- A plain request for a model route gets no further than the link layer. -/
theorem passage_enforced {running : Running} (enforces : running.linkPolicy = .enforce)
    {call : ChannelCall} (plain : Link.wantsEnc call.req = false)
    (isModel : Text.startsWith call.req.path "/v1/" = true) :
    (running.receives call).passage running.api = Link.turnAway Link.upgradeRequired := by
  have covered : call.req.path ∉ Link.exemptPaths := by
    intro exempt
    simp only [Link.exemptPaths, List.mem_cons, List.not_mem_nil, or_false] at exempt
    rcases exempt with path | path <;> (rw [path] at isModel; revert isModel; decide)
  rw [ChannelCall.passage, Link.linkEncMiddleware, if_pos (by simp [Running.receives, plain]),
    if_pos ⟨enforces, isModel, covered⟩]

/--
In every run whose saves succeed, a process encrypts and filters as the panel told it last,
also before it was started, and shares as the panel has told it since its start; where the
panel has said nothing it shares and filters, with the link layer of its configuration.
-/
theorem switches_stand {events : List SwitchEvent}
    (saved : Systems.EventRuns.Fitting SwitchWorld.step SwitchEvent.Saved events {})
    {running : Running} (isRunning : (SwitchWorld.after events {}).running = some running) :
    running.Obeys (Wanted.after events {}) :=
  (obeys_new.after saved).running running isRunning

/--
In every run whose saves succeed, once the panel has chosen to enforce encryption and until
it chooses something else, no plain request for a model route reaches a handler: whatever the
members and the panel ask for in between, and however often the leader is stopped and started
with whatever configuration.
-/
theorem enforcement_lasts {events : List SwitchEvent}
    (saved : Systems.EventRuns.Fitting SwitchWorld.step SwitchEvent.Saved events {})
    (chosen : (Wanted.after events {}).link = some .enforce) {running : Running}
    (isRunning : (SwitchWorld.after events {}).running = some running) {call : ChannelCall}
    (plain : Link.wantsEnc call.req = false)
    (isModel : Text.startsWith call.req.path "/v1/" = true) :
    (running.receives call).passage running.api = Link.turnAway Link.upgradeRequired ∧
      (running.receives call).step running.api = running.api := by
  have obeyed := (obeys_new.after saved).running running isRunning
  have enforces : running.linkPolicy = .enforce := by
    rw [obeyed.link, Wanted.mode, chosen, Option.getD_some]
  have passage := passage_enforced enforces plain isModel
  refine ⟨passage, ?_⟩
  rw [ChannelCall.step, passage]
  rfl

/-- A request of the panel whose saves succeed. -/
def panelCall (body : Json) : ControlCall where
  body := body
  host := .compact
  banWritten := .done
  sessionsWritten := .done
  linkWritten := .done
  policyWritten := .done
  autostart _ := .ok ()

theorem null_unrefused : ∀ (_ : HttpRequest) response,
    (.ok .null : Except HttpResponse Json) = .error response → Refused response := by
  intro req response refused
  cases refused

theorem body_unrefused : ∀ (req : HttpRequest) response,
    (.ok req.body : Except HttpResponse (List UInt8)) = .error response →
      Refused response := by
  intro req response refused
  cases refused

/-- Extractors that refuse nothing. -/
def plainExtractors : Extractors where
  json _ := .ok .null
  bytes req := .ok req.body
  json_refused := null_unrefused
  bytes_refused := body_unrefused

/-- A request of a member without any header. -/
def plainCall (path : String) : ChannelCall where
  req := ⟨.post, path, [], []⟩
  ip := "192.0.2.1"
  host := .compact
  extract := plainExtractors
  net _ := .sendFailed "refused"
  now := 0
  genToken := "token"
  dropped := .done
  issued := .done
  prims := ⟨id, NonceBox.Cipher.tagging 12 (List.replicate 16 0), fun _ => id, .ok, fun _ _ => rfl⟩
  nonce := ⟨List.replicate 12 0, by decide⟩
  policy := .off

/-- The panel enforces encryption, and the leader is started anew without it. -/
def enforcedEvents : List SwitchEvent :=
  [.started .aesGcm (smallService [] []),
    .control (panelCall (.obj [("action", .str "link-encrypt"), ("mode", .str "enforce")])),
    .stopped, .started .off (smallService [] [])]

theorem saved_enforcedEvents :
    Systems.EventRuns.Fitting SwitchWorld.step SwitchEvent.Saved enforcedEvents {} :=
  ⟨trivial, ⟨rfl, rfl, rfl⟩, trivial, trivial, trivial⟩

theorem switches_stand_restart : ∃ running,
    (SwitchWorld.after enforcedEvents {}).running = some running ∧ running.linkPolicy = .enforce :=
  ⟨_, rfl, (switches_stand saved_enforcedEvents rfl).link⟩

theorem enforcement_lasts_restart : ∃ running,
    (SwitchWorld.after enforcedEvents {}).running = some running ∧
      (running.receives (plainCall "/v1/messages")).passage running.api =
        Link.turnAway Link.upgradeRequired :=
  ⟨_, rfl, (@enforcement_lasts enforcedEvents saved_enforcedEvents (by decide) _ rfl
    (plainCall "/v1/messages") (by decide) (by decide)).1⟩

end AiPowerGateway.Share

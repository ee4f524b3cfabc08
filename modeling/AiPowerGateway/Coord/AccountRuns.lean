import AiPowerGateway.Coord.Account
import AiPowerGateway.Systems.EventRuns

/-!
# The account commands

`account status`, `enable`, `disable`, `register`, `login`, `bind` and `logout` on the files
of a node, between starts of the gateway.
-/

namespace AiPowerGateway.Coord

open Share (SerdeJson TextWrite)
open LanClient (Exchange)

structure AccountFiles where
  /-- `account.json` -/
  account : Option String := none
  /-- `device.json` -/
  device : Option String := none
  /-- `account.enabled` of the configuration. -/
  enabled : Option String := none
  /-- `account.base_url` of the configuration. -/
  baseUrl : Option String := none
  deriving DecidableEq, Repr

inductive AccountCmd where
  | status
  | enable
  | disable
  | register (username email : String)
  | login (username otp : String)
  | bind
  | logout
  deriving DecidableEq, Repr

/-- A command with what it meets. -/
structure AccountCall where
  cmd : AccountCmd
  /-- `AIPOWERLINK_ACCOUNT_URL` -/
  accountUrl : Option String := none
  /-- `AIPOWERLINK_COORD_URL` -/
  coordUrl : Option String := none
  configOpens : Bool := true
  configSet : Bool := true
  /-- What the account server answers, by its URL and the bearer of the request. -/
  server : String → Option String → Exchange
  written : TextWrite := .done
  removed : Bool := true
  /-- What the system says when a write or a removal fails. -/
  ioError : String := ""

/-- What a command leaves and shows; an error ends the process with status 1. -/
structure AccountOutcome where
  files : AccountFiles
  printed : List String := []
  error : Option String := none
  /-- The session token that the account server was shown. -/
  bearer : Option String := none

namespace AccountCall

variable (serde : SerdeJson) (call : AccountCall) (files : AccountFiles)

/-- The server: of the environment, else of the configuration. -/
def baseUrl : Option String :=
  ((call.accountUrl.filter (· ≠ "")).or (call.coordUrl.filter (· ≠ ""))).or
    (if call.configOpens then files.baseUrl else none)

def enabled : Bool := call.configOpens && files.enabled = some "true"

/-- `account.enabled`, where the configuration lets itself be written. -/
def setEnabled (value : String) : AccountFiles :=
  if call.configOpens && call.configSet then { files with enabled := some value } else files

def unconfigured : String :=
  "error: 未配置账号服务器(AIPOWERLINK_ACCOUNT_URL / AIPOWERLINK_COORD_URL / account.base_url)"

def status : AccountOutcome where
  files
  printed :=
    ["account: " ++ (AccountStore.load serde files.account).summary,
      "account plugin: " ++ (if call.enabled files then "enabled" else "disabled") ++
        " (登录为可选增强)",
      match call.baseUrl files with
      | some url => "account server: " ++ url
      | none => "account server: (未配置 — 设 AIPOWERLINK_ACCOUNT_URL / AIPOWERLINK_COORD_URL " ++
          "或 config set account.base_url)"]

def enable : AccountOutcome where
  files := if call.enabled files then files else call.setEnabled files "true"
  printed := ["account plugin: enabled — 登录为可选增强(account register / login / bind)"]

/-- Switching the plugin off ends the session as well. -/
def disable : AccountOutcome where
  files := call.setEnabled
    { files with account := AccountStore.clear call.removed files.account } "false"
  printed := ["account plugin: disabled — 已登出,恢复匿名模式,全部核心功能可用"]

def register (email : String) : AccountOutcome :=
  match call.baseUrl files with
  | none => { files, error := some unconfigured }
  | some url =>
      let note := if call.enabled files then []
        else ["note: 插件未启用 — 注册后可 account login,并 account enable 保持登录增强"]
      match AccountClient.register (call.server url none) with
      | .ok () =>
          { files, printed := note ++
              ["account: 注册请求已发送 — 动态密码已发往 " ++ email ++ "(邮箱 OTP)"] }
      | .error failure => { files, printed := note, error := some ("error: " ++ failure.text) }

/-- The answer to a login; there is none without a server. -/
def answered? : Option (Except CoordError LoginResponse) :=
  (call.baseUrl files).map fun url => AccountClient.login serde (call.server url none)

/-- Save a session, or say why not. -/
def saved (session : AccountSession) (files : AccountFiles) (note : List String)
    (printed : String) : AccountOutcome where
  files := { files with account := AccountStore.save serde call.written session files.account }
  printed := if call.written = .done then note ++ [printed] else note
  error := if call.written = .done then none else some ("error: 会话保存失败: " ++ call.ioError)

/-- The session after a login; what a binding left behind stays. -/
def loggedIn (username : String) (reply : LoginResponse) : AccountSession :=
  { AccountStore.load serde files.account with
    username := some username, token := some reply.token, deviceBound := reply.deviceBound }

def login (username : String) : AccountOutcome :=
  match call.answered? serde files with
  | none => { files, error := some unconfigured }
  | some answer =>
      let switched := if call.enabled files then files else call.setEnabled files "true"
      let note := if call.enabled files then []
        else ["account plugin: enabled (登录即自动启用插件)"]
      match answer with
      | .ok reply =>
          call.saved serde (loggedIn serde files username reply) switched note
            ("account: 已登录(" ++ username ++
              ") — 会话已持久化,重启后自动恢复;可 account bind 绑定本机设备")
      | .error failure =>
          { files := switched, printed := note, error := some ("error: " ++ failure.text) }

/-- The session after a binding. -/
def boundTo (device : DeviceSession) : AccountSession :=
  { AccountStore.load serde files.account with
    deviceBound := true, shareId := some device.shareId }

def bind : AccountOutcome :=
  let session := AccountStore.load serde files.account
  if ! session.isLoggedIn then
    { files, error := some "error: 未登录 — 先 account login(绑定设备需要有效会话)" }
  else
    match DeviceStore.load serde files.device, call.baseUrl files with
    | none, _ =>
        { files, error := some ("error: 本机尚未注册设备(device.json 缺失 — 需启用协调服务器 " ++
            "AIPOWERLINK_COORD_URL 并启动 gateway 完成注册)") }
    | some _, none => { files, error := some "error: 未配置账号服务器" }
    | some device, some url =>
        let outcome := match AccountClient.bindDevice session.token
            fun token => call.server url (some token) with
          | .ok () =>
              call.saved serde (boundTo serde files device) files []
                ("account: 本机设备已绑定到账号(shareId=" ++ device.shareId ++
                  ") — 跨机找回凭据已登记")
          | .error failure => { files, error := some ("error: " ++ failure.text) }
        { outcome with bearer := session.token }

def logout : AccountOutcome :=
  if call.removed then
    { files := { files with account := none }
      printed :=
        [if (AccountStore.load serde files.account).isLoggedIn then
          "account: 已登出 — 恢复匿名模式,全部核心功能不受影响"
        else "account: 当前即匿名模式(无需登出)"] }
  else { files, error := some ("error: 登出清理失败: " ++ call.ioError) }

/-- The source's `handle_account`. -/
def handleAccount : AccountOutcome :=
  match call.cmd with
  | .status => call.status serde files
  | .enable => call.enable files
  | .disable => call.disable files
  | .register _ email => call.register files email
  | .login username _ => call.login serde files username
  | .bind => call.bind serde files
  | .logout => call.logout serde files

end AccountCall

/-! ## Starts of the gateway -/

structure GatewayStart where
  /-- `AIPOWERLINK_COORD_URL` -/
  coordUrl : String
  /-- `account.enabled`, unless the configuration cannot be read. -/
  configReads : Bool := true
  /-- The credentials, when the coordination server registers the device. -/
  registered : Option DeviceSession := none
  written : TextWrite := .done

namespace GatewayStart

variable (serde : SerdeJson) (start : GatewayStart) (files : AccountFiles)

/-- The source's `AccountPlugin::assemble`: the session that the plugin carries. -/
def assemble (enabled : Bool) : Option AccountSession :=
  if ! enabled || start.coordUrl = "" then none
  else some (AccountStore.load serde files.account)

def plugin : Option AccountSession :=
  start.assemble serde files ((start.configReads && files.enabled = some "true") ||
    (AccountStore.load serde files.account).isLoggedIn)

/-- The credentials are saved in the background. -/
def register : AccountFiles :=
  match start.registered with
  | none => files
  | some device =>
      if start.coordUrl = "" then files
      else { files with device := DeviceStore.save serde start.written device files.device }

end GatewayStart

/-! ## Runs -/

inductive AccountEvent where
  | command (call : AccountCall)
  | start (gateway : GatewayStart)
  /-- `config set account.enabled` -/
  | switch (value : String)
  /-- `config set account.base_url` -/
  | configure (url : String)

namespace AccountEvent

def step (serde : SerdeJson) : AccountEvent → AccountFiles → AccountFiles
  | .command call, files => (call.handleAccount serde files).files
  | .start gateway, files => gateway.register serde files
  | .switch value, files => { files with enabled := some value }
  | .configure url, files => { files with baseUrl := some url }

/-- The save of a session is not torn. -/
def Whole : AccountEvent → Prop
  | .command call => ∀ length, call.written ≠ .cut length
  | _ => True

/-- The end of the session, as the user sees it. -/
def Clears : AccountEvent → Prop
  | .command call => (call.cmd = .logout ∨ call.cmd = .disable) ∧ call.removed = true
  | _ => False

/-- A switch to the plugin, or the attempt to log in. -/
def Enables : AccountEvent → Prop
  | .command call => call.cmd = .enable ∨ ∃ username otp, call.cmd = .login username otp
  | .switch value => value = "true"
  | _ => False

end AccountEvent

/-- The files after some events, on a new machine. -/
def AccountFiles.after (serde : SerdeJson) (events : List AccountEvent) : AccountFiles :=
  Systems.EventRuns.final (AccountEvent.step serde) events {}

section Runs

variable {serde : SerdeJson} {call : AccountCall} {files : AccountFiles}

/-- A login that the server granted and that was saved. -/
structure AccountCall.LogsIn (serde : SerdeJson) (call : AccountCall) (files : AccountFiles)
    (username : String) (reply : LoginResponse) : Prop where
  asks : ∃ otp, call.cmd = .login username otp
  granted : call.answered? serde files = some (.ok reply)
  written : call.written = .done

/-- A binding of this machine that was saved. -/
structure AccountCall.Binds (serde : SerdeJson) (call : AccountCall) (files : AccountFiles)
    (device : DeviceSession) : Prop where
  asks : call.cmd = .bind
  loggedIn : (AccountStore.load serde files.account).isLoggedIn = true
  registered : DeviceStore.load serde files.device = some device
  granted : ∃ url, call.baseUrl files = some url ∧
    AccountClient.bindDevice (AccountStore.load serde files.account).token
      (fun token => call.server url (some token)) = .ok ()
  written : call.written = .done

@[simp] theorem AccountCall.account_setEnabled (call : AccountCall) (files : AccountFiles)
    (value : String) : (call.setEnabled files value).account = files.account := by
  unfold setEnabled
  split <;> rfl

theorem AccountCall.account_saved (whole : (AccountEvent.command call).Whole)
    (session : AccountSession) (note : List String) (printed : String) :
    (call.saved serde session files note printed).files.account = files.account ∨
      call.written = .done ∧ (call.saved serde session files note printed).files.account =
        some (serde.toString session.toJson) := by
  cases written : call.written with
  | done => exact Or.inr ⟨rfl, by simp [saved, AccountStore.save, written, TextWrite.content]⟩
  | untouched => exact Or.inl (by simp [saved, AccountStore.save, written, TextWrite.content])
  | cut length => exact absurd written (whole length)

/-- Everything a command can do to the session. -/
theorem account_handleAccount (serde : SerdeJson) (whole : (AccountEvent.command call).Whole)
    (files : AccountFiles) :
    (call.handleAccount serde files).files.account = files.account ∧
        ¬ (AccountEvent.command call).Clears ∨
      (call.handleAccount serde files).files.account = none ∧
        (AccountEvent.command call).Clears ∨
      (∃ username reply, call.LogsIn serde files username reply ∧
        (call.handleAccount serde files).files.account =
          some (serde.toString (AccountCall.loggedIn serde files username reply).toJson)) ∨
      ∃ device, call.Binds serde files device ∧
        (call.handleAccount serde files).files.account =
          some (serde.toString (AccountCall.boundTo serde files device).toJson) := by
  cases cmd : call.cmd with
  | status => exact Or.inl ⟨by simp [AccountCall.handleAccount, cmd, AccountCall.status],
      by simp [AccountEvent.Clears, cmd]⟩
  | enable =>
      refine Or.inl ⟨?_, by simp [AccountEvent.Clears, cmd]⟩
      simp only [AccountCall.handleAccount, cmd, AccountCall.enable]
      split <;> simp
  | disable =>
      cases removed : call.removed with
      | true => exact Or.inr (Or.inl ⟨by simp [AccountCall.handleAccount, cmd,
          AccountCall.disable, AccountStore.clear, removed], Or.inr cmd, removed⟩)
      | false => exact Or.inl ⟨by simp [AccountCall.handleAccount, cmd, AccountCall.disable,
          AccountStore.clear, removed], by simp [AccountEvent.Clears, removed]⟩
  | register username email =>
      refine Or.inl ⟨?_, by simp [AccountEvent.Clears, cmd]⟩
      simp only [AccountCall.handleAccount, cmd, AccountCall.register]
      split
      · rfl
      · split <;> rfl
  | logout =>
      cases removed : call.removed with
      | true => exact Or.inr (Or.inl ⟨by simp [AccountCall.handleAccount, cmd,
          AccountCall.logout, removed], Or.inl cmd, removed⟩)
      | false => exact Or.inl ⟨by simp [AccountCall.handleAccount, cmd, AccountCall.logout,
          removed], by simp [AccountEvent.Clears, removed]⟩
  | login username otp =>
      have kept : ¬ (AccountEvent.command call).Clears := by simp [AccountEvent.Clears, cmd]
      simp only [AccountCall.handleAccount, cmd, AccountCall.login]
      split
      · exact Or.inl ⟨rfl, kept⟩
      · next answer asked =>
        have switched : (if call.enabled files then files
            else call.setEnabled files "true").account = files.account := by
          split <;> simp
        split
        · next reply =>
          rcases AccountCall.account_saved whole (AccountCall.loggedIn serde files username reply)
            [] "" with same | ⟨done, saved⟩
          · exact Or.inl ⟨same.trans switched, kept⟩
          · exact Or.inr (Or.inr (Or.inl ⟨username, reply, ⟨⟨otp, cmd⟩, asked, done⟩, saved⟩))
        · exact Or.inl ⟨switched, kept⟩
  | bind =>
      have kept : ¬ (AccountEvent.command call).Clears := by simp [AccountEvent.Clears, cmd]
      simp only [AccountCall.handleAccount, cmd, AccountCall.bind]
      split
      · exact Or.inl ⟨rfl, kept⟩
      · next loggedIn =>
        split
        · exact Or.inl ⟨rfl, kept⟩
        · exact Or.inl ⟨rfl, kept⟩
        · next device url registered configured =>
          split
          · next granted =>
            rcases AccountCall.account_saved whole (AccountCall.boundTo serde files device) []
              "" with same | ⟨done, saved⟩
            · exact Or.inl ⟨same, kept⟩
            · exact Or.inr (Or.inr (Or.inr ⟨device, ⟨cmd, by simpa using loggedIn, registered,
                ⟨url, configured, granted⟩, done⟩, saved⟩))
          · exact Or.inl ⟨rfl, kept⟩

/-- A start only writes the credentials of the device. -/
theorem account_step_start (gateway : GatewayStart) (files : AccountFiles) :
    (AccountEvent.step serde (.start gateway) files).account = files.account := by
  simp only [AccountEvent.step, GatewayStart.register]
  split
  · rfl
  · split <;> rfl

theorem after_concat (serde : SerdeJson) (events : List AccountEvent) (event : AccountEvent) :
    AccountFiles.after serde (events ++ [event]) =
      event.step serde (AccountFiles.after serde events) := by
  rw [AccountFiles.after, Systems.EventRuns.final_append]
  rfl

/-! ## Where a session comes from -/

/-- A saved binding to the share id, since which nothing has ended the session. -/
def BoundSince (serde : SerdeJson) (events : List AccountEvent) (shareId : String) : Prop :=
  ∃ before bind device after, events = before ++ .command bind :: after ∧
    bind.Binds serde (AccountFiles.after serde before) device ∧ device.shareId = shareId ∧
    ∀ event ∈ after, ¬ event.Clears

/-- The session stems from a saved login of the same user with the same token, since which
nothing has ended it; it is bound only as the server said at the login or at a saved binding
after it; and its share id is that of a saved binding. -/
structure Stems (serde : SerdeJson) (events : List AccountEvent) (session : AccountSession)
    (token : String) : Prop where
  login : ∃ before call username reply after,
    events = before ++ .command call :: after ∧
      call.LogsIn serde (AccountFiles.after serde before) username reply ∧
      reply.token = token ∧ session.username = some username ∧
      (∀ event ∈ after, ¬ event.Clears) ∧
      (session.deviceBound = true → reply.deviceBound = true ∨
        ∃ middle bind device rest, after = middle ++ .command bind :: rest ∧
          bind.Binds serde
            (AccountFiles.after serde (before ++ .command call :: middle)) device)
  shareId (id : String) : session.shareId = some id → BoundSince serde events id

theorem BoundSince.concat {events : List AccountEvent} {id : String} {event : AccountEvent}
    (bound : BoundSince serde events id) (kept : ¬ event.Clears) :
    BoundSince serde (events ++ [event]) id := by
  obtain ⟨before, bind, device, after, rfl, binds, same, quiet⟩ := bound
  refine ⟨before, bind, device, after ++ [event], by simp, binds, same, fun later mem => ?_⟩
  rcases List.mem_append.mp mem with earlier | last
  · exact quiet later earlier
  · exact List.mem_singleton.mp last ▸ kept

/-- What does not touch the session leaves it where it came from. -/
theorem Stems.concat {events : List AccountEvent} {session : AccountSession} {token : String}
    {event : AccountEvent} (stems : Stems serde events session token) (kept : ¬ event.Clears) :
    Stems serde (events ++ [event]) session token where
  login := by
    obtain ⟨before, call, username, reply, after, rfl, logsIn, same, user, quiet, bound⟩ :=
      stems.login
    refine ⟨before, call, username, reply, after ++ [event], by simp, logsIn, same, user,
      fun later mem => ?_, fun isBound => ?_⟩
    · rcases List.mem_append.mp mem with earlier | last
      · exact quiet later earlier
      · exact List.mem_singleton.mp last ▸ kept
    · rcases bound isBound with first | ⟨middle, bind, device, rest, rfl, binds⟩
      · exact Or.inl first
      · exact Or.inr ⟨middle, bind, device, rest ++ [event], by simp, binds⟩
  shareId id shown := (stems.shareId id shown).concat kept

theorem stems_after {events : List AccountEvent} (whole : ∀ event ∈ events, event.Whole) :
    AccountStore.load serde (AccountFiles.after serde events).account = {} ∨
      ∃ token, (AccountStore.load serde (AccountFiles.after serde events).account).token =
          some token ∧
        Stems serde events (AccountStore.load serde (AccountFiles.after serde events).account)
          token := by
  induction events using List.reverseRecOn with
  | nil => exact Or.inl rfl
  | append_singleton events event ih =>
      have earlier := ih fun other mem => whole other (List.mem_append_left _ mem)
      have unchanged (kept : ¬ event.Clears)
          (same : (AccountFiles.after serde (events ++ [event])).account =
            (AccountFiles.after serde events).account) :
          AccountStore.load serde (AccountFiles.after serde (events ++ [event])).account = {} ∨
            ∃ token, (AccountStore.load serde
                (AccountFiles.after serde (events ++ [event])).account).token = some token ∧
              Stems serde (events ++ [event]) (AccountStore.load serde
                (AccountFiles.after serde (events ++ [event])).account) token := by
        rw [same]
        exact earlier.imp_right fun ⟨token, held, stems⟩ => ⟨token, held, stems.concat kept⟩
      cases event with
      | start gateway =>
          refine unchanged (fun clears => clears) ?_
          rw [after_concat, account_step_start]
      | switch value => exact unchanged (fun clears => clears) (by rw [after_concat]; rfl)
      | configure url => exact unchanged (fun clears => clears) (by rw [after_concat]; rfl)
      | command call =>
          have stepped := account_handleAccount serde
            (whole _ (List.mem_append_right _ List.mem_cons_self))
            (AccountFiles.after serde events)
          rw [show (call.handleAccount serde (AccountFiles.after serde events)).files =
            AccountFiles.after serde (events ++ [.command call]) from
              (after_concat serde events (.command call)).symm] at stepped
          rcases stepped with ⟨same, kept⟩ | ⟨cleared, -⟩ | ⟨username, reply, logsIn, saved⟩ |
              ⟨device, binds, saved⟩
          · exact unchanged kept same
          · exact Or.inl (by rw [cleared, AccountStore.load_none])
          · have kept : ¬ (AccountEvent.command call).Clears := by
              obtain ⟨otp, cmd⟩ := logsIn.asks
              simp [AccountEvent.Clears, cmd]
            rw [saved, AccountStore.load_toString]
            refine Or.inr ⟨reply.token, rfl, ⟨events, call, username, reply, [], rfl, logsIn,
              rfl, rfl, by simp, Or.inl⟩, fun id shown => ?_⟩
            rcases earlier with fresh | ⟨token, -, stems⟩
            · rw [AccountCall.loggedIn, fresh] at shown
              cases shown
            · exact (stems.shareId id shown).concat kept
          · have kept : ¬ (AccountEvent.command call).Clears := by
              simp [AccountEvent.Clears, binds.asks]
            rcases earlier with fresh | ⟨token, held, stems⟩
            · have loggedIn := binds.loggedIn
              rw [fresh] at loggedIn
              cases loggedIn
            · rw [saved, AccountStore.load_toString]
              obtain ⟨before, earlierCall, username, reply, after, rfl, logsIn, same, user, quiet,
                -⟩ := stems.login
              refine Or.inr ⟨token, held, ⟨before, earlierCall, username, reply,
                after ++ [.command call], by simp, logsIn, same, user, fun later mem => ?_,
                fun _ => Or.inr ⟨after, call, device, [], rfl, binds⟩⟩, fun id shown => ?_⟩
              · rcases List.mem_append.mp mem with earlier | last
                · exact quiet later earlier
                · exact List.mem_singleton.mp last ▸ kept
              · cases shown
                exact ⟨_, call, device, [], rfl, binds, rfl, by simp⟩

theorem AccountCall.bearer_handleAccount {token : String}
    (shown : (call.handleAccount serde files).bearer = some token) :
    (AccountStore.load serde files.account).token = some token := by
  rw [handleAccount] at shown
  cases cmd : call.cmd with
  | status =>
      rw [cmd] at shown
      cases shown
  | enable =>
      rw [cmd] at shown
      cases shown
  | disable =>
      rw [cmd] at shown
      cases shown
  | register username email =>
      simp only [cmd, register] at shown
      split at shown
      · cases shown
      · split at shown <;> cases shown
  | login username otp =>
      simp only [cmd, login] at shown
      split at shown
      · cases shown
      · split at shown <;> cases shown
  | bind =>
      simp only [cmd, bind] at shown
      split at shown
      · cases shown
      · split at shown
        · cases shown
        · cases shown
        · exact shown
  | logout =>
      simp only [cmd, logout] at shown
      split at shown <;> cases shown

theorem GatewayStart.eq_load_of_plugin {gateway : GatewayStart} {session : AccountSession}
    (assembled : gateway.plugin serde files = some session) :
    session = AccountStore.load serde files.account := by
  rw [plugin, assemble] at assembled
  split at assembled
  · cases assembled
  · exact (Option.some.inj assembled).symm

/-- A token that is used: by a command that shows it to the account server, or by a gateway
that restores it. -/
def Uses (serde : SerdeJson) (files : AccountFiles) (token : String) : Prop :=
  (∃ call : AccountCall, (call.handleAccount serde files).bearer = some token) ∨
    ∃ gateway session, GatewayStart.plugin serde gateway files = some session ∧
      session.token = some token

/--
In every run of commands, starts and changes of the configuration in which no save of the
session is torn: a token that is used was issued at a saved login of the user that the
session names, since which neither `logout` nor `disable` has removed the session.  That the
device is bound was said at that login or by a binding saved since; the share id is that of a
saved binding after which the session was never removed, possibly one before that login.
-/
theorem used_token_stems {events : List AccountEvent} (whole : ∀ event ∈ events, event.Whole)
    {token : String} (used : Uses serde (AccountFiles.after serde events) token) :
    Stems serde events (AccountStore.load serde (AccountFiles.after serde events).account)
      token := by
  have held : (AccountStore.load serde (AccountFiles.after serde events).account).token =
      some token := by
    rcases used with ⟨call, shown⟩ | ⟨gateway, session, assembled, restored⟩
    · exact AccountCall.bearer_handleAccount shown
    · exact GatewayStart.eq_load_of_plugin assembled ▸ restored
  rcases stems_after whole with fresh | ⟨other, same, stems⟩
  · rw [fresh] at held
    cases held
  · cases same.symm.trans held
    exact stems

/-! ## Anonymous again -/

/-- No session, and the plugin is not switched on. -/
structure Anonymous (files : AccountFiles) : Prop where
  account : files.account = none
  enabled : files.enabled ≠ some "true"

theorem Anonymous.step {event : AccountEvent} (anonymous : Anonymous files)
    (quiet : ¬ event.Enables) : Anonymous (event.step serde files) := by
  cases event with
  | switch value => exact ⟨anonymous.account, fun same => quiet (Option.some.inj same)⟩
  | configure url => exact ⟨anonymous.account, anonymous.enabled⟩
  | start gateway =>
      refine ⟨(account_step_start gateway files).trans anonymous.account, ?_⟩
      simp only [AccountEvent.step, GatewayStart.register]
      split
      · exact anonymous.enabled
      · split <;> exact anonymous.enabled
  | command call =>
      simp only [AccountEvent.step, AccountCall.handleAccount]
      cases cmd : call.cmd with
      | status => exact anonymous
      | enable => exact absurd (Or.inl cmd) quiet
      | login username otp => exact absurd (Or.inr ⟨username, otp, cmd⟩) quiet
      | register username email =>
          simp only [AccountCall.register]
          split
          · exact anonymous
          · split <;> exact anonymous
      | disable =>
          have cleared : AccountStore.clear call.removed files.account = none := by
            simp [AccountStore.clear, anonymous.account]
          simp only [AccountCall.disable, AccountCall.setEnabled, cleared]
          split
          · exact ⟨rfl, show some "false" ≠ some "true" by decide⟩
          · exact ⟨rfl, anonymous.enabled⟩
      | bind =>
          have stranger : (AccountStore.load serde files.account).isLoggedIn = false := by
            rw [anonymous.account]
            rfl
          simpa [AccountCall.bind, stranger] using anonymous
      | logout =>
          simp only [AccountCall.logout]
          split
          · exact ⟨rfl, anonymous.enabled⟩
          · exact anonymous

/--
Once `disable` has removed the session and switched the plugin off, and until somebody
switches it on or tries to log in: no command shows a token to the account server, and no
start of the gateway assembles the plugin, whatever else happens in between.
-/
theorem disabled_stays_anonymous (before after : List AccountEvent) (call : AccountCall)
    (disables : call.cmd = .disable) (removed : call.removed = true)
    (set : (call.configOpens && call.configSet) = true)
    (quiet : ∀ event ∈ after, ¬ event.Enables) :
    (∀ token, ¬ Uses serde (AccountFiles.after serde (before ++ .command call :: after)) token) ∧
      ∀ gateway, GatewayStart.plugin serde gateway
        (AccountFiles.after serde (before ++ .command call :: after)) = none := by
  have anonymous :
      Anonymous (AccountFiles.after serde (before ++ .command call :: after)) := by
    rw [AccountFiles.after, Systems.EventRuns.final_append, Systems.EventRuns.final_cons]
    generalize Systems.EventRuns.final (AccountEvent.step serde) before {} = files
    have off : Anonymous ((AccountEvent.command call).step serde files) := by
      simp only [AccountEvent.step, AccountCall.handleAccount, disables, AccountCall.disable,
        AccountCall.setEnabled, set, AccountStore.clear, removed, if_true]
      exact ⟨rfl, show some "false" ≠ some "true" by decide⟩
    revert off
    generalize (AccountEvent.command call).step serde files = start
    induction after generalizing start with
    | nil => exact id
    | cons event after ih =>
        intro off
        exact ih (fun later mem => quiet later (List.mem_cons_of_mem _ mem)) _
          (off.step (quiet event List.mem_cons_self))
  have fresh : AccountStore.load serde
      (AccountFiles.after serde (before ++ .command call :: after)).account = {} := by
    rw [anonymous.account, AccountStore.load_none]
  have plugin (gateway : GatewayStart) : GatewayStart.plugin serde gateway
      (AccountFiles.after serde (before ++ .command call :: after)) = none := by
    simp [GatewayStart.plugin, GatewayStart.assemble, fresh, anonymous.enabled,
      AccountSession.isLoggedIn]
  refine ⟨fun token used => ?_, plugin⟩
  rcases used with ⟨call, shown⟩ | ⟨gateway, session, assembled, -⟩
  · have held := AccountCall.bearer_handleAccount shown
    rw [fresh] at held
    cases held
  · rw [plugin gateway] at assembled
    cases assembled

end Runs

/-! ## A login that is restored -/

def openReply : Json := .obj [("token", .str "t1")]

/-- An account server that lets everybody in. -/
def openServer (_ : String) (_ : Option String) : Exchange :=
  .answered ⟨200, [], Text.utf8 (SerdeJson.compact.toString openReply)⟩

def aliceLogin : AccountCall :=
  { cmd := .login "alice" "000000", accountUrl := some "http://127.0.0.1:6800"
    server := openServer }

def deviceStart : GatewayStart :=
  { coordUrl := "http://127.0.0.1:8080", registered := some ⟨"d1", "aipg-1"⟩ }

theorem login_openServer (url : String) (bearer : Option String) :
    AccountClient.login SerdeJson.compact (openServer url bearer) = .ok ⟨"t1", false⟩ := by
  have text : AccountClient.answerText (openServer url bearer) =
      .ok (SerdeJson.compact.toString openReply) := by
    rw [openServer, AccountClient.answerText]
    simp only [Text.fromUtf8Lossy_utf8]
    exact if_pos ⟨by decide, by decide⟩
  have read := SerdeJson.compact.fromStr_toString openReply rfl
  rw [AccountClient.login, text]
  simp only [bind, Except.bind, read]
  rfl

theorem account_aliceLogin :
    (AccountFiles.after SerdeJson.compact [.command aliceLogin]).account =
      some (SerdeJson.compact.toString
        (AccountCall.loggedIn SerdeJson.compact {} "alice" ⟨"t1", false⟩).toJson) := by
  have url : aliceLogin.baseUrl {} = some "http://127.0.0.1:6800" := by decide
  have answered : aliceLogin.answered? SerdeJson.compact {} = some (.ok ⟨"t1", false⟩) := by
    rw [AccountCall.answered?, url, Option.map_some]
    exact congrArg some (login_openServer "http://127.0.0.1:6800" none)
  have after : AccountFiles.after SerdeJson.compact [.command aliceLogin] =
      (AccountCall.login SerdeJson.compact aliceLogin {} "alice").files := by
    simp only [AccountFiles.after, Systems.EventRuns.final_cons, Systems.EventRuns.final_nil,
      AccountEvent.step, AccountCall.handleAccount, show aliceLogin.cmd = .login "alice" "000000"
      from rfl]
  rw [after, AccountCall.login, answered]
  simp only [AccountCall.saved, AccountStore.save, show aliceLogin.written = .done from rfl,
    TextWrite.content]

/-- The session of alice is restored by the next start. -/
theorem uses_aliceLogin :
    Uses SerdeJson.compact (AccountFiles.after SerdeJson.compact [.command aliceLogin]) "t1" := by
  refine Or.inr ⟨deviceStart, AccountCall.loggedIn SerdeJson.compact {} "alice" ⟨"t1", false⟩,
    ?_, rfl⟩
  rw [GatewayStart.plugin, GatewayStart.assemble, account_aliceLogin,
    AccountStore.load_toString]
  simp [AccountSession.isLoggedIn, AccountCall.loggedIn, deviceStart]

theorem used_token_stems_aliceLogin :
    Stems SerdeJson.compact [.command aliceLogin] (AccountStore.load SerdeJson.compact
      (AccountFiles.after SerdeJson.compact [.command aliceLogin]).account) "t1" :=
  used_token_stems (fun event mem => by
    cases List.mem_singleton.mp mem
    intro length torn
    cases torn) uses_aliceLogin

def plainDisable : AccountCall := { cmd := .disable, server := openServer }

theorem disabled_stays_anonymous_aliceLogin :
    GatewayStart.plugin SerdeJson.compact deviceStart
      (AccountFiles.after SerdeJson.compact
        ([.command aliceLogin] ++ .command plainDisable :: [.start deviceStart])) = none := by
  have quiet : ∀ event ∈ [AccountEvent.start deviceStart], ¬ event.Enables := by
    intro event mem
    cases List.mem_singleton.mp mem
    exact id
  exact (disabled_stays_anonymous [.command aliceLogin] [.start deviceStart] plainDisable rfl
    rfl rfl quiet).2 deviceStart

end AiPowerGateway.Coord

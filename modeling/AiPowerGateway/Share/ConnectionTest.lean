import AiPowerGateway.Share.BackendEdits
import AiPowerGateway.Share.StoredEntries

/-!
# Testing a connection

What a probe asks an endpoint and what it makes of the answer; the test that the panel runs
on a form before it is saved; and what the models that a probe finds leave in the store.
-/

namespace AiPowerGateway.Share

open Systems Systems.Threads Systems.Threads.Program

/-! ## Probes -/

/-- The HTTP client of a probe. -/
structure ProbeClient where
  /-- The version in the `User-Agent`. -/
  version : String
  /-- The phrase of a status. -/
  canonicalReason : Nat → Option String
  text : List UInt8 → String

structure ProbeRequest where
  url : String
  authorization : Option String
  userAgent : Option String
  /-- The body of a `POST`; a `GET` has none. -/
  body : Option Json
  deriving DecidableEq, Repr

inductive ProbeAnswer where
  | notBuilt (error : String)
  | notSent (error : String)
  /-- A response; its body may not arrive. -/
  | answered (status : Nat) (body : Option (List UInt8))
  deriving DecidableEq, Repr

/-- Cut a text, and mark that it was cut. -/
def apiTruncate (text : String) (max : Nat) : String :=
  if text.length ≤ max then text else String.ofList (text.toList.take max) ++ "…"

/-- The ids of a model list, each once, and at most 200. -/
def parseModelsFromResponse (value : Json) : List String :=
  let ids := (((value.get? "data").bind Json.asArray?).getD []).filterMap fun item =>
    BackendEntry.nonEmpty ((item.text? "id").map Text.trim)
  ids.eraseDups.take 200

namespace TestTarget

/-- What the probe sends; an endpoint without a key gets no `Authorization`. -/
def request (client : ProbeClient) (target : TestTarget) : ProbeRequest where
  url := target.url
  authorization := if target.key = "" then none else some ("Bearer " ++ target.key)
  userAgent := target.model.map fun _ => "aipowergateway/" ++ client.version
  body := target.model.map fun model =>
    .obj [("model", .str model),
      ("messages", .arr [.obj [("role", .str "user"), ("content", .str "ping")]]),
      ("stream", .bool true), ("stream_options", .obj [("include_usage", .bool true)])]

end TestTarget

/-- The hint for an error that the user can repair. -/
def probeHint (status : Nat) : String :=
  if status = 401 then "（API 密钥无效或已过期）"
  else if status = 403 then "（无权限，请检查密钥/账号）"
  else if status = 429 then "（请求过快或余额不足）"
  else ""

/-- What a probe makes of the answer; CodeBuddy has no list of models to ask for. -/
def probe (client : ProbeClient) (serde : SerdeJson) (target : TestTarget) (latencyMs : UInt64) :
    ProbeAnswer → Except String ProbeOutcome
  | .notBuilt error => .error ("build client: " ++ error)
  | .notSent error => .error (apiTruncate ("连接失败（connection failed: " ++ error ++ "）") 160)
  | .answered status body =>
      if OpenAICompatConfig.statusOk status then
        .ok ⟨latencyMs,
          if target.model.isSome then Provider.codeBuddy.defaultModels
          else ((body.bind serde.fromSlice).map parseModelsFromResponse).getD []⟩
      else
        let reason := (client.canonicalReason status).getD "error"
        let detail := apiTruncate ((body.map client.text).getD "") 120
        .error (apiTruncate
          ("HTTP " ++ toString status ++ " " ++ reason ++ probeHint status ++ ": " ++ detail) 220)

/-! ## The test of a form -/

/-- A form without a key is tested with the stored one, and with the stored address and models
where it has none. -/
def inheritTested (entries : List BackendEntry) (entry : BackendEntry) : BackendEntry :=
  if entry.apiKey.isSome || entry.apiKeyEnv.isSome then entry
  else match BackendStore.find? entries entry.backendId with
    | some old =>
        { entry with
          apiKey := old.apiKey
          apiKeyEnv := old.apiKeyEnv
          baseUrl := entry.baseUrl.or old.baseUrl
          models := if entry.models = [] then old.models else entry.models }
    | none => entry

/-- `POST /api/backends/test`; only the table of tests changes. -/
def apiBackendsTest (host : Host) (env : ProcessEnv) (client : ProbeClient) (body : Json)
    (latencyMs : UInt64) (answer : ProbeAnswer) (state : ConfigState) : Reply × ConfigState :=
  match entryFromBody body with
  | .error message => (errorReply host 400 message, state)
  | .ok parsed =>
      let entry := inheritTested state.backendsConfig.list parsed
      let noted (status : Json) : ConfigState :=
        { state with testStatus := state.testStatus.insert entry.backendId status }
      match testTarget env entry with
      | .ok none =>
          (jsonReply host 200 (.obj [("ok", .bool true), ("latencyMs", .num (.posInt 0))]),
            noted (testPassed 0))
      | .error message => (errorReply host 400 message, noted (testFailed message))
      | .ok (some target) =>
          match probe client host.serde target latencyMs answer with
          | .ok outcome =>
              (jsonReply host 200 (.obj [("ok", .bool true),
                  ("latencyMs", .num (.posInt outcome.latencyMs)),
                  ("models", Json.ofList .str outcome.models)]),
                noted (testPassed outcome.latencyMs))
          | .error message =>
              (jsonReply host 200 (.obj [("ok", .bool false), ("error", .str message)]),
                noted (testFailed message))

/-! ## What the store gets from probes -/

/-- Trimmed names, none of them empty, each once. -/
structure CleanModels (models : List String) : Prop where
  nodup : models.Nodup
  trimmed : ∀ model ∈ models, Text.trim model = model ∧ model ≠ ""

theorem nodup_eraseDups (names : List String) : names.eraseDups.Nodup := by
  induction h : names.length using Nat.strong_induction_on generalizing names with
  | _ length ih =>
      cases names with
      | nil => simp
      | cons name rest =>
          rw [List.eraseDups_cons, List.nodup_cons]
          refine ⟨by simp [List.mem_eraseDups], ih _ ?_ _ rfl⟩
          have shorter := List.length_filter_le (fun other => !other == name) rest
          simp only [List.length_cons] at h
          omega

theorem CleanModels.eraseDups {names : List String}
    (trimmed : ∀ name ∈ names, Text.trim name = name ∧ name ≠ "") :
    CleanModels names.eraseDups :=
  ⟨nodup_eraseDups names, fun name mem => trimmed name (List.mem_eraseDups.mp mem)⟩

theorem cleanModels_defaults : CleanModels Provider.codeBuddy.defaultModels :=
  ⟨by decide, by decide⟩

/-- A name that was trimmed and is not empty. -/
theorem trimmed_of_nonEmpty {text : Option String} {name : String}
    (kept : BackendEntry.nonEmpty (text.map Text.trim) = some name) :
    Text.trim name = name ∧ name ≠ "" := by
  obtain ⟨trimmed, nonempty⟩ := Option.filter_eq_some_iff.mp kept
  obtain ⟨whole, -, rfl⟩ := Option.map_eq_some_iff.mp trimmed
  exact ⟨Text.trim_trim whole, by simpa using nonempty⟩

theorem cleanModels_parse (value : Json) : CleanModels (parseModelsFromResponse value) := by
  have clean : CleanModels ((((value.get? "data").bind Json.asArray?).getD []).filterMap
      fun item => BackendEntry.nonEmpty ((item.text? "id").map Text.trim)).eraseDups :=
    CleanModels.eraseDups fun name mem => by
      obtain ⟨item, -, kept⟩ := List.mem_filterMap.mp mem
      exact trimmed_of_nonEmpty kept
  exact ⟨clean.nodup.sublist (List.take_sublist ..),
    fun name mem => clean.trimmed name (List.mem_of_mem_take mem)⟩

theorem cleanModels_probe {client : ProbeClient} {serde : SerdeJson} {target : TestTarget}
    {latencyMs : UInt64} {answer : ProbeAnswer} {outcome : ProbeOutcome}
    (probed : probe client serde target latencyMs answer = .ok outcome) :
    CleanModels outcome.models := by
  cases answer with
  | notBuilt | notSent => cases probed
  | answered status body =>
      rw [probe] at probed
      split at probed
      · cases probed
        simp only
        split
        · exact cleanModels_defaults
        · cases body.bind serde.fromSlice with
          | none => exact ⟨List.nodup_nil, by simp⟩
          | some value => exact cleanModels_parse value
      · cases probed

theorem models_inheritKeys (entries : List BackendEntry) (entry : BackendEntry) :
    (inheritKeys entries entry).models = entry.models := by
  have agrees : EditField.Agrees entry (inheritKeys entries entry) .models :=
    agrees_inheritKeys entries entry (by decide)
  exact agrees.1.symm

theorem cleanModels_entryFromBody {body : Json} {entry : BackendEntry}
    (parsed : entryFromBody body = .ok entry) : CleanModels entry.models := by
  have submitted : entry.models = submittedModels body :=
    (submitted_of_entryFromBody parsed .models).1
  rw [submitted]
  refine CleanModels.eraseDups fun name mem => ?_
  split at mem
  · exact trimmed_of_nonEmpty (Option.mem_toList.mp mem)
  · obtain ⟨item, -, kept⟩ := List.mem_filterMap.mp mem
    exact trimmed_of_nonEmpty kept

theorem entryRule_cleanModels (host : Host) (env : ProcessEnv) :
    EntryRule host env CleanModels fun entry => CleanModels entry.models where
  posted entries body entry posted := by
    unfold postedEntry at posted
    split at posted
    · cases posted
    next parsed fromBody =>
      cases builds : backendFromEntry host.serde env (inheritKeys entries parsed) with
      | error error => simp [builds] at posted
      | ok backend =>
          simp only [builds, Except.ok.injEq] at posted
          rw [← posted, models_inheritKeys]
          exact cleanModels_entryFromBody fromBody
  filled _ _ _ _ _ clean := clean

/-- The tasks take turns in any order, and probes come back as the source makes them. -/
def realProbes (client : ProbeClient) (serde : SerdeJson) (_ : AdminPool) : AdminAction → Prop
  | .start _ => True
  | .turn _ input => ∀ outcome, input.probe = .ok outcome →
      ∃ target latencyMs answer, probe client serde target latencyMs answer = .ok outcome

/--
When the entries and the file of a start list trimmed names, none of them empty, each once, then
so do all that are stored later, however saves, deletions, probes and the poller take turns and
whatever endpoints answer to the probes; and so does the file, even when the process ends in
the middle of a save.
-/
theorem stored_models_clean {host : Host} {env : ProcessEnv} {yaml : SerdeYaml}
    {client : ProbeClient} {store : BackendStore} {backends : RegistryInner}
    (entries : ∀ entry ∈ store.entries, CleanModels entry.models)
    (file : ∀ entry ∈ BackendStore.loadEntries yaml store.disk.target, CleanModels entry.models)
    {pool : AdminPool}
    (reached : ((adminProgram host env yaml).system (AdminPool.serving store backends)
      (realProbes client host.serde)).Reachable pool) :
    (∀ entry ∈ pool.shared.list, CleanModels entry.models) ∧
      ∀ left, AdminPool.Leaves yaml pool left →
        ∀ entry ∈ BackendStore.loadEntries yaml left.target, CleanModels entry.models := by
  have holds := (storedHold_inductive (entryRule_cleanModels host env)
    (fun may outcome found => by
      obtain ⟨target, latencyMs, answer, probed⟩ := may outcome found
      exact cleanModels_probe probed) ⟨entries, file⟩).reachable reached
  exact ⟨fun entry mem => holds.config.entries entry (BackendStore.mem_sortEntries.mp mem),
    fun left leaves => holds.loadEntries leaves⟩

/-- The executor is saved, and its probe comes back with two models. -/
def probedActions : List AdminAction :=
  .start (.post (.read (pairBody "http://10.0.0.5/v1"))) :: turns 1 6 ++
    .turn 2 { probe := .ok ⟨3, Provider.codeBuddy.defaultModels⟩ } :: turns 2 2

def cleanEnd : Option AdminPool :=
  (adminProgram Host.compact .none .compact).follow anySchedule probedActions emptyServer

theorem cleanEnd_isSome : cleanEnd.isSome := by decide

theorem stored_models_clean_probed : CleanModels ["hy4-preview", "deepseek-v4-flash"] := by
  let client : ProbeClient := ⟨"0.2.0", fun _ => none, fun _ => ""⟩
  have quiet (action : AdminAction) (mem : action ∈ probedActions) (pool : AdminPool) :
      realProbes client Host.compact.serde pool action := by
    cases action with
    | start task => trivial
    | turn index input =>
        intro outcome found
        have given : input.probe = .error "" ∨
            input.probe = .ok ⟨3, Provider.codeBuddy.defaultModels⟩ := by
          simp only [probedActions, turns, List.cons_append, List.mem_cons, List.mem_append,
            List.mem_replicate, reduceCtorEq, false_or, Threads.Action.turn.injEq] at mem
          rcases mem with ⟨-, -, rfl⟩ | ⟨-, rfl⟩ | ⟨-, -, rfl⟩
          · exact Or.inl rfl
          · exact Or.inr rfl
          · exact Or.inl rfl
        rcases given with failed | answered
        · cases failed.symm.trans found
        · cases answered.symm.trans found
          exact ⟨⟨"", "", some ""⟩, 3, .answered 200 none, rfl⟩
  have reached : ((adminProgram Host.compact .none .compact).system
      (AdminPool.serving ⟨[], ⟨none, none⟩⟩ .empty)
        (realProbes client Host.compact.serde)).Reachable (cleanEnd.get cleanEnd_isSome) :=
    follow_reachable_of quiet (TransitionSystem.reachable_start rfl)
      (Option.some_get cleanEnd_isSome).symm
  have clean := (stored_models_clean (fun _ mem => by cases mem) (fun _ mem => by cases mem)
    reached).1
  exact clean { pairEntry with models := ["hy4-preview", "deepseek-v4-flash"] }
    (BackendStore.mem_sortEntries.mpr (List.mem_of_getElem? (i := 0) rfl))

/-! ## What is tested and what is saved -/

/-- The address that a provider is asked at, unless it is blank. -/
def testBase? (provider : Provider) (baseUrl : Option String) : Option String :=
  ((baseUrl.or provider.baseUrl).filter fun url => Text.trim url ≠ "").map
    fun url => Text.trimEnd url '/'

/-- The target of a test, over the address. -/
def targetAt (provider : Provider) (isExecutor : Bool) (key : String) :
    Option String → Except String (Option TestTarget)
  | none => .error "base_url required for custom providers"
  | some base =>
      if key = "" && !isExecutor then .error "no API key — fill it in or set an env var reference"
      else if provider = .codeBuddy then
        .ok (some ⟨base ++ "/chat/completions", key, some provider.defaultModel⟩)
      else .ok (some ⟨base ++ "/models", key, none⟩)

theorem testTarget_eq (env : ProcessEnv) (entry : BackendEntry) :
    testTarget env entry =
      if Provider.fromStr entry.provider = .mock then .ok none
      else targetAt (.fromStr entry.provider) entry.isExecutor ((entry.resolveApiKey env).getD "")
        (testBase? (.fromStr entry.provider) entry.baseUrl) := by
  simp only [testTarget, testBase?]
  refine if_congr Iff.rfl rfl ?_
  cases (entry.baseUrl.or (Provider.fromStr entry.provider).baseUrl).filter
    fun url => decide (Text.trim url ≠ "") <;> rfl

theorem append_right_injective {first second part : String}
    (same : first ++ part = second ++ part) : first = second := by
  have lists := congrArg String.toList same
  rw [String.toList_append, String.toList_append] at lists
  exact String.toList_injective (List.append_cancel_right lists)

/-- Two addresses lead to one target when they are one, or when the key is missing anyway. -/
theorem targetAt_eq_iff {provider : Provider} {isExecutor : Bool} {key : String}
    {first second : Option String} :
    targetAt provider isExecutor key first = targetAt provider isExecutor key second ↔
      first = second ∨ first.isSome ∧ second.isSome ∧ key = "" ∧ isExecutor = false := by
  cases first with
  | none =>
      cases second with
      | none => simp
      | some base =>
          simp only [targetAt]
          split
          · simp
          · split <;> simp
  | some base =>
      cases second with
      | none =>
          simp only [targetAt]
          split
          · simp
          · split <;> simp
      | some other =>
          simp only [targetAt, Option.some.injEq, Option.isSome_some, true_and]
          by_cases keyless : (key = "" && !isExecutor) = true
          · have parts : key = "" ∧ isExecutor = false := by simpa using keyless
            simp [parts]
          · have apart : ¬ (key = "" ∧ isExecutor = false) := by simpa using keyless
            rw [if_neg keyless, if_neg keyless, or_iff_left apart]
            split
            · refine ⟨fun same => ?_, fun same => by rw [same]⟩
              simp only [Except.ok.injEq, Option.some.injEq, TestTarget.mk.injEq] at same
              exact append_right_injective same.1
            · refine ⟨fun same => ?_, fun same => by rw [same]⟩
              simp only [Except.ok.injEq, Option.some.injEq, TestTarget.mk.injEq] at same
              exact append_right_injective same.1

/-- The form is tested with an address that it does not give, and will not be saved with it. -/
def BorrowsAddress (entries : List BackendEntry) (parsed old : BackendEntry) : Prop :=
  parsed.apiKey = none ∧ parsed.apiKeyEnv = none ∧ parsed.baseUrl = none ∧
    BackendStore.find? entries parsed.backendId = some old ∧ old.baseUrl ≠ none

/-- The test and the save lead to one target all the same. -/
def SameTarget (env : ProcessEnv) (saved : BackendEntry) (url : Option String) : Prop :=
  Provider.fromStr saved.provider = .mock ∨
    testBase? (.fromStr saved.provider) url = testBase? (.fromStr saved.provider) none ∨
    (testBase? (.fromStr saved.provider) url).isSome ∧
      (testBase? (.fromStr saved.provider) none).isSome ∧
      (saved.resolveApiKey env).getD "" = "" ∧ saved.isExecutor = false

theorem testTarget_address_iff {env : ProcessEnv} {first second : BackendEntry}
    (provider : first.provider = second.provider)
    (key : first.resolveApiKey env = second.resolveApiKey env) (noUrl : second.baseUrl = none) :
    testTarget env first = testTarget env second ↔ SameTarget env second first.baseUrl := by
  rw [testTarget_eq, testTarget_eq, BackendEntry.isExecutor, provider, key, noUrl, SameTarget]
  by_cases mock : Provider.fromStr second.provider = .mock
  · simp [mock]
  · rw [if_neg mock, if_neg mock, or_iff_right mock]
    exact targetAt_eq_iff

/-- A backend that is asked is the forwarder over the key and the address of the test. -/
theorem asks_tested_target {host : Host} {env : ProcessEnv} {entry : BackendEntry}
    {target : TestTarget} {backend : Backend}
    (tests : testTarget env entry = .ok (some target))
    (builds : backendFromEntry host.serde env entry = .ok backend) :
    ∃ cfg base, backend = openAICompatBackend host.serde cfg ∧ cfg.apiKey = target.key ∧
      cfg.completionsUrl = base ++ "/chat/completions" ∧
      target.url = base ++ if target.model.isSome then "/chat/completions" else "/models" := by
  have notMock : Provider.fromStr entry.provider ≠ .mock := by
    intro mock
    rw [testTarget_eq, if_pos mock] at tests
    cases tests
  rw [testTarget_eq, if_neg notMock, testBase?] at tests
  simp only [backendFromEntry] at builds
  split at builds
  · contradiction
  · split_ifs at builds
    cases builds
    cases found : (entry.baseUrl.or (Provider.fromStr entry.provider).baseUrl).filter
        fun url => decide (Text.trim url ≠ "") with
    | none =>
        rw [found] at tests
        cases tests
    | some url =>
        rw [found] at tests
        have address := (Option.filter_eq_some_iff.mp found).1
        refine ⟨_, Text.trimEnd url '/', rfl, ?_⟩
        simp only [OpenAICompatConfig.completionsUrl, address, Option.getD_some]
        simp only [Option.map_some, targetAt] at tests
        split at tests
        · cases tests
        · split at tests <;> cases tests <;> exact ⟨rfl, trivial, rfl⟩

/-- The tested entry is the saved one, with an address when the form borrows it. -/
theorem inheritTested_cases (entries : List BackendEntry) (parsed : BackendEntry) :
    (inheritTested entries parsed).provider = (inheritKeys entries parsed).provider ∧
      (∀ env : ProcessEnv, (inheritTested entries parsed).resolveApiKey env =
        (inheritKeys entries parsed).resolveApiKey env) ∧
      ((inheritTested entries parsed).baseUrl = (inheritKeys entries parsed).baseUrl ∧
          (∀ old, ¬ BorrowsAddress entries parsed old) ∨
        (inheritKeys entries parsed).baseUrl = none ∧
          ∃ old, BorrowsAddress entries parsed old ∧
            (inheritTested entries parsed).baseUrl = old.baseUrl) := by
  unfold inheritTested inheritKeys
  cases given : parsed.apiKey.isSome || parsed.apiKeyEnv.isSome with
  | true =>
      refine ⟨rfl, fun _ => rfl, Or.inl ⟨rfl, fun old borrows => ?_⟩⟩
      rw [borrows.1, borrows.2.1] at given
      cases given
  | false =>
      obtain ⟨noKey, noEnv⟩ : parsed.apiKey = none ∧ parsed.apiKeyEnv = none := by
        simpa using given
      cases found : BackendStore.find? entries parsed.backendId with
      | none =>
          refine ⟨rfl, fun _ => rfl, Or.inl ⟨rfl, fun old borrows => ?_⟩⟩
          rw [borrows.2.2.2.1] at found
          cases found
      | some old =>
          refine ⟨rfl, fun _ => rfl, ?_⟩
          cases own : parsed.baseUrl with
          | some url =>
              refine Or.inl ⟨by simp, fun old borrows => ?_⟩
              rw [borrows.2.2.1] at own
              cases own
          | none =>
              cases stored : old.baseUrl with
              | none =>
                  refine Or.inl ⟨by simp [stored], fun other borrows => ?_⟩
                  obtain rfl := Option.some.inj (found.symm.trans borrows.2.2.2.1)
                  exact borrows.2.2.2.2 stored
              | some url =>
                  exact Or.inr ⟨rfl, old, ⟨noKey, noEnv, own, found, by simp [stored]⟩,
                    by simp [stored]⟩

/--
The test of a form asks what the saved form will be probed with, exactly when the form does not
borrow the stored address, or the address leads to the same target.  And a backend that is built
from the saved form asks the address, with the key, that its probe was run with.
-/
theorem tests_what_is_saved_iff (host : Host) (env : ProcessEnv) (entries : List BackendEntry)
    (parsed : BackendEntry) :
    (testTarget env (inheritTested entries parsed) = testTarget env (inheritKeys entries parsed) ↔
      ∀ old, BorrowsAddress entries parsed old →
        SameTarget env (inheritKeys entries parsed) old.baseUrl) ∧
      ∀ target backend, testTarget env (inheritKeys entries parsed) = .ok (some target) →
        backendFromEntry host.serde env (inheritKeys entries parsed) = .ok backend →
          ∃ cfg base, backend = openAICompatBackend host.serde cfg ∧ cfg.apiKey = target.key ∧
            cfg.completionsUrl = base ++ "/chat/completions" ∧
            target.url = base ++
              if target.model.isSome then "/chat/completions" else "/models" := by
  refine ⟨?_, fun target backend tests builds => asks_tested_target tests builds⟩
  obtain ⟨provider, key, ⟨same, free⟩ | ⟨noUrl, old, borrows, address⟩⟩ :=
    inheritTested_cases entries parsed
  · refine iff_of_true ?_ fun old borrows => absurd borrows (free old)
    rw [testTarget_eq, testTarget_eq, BackendEntry.isExecutor, BackendEntry.isExecutor, provider,
      key env, same]
  · rw [testTarget_address_iff provider (key env) noUrl, address]
    constructor
    · intro target other borrowsOther
      obtain rfl := Option.some.inj (borrows.2.2.2.1.symm.trans borrowsOther.2.2.2.1)
      exact target
    · exact fun all => all old borrows

end AiPowerGateway.Share

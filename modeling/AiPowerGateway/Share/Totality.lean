import AiPowerGateway.Share.Gates

/-!
# Requests that panic

A handler that panics gives no reply.  It happens in two places: a forwarder assigns
to fields of a body that has none, and the response builder gets a rule set or a model
whose name is no header value, which is noticed only after the call was metered.
-/

namespace AiPowerGateway.Share

open Systems

variable {τ : Type}

/-! ## Backends -/

/-- The backend forwards to an OpenAI-compatible endpoint. -/
def Forwards (serde : SerdeJson) (backend : Backend) : Prop :=
  ∃ cfg, backend = openAICompatBackend serde cfg

/-- Every registered backend is the mock or a forwarder. -/
def KnownBackends (serde : SerdeJson) (inner : RegistryInner) : Prop :=
  ∀ name backend, inner.backends.lookup name = some backend →
    backend = mockBackend ∨ Forwards serde backend

theorem lookup_of_route {inner : RegistryInner} {health : HealthTable} {model name : String}
    {backend : Backend} (routed : inner.route health model = some (name, backend)) :
    inner.backends.lookup name = some backend := by
  unfold RegistryInner.route RegistryInner.exactRoute RegistryInner.fallbackRoute at routed
  split at routed
  · next owner found exact =>
      obtain ⟨registered, -, mapped⟩ := Option.bind_eq_some_iff.mp exact
      obtain ⟨stored, lookup, same⟩ := Option.map_eq_some_iff.mp mapped
      cases same
      split at routed
      · cases routed
      · cases routed
        exact lookup
  · split at routed
    · obtain ⟨stored, lookup, same⟩ := Option.map_eq_some_iff.mp routed
      cases same
      exact lookup
    · split at routed
      · next entry entries =>
          split at routed
          · cases routed
          · cases routed
            refine AList.mem_lookup_iff.mpr ?_
            rw [entries]
            exact List.mem_singleton_self entry
      · cases routed

theorem takesFields_prepareOpenaiUpstream (body : Json) :
    (prepareOpenaiUpstream body).2.takesFields = body.takesFields := by
  unfold prepareOpenaiUpstream
  split
  · split
    · next fwd stored =>
        have isObject := Json.isSome_set? body "stream" (.bool false)
        rw [stored, Option.isSome_some] at isObject
        rw [Json.takesFields_removeField, Json.takesFields_of_set? stored, isObject]
    · rfl
  · rfl

namespace OpenAICompatConfig

variable {serde : SerdeJson} {cfg : OpenAICompatConfig} {request : Json}

theorem streamed_isSome {body : Json} (fields : body.takesFields = true) :
    (streamed body).isSome = true := by
  obtain ⟨upstream, stored⟩ := Option.isSome_iff_exists.mp
    ((Json.isSome_set? body "stream" (.bool true)).trans fields)
  simp only [streamed, stored, Option.bind_eq_bind, Option.bind_some]
  exact (Json.isSome_set? _ _ _).trans (Json.takesFields_of_set? stored)

/-- A request can be prepared when it takes fields, whether or not it names a model. -/
theorem post?_isSome : (cfg.post? request).isSome = request.takesFields := by
  cases fields : request.takesFields with
  | false =>
      have unnamed : request.textOr "model" "" = "" := by
        cases request with
        | null | obj => cases fields
        | bool | num | str | arr => rfl
      have refused : request.set? "model" (.str cfg.effectiveModel) = none := by
        rw [← Option.not_isSome_iff_eq_none, Json.isSome_set?, fields]
        exact Bool.false_ne_true
      simp [post?, withDefaultModel, unnamed, refused]
  | true =>
      have prepared : ∃ body, cfg.withDefaultModel request = some body ∧
          body.takesFields = true := by
        unfold withDefaultModel
        split
        · exact ⟨request, rfl, fields⟩
        · obtain ⟨body, stored⟩ := Option.isSome_iff_exists.mp
            ((Json.isSome_set? request "model" (.str cfg.effectiveModel)).trans fields)
          exact ⟨body, stored, Json.takesFields_of_set? stored⟩
      obtain ⟨body, named, bodyFields⟩ := prepared
      simp only [post?, named, Option.bind_eq_bind, Option.bind_some]
      split
      · obtain ⟨upstream, streams⟩ := Option.isSome_iff_exists.mp (streamed_isSome bodyFields)
        rw [streams]
        rfl
      · rfl

theorem chat_eq (outcome : HttpOutcome) :
    cfg.chat serde request outcome =
      if request.takesFields then cfg.receive serde outcome else .panicked := by
  unfold chat
  cases post : cfg.post? request with
  | none =>
      rw [if_neg]
      rw [← post?_isSome, post]
      exact Bool.false_ne_true
  | some posted =>
      rw [if_pos]
      rw [← post?_isSome, post]
      rfl

theorem receive_ne_panicked (outcome : HttpOutcome) : cfg.receive serde outcome ≠ .panicked := by
  unfold receive
  cases outcome with
  | sendFailed error => exact nofun
  | bodyFailed error => exact nofun
  | answered status line text =>
      simp only
      split
      · exact nofun
      · split
        · split <;> exact nofun
        · split <;> exact nofun

/-- A text that the forwarder takes as a completion. -/
def answerText (serde : SerdeJson) (cfg : OpenAICompatConfig) : String :=
  if cfg.provider = .codeBuddy then "" else serde.toString .null

theorem receive_answer :
    ∃ resp, cfg.receive serde (.answered 200 "200 OK" (cfg.answerText serde)) = .ok resp := by
  by_cases codeBuddy : cfg.provider = .codeBuddy
  · exact ⟨SseAssembly.finish {}, by
      simp [receive, answerText, codeBuddy, statusOk, assembleSseResponse, Text.lines,
        Text.splitLines, assembleLines, Except.map]⟩
  · exact ⟨.null, by
      simp [receive, answerText, codeBuddy, statusOk, serde.fromStr_toString .null rfl]⟩

end OpenAICompatConfig

/-! ## When nothing panics -/

/-- A candidate that is routed gets a body that its backend can prepare, and its name
and that of the rule set can be put into the answer. -/
def SafeToTry (host : Host) (state : ApiState τ) (body : Json) (ruleSet candidate : String) :
    Prop :=
  ∀ name backend, state.backends.route state.health candidate = some (name, backend) →
    (Forwards host.serde backend → body.takesFields = true) ∧
      host.headerValueOk ruleSet = true ∧ host.headerValueOk candidate = true

/-- The loop can go on past a candidate: a rule set skips what is unroutable, and a
forwarder can fail, while the mock always answers. -/
def CanPass (host : Host) (state : ApiState τ) (ruleSet candidate : String) : Prop :=
  match state.backends.route state.health candidate with
  | none => ruleSet ≠ ""
  | some (_, backend) => Forwards host.serde backend

/-- Every candidate that the loop can come to is safe to try. -/
def ChatSafe (host : Host) (state : ApiState τ) (body : Json) : Prop :=
  ∀ before candidate after, chatCandidates state body = before ++ candidate :: after →
    (∀ earlier ∈ before,
      CanPass host state (ruleSetName (chatResolution state body)) earlier) →
    SafeToTry host state body (ruleSetName (chatResolution state body)) candidate

/-- The one candidate of `messages` is safe to try. -/
def MessagesSafe (host : Host) (state : ApiState τ) (body : Json) : Prop :=
  let openaiReq := anthropicToOpenai host.serde body
  let resolution := messagesResolution state openaiReq body
  SafeToTry host state openaiReq (ruleSetName resolution)
    (messagesCandidate resolution (requestedModel openaiReq))

/-! ## One candidate -/

theorem okReply_isSome {host : Host} {ruleSet candidate body : String}
    {more : List (String × String)} :
    (okReply host ruleSet candidate more body).isSome = true ↔
      host.headerValueOk ruleSet = true ∧ host.headerValueOk candidate = true := by
  unfold okReply
  split
  · next legal => simpa using legal
  · next illegal => simpa using illegal

section Candidate

variable {host : Host} {backend : Backend}

theorem not_forwards_mock (serde : SerdeJson) : ¬ Forwards serde mockBackend := by
  rintro ⟨cfg, same⟩
  have results : mockBackend.chat .null (.sendFailed "") =
      cfg.chat serde .null (.sendFailed "") := by
    rw [same]
    rfl
  rw [OpenAICompatConfig.chat_eq, if_pos (show Json.null.takesFields = true from rfl)] at results
  cases results

/-- Only a forwarder panics, and only over a body without fields. -/
theorem chat_panicked_iff (known : backend = mockBackend ∨ Forwards host.serde backend)
    {fwd : Json} {outcome : HttpOutcome} :
    backend.chat fwd outcome = .panicked ↔
      Forwards host.serde backend ∧ fwd.takesFields = false := by
  rcases known with rfl | ⟨cfg, rfl⟩
  · constructor
    · exact nofun
    · exact fun both => absurd both.1 (not_forwards_mock host.serde)
  · show cfg.chat host.serde fwd outcome = .panicked ↔ _
    rw [OpenAICompatConfig.chat_eq]
    cases fwd.takesFields with
    | false => simpa using ⟨cfg, rfl⟩
    | true => simpa using OpenAICompatConfig.receive_ne_panicked outcome

/-- The mock never fails. -/
theorem forwards_of_chat_err (known : backend = mockBackend ∨ Forwards host.serde backend)
    {fwd : Json} {outcome : HttpOutcome} {error : RuntimeError}
    (fails : backend.chat fwd outcome = .err error) : Forwards host.serde backend := by
  rcases known with rfl | forwards
  · cases fails
  · exact forwards

/-- Every backend can be made to answer what does not make it panic. -/
theorem exists_answer (known : backend = mockBackend ∨ Forwards host.serde backend) :
    ∃ outcome, ∀ fwd, backend.chat fwd outcome = .panicked ∨
      ∃ resp, backend.chat fwd outcome = .ok resp := by
  rcases known with rfl | ⟨cfg, rfl⟩
  · exact ⟨.sendFailed "", fun fwd => Or.inr ⟨_, rfl⟩⟩
  · refine ⟨.answered 200 "200 OK" (cfg.answerText host.serde), fun fwd => ?_⟩
    show cfg.chat host.serde fwd _ = _ ∨ ∃ resp, cfg.chat host.serde fwd _ = _
    rw [OpenAICompatConfig.chat_eq]
    split
    · exact Or.inr OpenAICompatConfig.receive_answer
    · exact Or.inl rfl

/-- A forwarder that cannot reach its endpoint either fails or has panicked before. -/
theorem chat_sendFailed (forwards : Forwards host.serde backend) (fwd : Json) (reason : String) :
    backend.chat fwd (.sendFailed reason) = .panicked ∨
      ∃ error, backend.chat fwd (.sendFailed reason) = .err error := by
  obtain ⟨cfg, rfl⟩ := forwards
  show cfg.chat host.serde fwd _ = _ ∨ ∃ error, cfg.chat host.serde fwd _ = _
  rw [OpenAICompatConfig.chat_eq]
  split
  · exact Or.inr ⟨_, rfl⟩
  · exact Or.inl rfl

end Candidate

section Turn

variable {host : Host} {net : Nat → HttpOutcome} {state : ApiState τ} {fwd : Json}
  {ruleSet candidate : String} {index : Nat}

theorem canPass_of_advance (known : KnownBackends host.serde state.backends) {reason : String}
    (advances : tryCandidate net state fwd ruleSet index candidate = .advance reason) :
    CanPass host state ruleSet candidate := by
  unfold tryCandidate at advances
  unfold CanPass
  cases routed : state.backends.route state.health candidate with
  | none =>
      rw [routed] at advances
      intro unruled
      rw [unruled] at advances
      cases advances
  | some found =>
      obtain ⟨name, backend⟩ := found
      rw [routed] at advances
      simp only at advances ⊢
      split at advances
      · cases advances
      · next error fails =>
          exact forwards_of_chat_err (known name backend (lookup_of_route routed)) fails
      · cases advances

/-- What the loop can pass stops it, without a network, by a panic only. -/
theorem panicked_of_canPass (passable : CanPass host state ruleSet candidate) {reason : String}
    (offline : net index = .sendFailed reason) {ended : LoopEnd}
    (stops : tryCandidate net state fwd ruleSet index candidate = .stop ended) :
    ended = .panicked := by
  unfold tryCandidate at stops
  unfold CanPass at passable
  cases routed : state.backends.route state.health candidate with
  | none =>
      rw [routed] at passable stops
      simp only [passable, ↓reduceIte] at stops
      cases stops
  | some found =>
      obtain ⟨name, backend⟩ := found
      rw [routed] at passable stops
      simp only [offline] at passable stops
      rcases chat_sendFailed passable fwd reason with panics | ⟨error, fails⟩
      · rw [panics] at stops
        cases stops
        rfl
      · rw [fails] at stops
        cases stops

/-- If the network fails the candidates before, and the loop can pass them, a candidate
that stops the loop ends it, unless one before panicked. -/
theorem chatTrace_offline {body : Json} {before after : List String}
    (split : chatCandidates state body = before ++ candidate :: after)
    (passable : ∀ earlier ∈ before,
      CanPass host state (ruleSetName (chatResolution state body)) earlier)
    (offline : ∀ i < before.length, net i = .sendFailed "offline") {ended : LoopEnd}
    (stops : tryCandidate net state (prepareOpenaiUpstream body).2
      (ruleSetName (chatResolution state body)) before.length candidate = .stop ended) :
    (chatTrace net state body).result = .ok .panicked ∨
      (chatTrace net state body).result = .ok ended := by
  have found : (before ++ candidate :: after)[before.length]? = some candidate := by simp
  rw [← Nat.zero_add before.length] at stops
  unfold chatTrace
  rw [split]
  obtain ⟨j, other, result, upTo, foundOther, stopped, ends⟩ :=
    FirstStop.exists_result_of_stop found stops "no candidates"
  rw [ends]
  rcases Nat.lt_or_eq_of_le upTo with early | rfl
  · rw [List.getElem?_append_left early] at foundOther
    rw [Nat.zero_add] at stopped
    rw [panicked_of_canPass (passable other (List.mem_of_getElem? foundOther)) (offline j early)
      stopped]
    exact Or.inl rfl
  · rw [found] at foundOther
    cases foundOther
    rw [stops] at stopped
    cases stopped
    exact Or.inr rfl

/-- A network that fails every call before a position and then behaves in one way. -/
def offlineBefore (position : Nat) (outcome : HttpOutcome) (index : Nat) : HttpOutcome :=
  if index < position then .sendFailed "offline" else outcome

end Turn

/-! ## An admitted request -/

variable [Counter τ]

section Admitted

variable {host : Host} {net : Nat → HttpOutcome} {state : ApiState τ} {session : Session}
  {body : Json}

theorem chatFinish_served {candidate providerLabel : String} {resp : Json} :
    (chatFinish host state session body
        (.ok (.served candidate providerLabel resp))).2.isSome = true ↔
      host.headerValueOk (ruleSetName (chatResolution state body)) = true ∧
        host.headerValueOk candidate = true := by
  unfold chatFinish
  simp only
  split
  · exact okReply_isSome
  · exact okReply_isSome

theorem chatServe_isSome (known : KnownBackends host.serde state.backends)
    (safe : ChatSafe host state body) :
    (chatServe host net state session body).reply.isSome = true := by
  show (chatFinish host state session body (chatTrace net state body).result).2.isSome = true
  unfold chatTrace
  rcases FirstStop.passes_or_stops
      (tryCandidate net state (prepareOpenaiUpstream body).2
        (ruleSetName (chatResolution state body))) 0 (chatCandidates state body) with
    passes | ⟨before, candidate, after, ended, split, passes, stops⟩
  · obtain ⟨-, lastErr, failed⟩ := FirstStop.run_passes passes "no candidates"
    rw [failed]
    rfl
  · have toTry : SafeToTry host state body (ruleSetName (chatResolution state body)) candidate := by
      refine safe before candidate after split fun earlier mem => ?_
      obtain ⟨i, found⟩ := List.mem_iff_getElem?.mp mem
      obtain ⟨reason, advances⟩ := passes i earlier found
      exact canPass_of_advance known advances
    rw [split, FirstStop.run_stop passes stops]
    unfold tryCandidate at stops
    split at stops
    · split at stops
      · cases stops
        rfl
      · cases stops
    · next name backend routed =>
        obtain ⟨prepared, legal⟩ := toTry name backend routed
        split at stops
        · cases stops
          exact chatFinish_served.mpr legal
        · cases stops
        · next panics =>
            obtain ⟨forwards, bare⟩ :=
              (chat_panicked_iff (known name backend (lookup_of_route routed))).mp panics
            rw [takesFields_prepareOpenaiUpstream, prepared forwards] at bare
            cases bare

theorem chatSafe_of_isSome (known : KnownBackends host.serde state.backends)
    (total : ∀ net, (chatServe host net state session body).reply.isSome = true) :
    ChatSafe host state body := by
  intro before candidate after split passable name backend routed
  have knownBackend := known name backend (lookup_of_route routed)
  obtain ⟨outcome, answers⟩ := exists_answer knownBackend
  have replies : (chatFinish host state session body
      (chatTrace (offlineBefore before.length outcome) state body).result).2.isSome = true :=
    total (offlineBefore before.length outcome)
  have offline : ∀ i < before.length,
      offlineBefore before.length outcome i = .sendFailed "offline" := fun i early => if_pos early
  have online : offlineBefore before.length outcome before.length = outcome :=
    if_neg (Nat.lt_irrefl _)
  have trace {ended : LoopEnd} (stops : tryCandidate (offlineBefore before.length outcome) state
      (prepareOpenaiUpstream body).2 (ruleSetName (chatResolution state body)) before.length
      candidate = .stop ended) := chatTrace_offline split passable offline stops
  simp only [tryCandidate, routed, online] at trace
  rcases answers (prepareOpenaiUpstream body).2 with panics | ⟨resp, answered⟩
  · rw [panics] at trace
    rw [or_self_iff.mp (trace rfl)] at replies
    cases replies
  · rw [answered] at trace
    rcases trace rfl with ends | ends
    · rw [ends] at replies
      cases replies
    · rw [ends] at replies
      refine ⟨fun forwards => ?_, chatFinish_served.mp replies⟩
      by_contra bare
      rw [Bool.not_eq_true, ← takesFields_prepareOpenaiUpstream] at bare
      rw [(chat_panicked_iff knownBackend).mpr ⟨forwards, bare⟩] at answered
      cases answered

theorem messagesServe_isSome_iff (session : Session) (state : ApiState τ)
    (known : KnownBackends host.serde state.backends) :
    (∀ outcome, (messagesServe host outcome state session body).reply.isSome = true) ↔
      MessagesSafe host state body := by
  have fields : (anthropicToOpenai host.serde body).takesFields = true := rfl
  constructor
  · intro total name backend routed
    have knownBackend := known name backend (lookup_of_route routed)
    obtain ⟨outcome, answers⟩ := exists_answer knownBackend
    refine ⟨fun _ => fields, ?_⟩
    have replies := total outcome
    rcases answers (anthropicToOpenai host.serde body) with panics | ⟨resp, answered⟩
    · rw [((chat_panicked_iff knownBackend).mp panics).2] at fields
      cases fields
    · simp only [messagesServe, routed, answered] at replies
      split at replies
      · exact okReply_isSome.mp replies
      · exact okReply_isSome.mp replies
  · intro safe outcome
    unfold messagesServe
    simp only
    split
    · rfl
    · next name backend routed =>
        obtain ⟨-, legal⟩ := safe name backend routed
        split
        · split
          · exact okReply_isSome.mpr legal
          · exact okReply_isSome.mpr legal
        · rfl
        · next panics =>
            obtain ⟨-, bare⟩ :=
              (chat_panicked_iff (known name backend (lookup_of_route routed))).mp panics
            rw [fields] at bare
            cases bare

end Admitted

/-- Passing the gates changes nothing that the answer is made from. -/
theorem chatCompletions_admitted {host : Host} {now : UInt64} {state : ApiState τ}
    {headers : HeaderMap} {body : Json} {session : Session}
    (admitted : Admitted host now state headers body session) :
    ∃ members policy, ∀ net, chatCompletions host net now state headers body =
      chatServe host net { state with members := members, policy := policy } session body := by
  obtain ⟨after, gate⟩ := chatGate_of_admitted admitted
  obtain ⟨members, policy, frame⟩ := chatGate_frame host now state headers body
  refine ⟨members, policy, fun net => ?_⟩
  unfold chatCompletions
  rw [← frame, gate]

theorem messages_admitted {host : Host} {now : UInt64} {state : ApiState τ}
    {headers : HeaderMap} {raw : List UInt8} {body : Json} {session : Session}
    (parsed : host.serde.fromSlice raw = some body)
    (admitted : Admitted host now state headers body session) :
    ∃ members policy, ∀ outcome, messages host outcome now state headers raw =
      messagesServe host outcome { state with members := members, policy := policy } session
        body := by
  obtain ⟨after, gate⟩ := chatGate_of_admitted admitted
  obtain ⟨members, policy, frame⟩ := chatGate_frame host now state headers body
  refine ⟨members, policy, fun outcome => ?_⟩
  unfold messages
  rw [messagesGate_parsed now state headers parsed, ← frame, gate]
  rfl

/--
An entry point answers whatever the network does if and only if a request that it
admits can only come to candidates that are safe to try: a forwarder gets a body that
takes fields, and the names in the answer are header values.
-/
theorem request_pipeline_total_iff {host : Host} {state : ApiState τ}
    (known : KnownBackends host.serde state.backends) (now : UInt64) (headers : HeaderMap) :
    (∀ body,
      (∀ net, (chatCompletions host net now state headers body).reply.isSome = true) ↔
        ∀ session, Admitted host now state headers body session → ChatSafe host state body) ∧
    (∀ raw,
      (∀ outcome, (messages host outcome now state headers raw).reply.isSome = true) ↔
        ∀ body session, host.serde.fromSlice raw = some body →
          Admitted host now state headers body session → MessagesSafe host state body) := by
  refine ⟨fun body => ⟨?_, ?_⟩, fun raw => ⟨?_, ?_⟩⟩
  · intro total session admitted
    obtain ⟨members, policy, served⟩ := chatCompletions_admitted admitted
    exact (chatSafe_of_isSome known fun net => served net ▸ total net :
      ChatSafe host { state with members := members, policy := policy } body)
  · intro safe net
    rcases chatCompletions_cases host net now state headers body with
      ⟨refusal, members, policy, refused⟩ | ⟨session, members, policy, admitted, served⟩
    · rw [refused]
      rfl
    · rw [served]
      exact chatServe_isSome known (safe session admitted)
  · intro total body session parsed admitted
    obtain ⟨members, policy, served⟩ := messages_admitted parsed admitted
    exact (messagesServe_isSome_iff session { state with members := members, policy := policy }
      known).mp fun outcome => served outcome ▸ total outcome
  · intro safe outcome
    rcases messages_cases host outcome now state headers raw with
      ⟨refusal, members, policy, refused⟩ | ⟨body, session, members, policy, parsed, admitted,
        served⟩
    · rw [refused]
      rfl
    · rw [served]
      exact (messagesServe_isSome_iff session { state with members := members, policy := policy }
        known).mpr (safe body session parsed admitted) outcome

theorem knownBackends_replaceAll {serde : SerdeJson} {backends : List Backend}
    (distinct : (backends.map Backend.name).Nodup)
    (known : ∀ backend ∈ backends, backend = mockBackend ∨ Forwards serde backend) :
    KnownBackends serde (.replaceAll backends) := by
  intro name backend found
  exact known backend ((RegistryInner.lookup_replaceAll distinct).mp found).1

theorem knownBackends_small (ruleSets : List RuleSet) :
    KnownBackends Host.compact.serde (smallService smallBackends ruleSets).backends := by
  refine knownBackends_replaceAll (by decide) ?_
  intro backend mem
  rcases List.mem_pair.mp mem with rfl | rfl
  · exact Or.inl rfl
  · exact Or.inr ⟨_, rfl⟩

theorem chatSafe_glm :
    ChatSafe Host.compact (smallService smallBackends []) (modelRequest "glm-4") := by
  have only : chatCandidates (smallService smallBackends []) (modelRequest "glm-4") =
      ["glm-4"] := by decide
  intro before candidate after split _ name backend _
  have mem : candidate ∈ before ++ candidate :: after := by simp
  rw [← split, only, List.mem_singleton] at mem
  subst mem
  exact ⟨fun _ => rfl, by decide, by decide⟩

theorem request_pipeline_total_glm :
    (chatCompletions Host.compact (fun _ => .answered 200 "200 OK" "no JSON") 1000
      (smallService smallBackends []) smallHeaders (modelRequest "glm-4")).reply.isSome = true :=
  ((request_pipeline_total_iff (knownBackends_small []) 1000 smallHeaders).1
    (modelRequest "glm-4")).mpr (fun _ _ => chatSafe_glm)
    (fun _ => .answered 200 "200 OK" "no JSON")

/-- A model whose name breaks the line is answered by the mock and metered, and the
answer is lost; a body that is a number never gets to an endpoint. -/
theorem request_pipeline_not_total :
    (KnownBackends Host.compact.serde (smallService [mockBackend] []).backends ∧
      (chatCompletions Host.compact (fun _ => .sendFailed "offline") 1000
        (smallService [mockBackend] []) smallHeaders (modelRequest "a\nb")).reply = none ∧
      (smallService [mockBackend] []).usage.used "pc-1" = 0 ∧
      (chatCompletions Host.compact (fun _ => .sendFailed "offline") 1000
        (smallService [mockBackend] []) smallHeaders
        (modelRequest "a\nb")).state.usage.used "pc-1" = 8) ∧
    KnownBackends Host.compact.serde (smallService (smallBackends.drop 1) []).backends ∧
      (chatCompletions Host.compact (fun _ => .answered 200 "200 OK" "{}") 1000
        (smallService (smallBackends.drop 1) []) smallHeaders (.ofNat 5)).reply = none := by
  refine ⟨⟨knownBackends_replaceAll (by decide) (by simp), by decide, by decide, by decide⟩,
    knownBackends_replaceAll (by decide) ?_, by decide⟩
  intro backend mem
  rw [List.mem_singleton.mp mem]
  exact Or.inr ⟨_, rfl⟩

end AiPowerGateway.Share

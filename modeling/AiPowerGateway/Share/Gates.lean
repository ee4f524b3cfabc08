import AiPowerGateway.Share.CandidateLoop

/-!
# The gates of the entry points

Both entry points ask the same questions of a request before any backend hears of
it.  A call is made only for an admitted request, and without a call nothing is
metered.
-/

namespace AiPowerGateway.Share

open Systems

variable {τ : Type}

/-- The session of the token that the headers carry. -/
def ApiState.signedIn (now : UInt64) (headers : HeaderMap) (state : ApiState τ) :
    Option Session :=
  (bearerToken headers).bind fun token => state.auth.verify now token

/-- What the status of an answer tells of the gates: the status of a refusal, nothing when the
request was admitted. -/
def Served.gateOutcome (served : Served τ) : Option Nat :=
  (served.reply.map Reply.status).filter fun status => status ∈ [503, 401, 429, 403]

/-- A gate has answered the request, and no backend was called. -/
structure Served.Refused (served : Served τ) (host : Host) (refusal : Refusal) : Prop where
  reply : served.reply = some (refusal.reply host)
  uncalled : served.attempts = []

theorem gateOutcome_none {served : Served τ}
    (status : ∀ reply, served.reply = some reply → reply.status ∈ [200, 400, 500, 502]) :
    served.gateOutcome = none := by
  unfold Served.gateOutcome
  cases answer : served.reply with
  | none => rfl
  | some reply =>
      have apart : ∀ status ∈ [200, 400, 500, 502], status ∉ [503, 401, 429, 403] := by decide
      have passed := apart reply.status (status reply answer)
      simp only [Option.map_some, Option.filter_some, passed, decide_false, Bool.false_eq_true,
        ↓reduceIte]

/-- A refusal of a gate is seen at its status. -/
theorem Served.Refused.gateOutcome {served : Served τ} {host : Host} {refusal : Refusal}
    (refused : served.Refused host refusal) (parsed : refusal ≠ .invalidBody) :
    served.gateOutcome = some (refusal.reply host).status := by
  rw [Served.gateOutcome, refused.reply]
  cases refusal with
  | invalidBody => exact absurd rfl parsed
  | _ => rfl

variable [Counter τ]

/-- What the gates check of a request from the member of a session. -/
structure Admitted (host : Host) (now : UInt64) (state : ApiState τ) (headers : HeaderMap)
    (body : Json) (session : Session) : Prop where
  sharing : state.sharing = true
  token : ∃ token, bearerToken headers = some token ∧
    state.auth.sessions.lookup token = some session
  live : now ≤ session.expiresAt
  notBanned : session.memberId ∉ state.auth.banned
  belowQuota : state.quota.Below session.memberId (state.usage.used session.memberId)
  clean : state.policy.enabled → detect host (extractRequestText body) = none

theorem verify_eq_some {service : AuthService} {now : UInt64} {token : String}
    {session : Session} :
    service.verify now token = some session ↔
      service.sessions.lookup token = some session ∧ now ≤ session.expiresAt ∧
        session.memberId ∉ service.banned := by
  simp [AuthService.verify, AuthService.lookup, AuthService.isMemberBanned,
    Option.filter_eq_some_iff]

section Chat

variable {host : Host} {now : UInt64} {state : ApiState τ} {headers : HeaderMap} {body : Json}

/-- What the gates can decide.  The body was parsed before them. -/
def Decided (host : Host) (now : UInt64) (state : ApiState τ) (headers : HeaderMap)
    (body : Json) : Except Refusal Session → Prop
  | .error refusal => refusal ≠ .invalidBody
  | .ok session => Admitted host now state headers body session

/-- The gates of `chat_completions`, question by question. -/
theorem chatGate_cases (host : Host) (now : UInt64) (state : ApiState τ) (headers : HeaderMap)
    (body : Json) : ∃ verdict members policy,
      chatGate host now state headers body =
          (verdict, { state with members := members, policy := policy }) ∧
        Decided host now state headers body verdict := by
  unfold chatGate
  split
  · exact ⟨_, _, _, rfl, nofun⟩
  · next sharing =>
      split
      · exact ⟨_, _, _, rfl, nofun⟩
      · next token presented =>
          split
          · exact ⟨_, _, _, rfl, nofun⟩
          · next session verified =>
              obtain ⟨found, live, notBanned⟩ := verify_eq_some.mp verified
              simp only
              split
              · exact ⟨_, _, _, rfl, nofun⟩
              · next below =>
                  split
                  · exact ⟨_, _, _, rfl, nofun⟩
                  · next clean =>
                      have admitted : Admitted host now state headers body session :=
                        { sharing := by simpa using sharing
                          token := ⟨token, presented, found⟩
                          live := live
                          notBanned := notBanned
                          belowQuota := QuotaService.check_eq_ok.mp below
                          clean := (LoadPolicy.check_fst_eq_none _ _ _).mp clean }
                      exact ⟨_, _, _, rfl, admitted⟩

/-- The gates touch the member registry and the hit counters only. -/
theorem chatGate_frame (host : Host) (now : UInt64) (state : ApiState τ) (headers : HeaderMap)
    (body : Json) : ∃ members policy,
      (chatGate host now state headers body).2 =
        { state with members := members, policy := policy } := by
  obtain ⟨verdict, members, policy, gate, -⟩ := chatGate_cases host now state headers body
  exact ⟨members, policy, by rw [gate]⟩

/-- What passes them is admitted. -/
theorem admitted_of_chatGate {session : Session} {after : ApiState τ}
    (passes : chatGate host now state headers body = (.ok session, after)) :
    Admitted host now state headers body session := by
  obtain ⟨verdict, members, policy, gate, decided⟩ := chatGate_cases host now state headers body
  rw [passes] at gate
  cases gate
  exact decided

/-- What is admitted passes them. -/
theorem chatGate_of_admitted {session : Session}
    (admitted : Admitted host now state headers body session) :
    ∃ after, chatGate host now state headers body = (.ok session, after) := by
  obtain ⟨token, presented, found⟩ := admitted.token
  have verified : state.auth.verify now token = some session :=
    verify_eq_some.mpr ⟨found, admitted.live, admitted.notBanned⟩
  have below : state.quota.check session.memberId (state.usage.used session.memberId) = .ok () :=
    QuotaService.check_eq_ok.mpr admitted.belowQuota
  have clean : (state.policy.check host (extractRequestText body)).1 = none :=
    (LoadPolicy.check_fst_eq_none _ _ _).mpr admitted.clean
  simp only [chatGate, admitted.sharing, presented, verified, ApiState.seen, below, clean]
  exact ⟨_, rfl⟩

theorem chatGate_error {refusal : Refusal}
    (refused : (chatGate host now state headers body).1 = .error refusal) :
    refusal ≠ .invalidBody := by
  obtain ⟨verdict, members, policy, gate, decided⟩ := chatGate_cases host now state headers body
  rw [gate] at refused
  cases refused
  exact decided

/-- The gates see the headers only through the token. -/
theorem chatGate_token {headers' : HeaderMap} (same : bearerToken headers' = bearerToken headers) :
    chatGate host now state headers' body = chatGate host now state headers body := by
  unfold chatGate
  rw [same]

end Chat

section Messages

variable {host : Host} {raw : List UInt8} (now : UInt64) (state : ApiState τ)
  (headers : HeaderMap)

/-- For a body that parses, the gates of `messages` are those of `chat_completions`. -/
theorem messagesGate_parsed {body : Json} (parsed : host.serde.fromSlice raw = some body) :
    messagesGate host now state headers raw =
      ((chatGate host now state headers body).1.map fun session => (session, body),
        (chatGate host now state headers body).2) := by
  unfold messagesGate chatGate
  rw [parsed]
  split
  · rfl
  · split
    · rfl
    · split
      · rfl
      · simp only
        split
        · rfl
        · split <;> rfl

/-- A body that does not parse never passes. -/
theorem messagesGate_unparsed (unparsed : host.serde.fromSlice raw = none) :
    ∃ refusal members, messagesGate host now state headers raw =
      (.error refusal, { state with members := members }) := by
  unfold messagesGate
  rw [unparsed]
  split
  · exact ⟨_, _, rfl⟩
  · split
    · exact ⟨_, _, rfl⟩
    · split
      · exact ⟨_, _, rfl⟩
      · simp only
        split
        · exact ⟨_, _, rfl⟩
        · exact ⟨_, _, rfl⟩

end Messages

/-! ## Behind the gates -/

/-- A request is refused, or admitted and served in a state that differs in the member
registry and the hit counters only. -/
theorem chatCompletions_cases (host : Host) (net : Nat → HttpOutcome) (now : UInt64)
    (state : ApiState τ) (headers : HeaderMap) (body : Json) :
    (∃ refusal members policy, chatCompletions host net now state headers body =
        refuse host { state with members := members, policy := policy } refusal) ∨
      ∃ session members policy, Admitted host now state headers body session ∧
        chatCompletions host net now state headers body =
          chatServe host net { state with members := members, policy := policy } session body := by
  obtain ⟨members, policy, frame⟩ := chatGate_frame host now state headers body
  unfold chatCompletions
  cases gate : chatGate host now state headers body with
  | mk verdict after =>
      rw [gate] at frame
      cases verdict with
      | error refusal => exact Or.inl ⟨refusal, members, policy, by rw [← frame]⟩
      | ok session =>
          exact Or.inr ⟨session, members, policy, admitted_of_chatGate gate, by rw [← frame]⟩

/-- The same for `messages`, where the body has to parse too. -/
theorem messages_cases (host : Host) (outcome : HttpOutcome) (now : UInt64) (state : ApiState τ)
    (headers : HeaderMap) (raw : List UInt8) :
    (∃ refusal members policy, messages host outcome now state headers raw =
        refuse host { state with members := members, policy := policy } refusal) ∨
      ∃ body session members policy, host.serde.fromSlice raw = some body ∧
        Admitted host now state headers body session ∧
        messages host outcome now state headers raw =
          messagesServe host outcome { state with members := members, policy := policy }
            session body := by
  unfold messages
  cases parsed : host.serde.fromSlice raw with
  | none =>
      obtain ⟨refusal, members, gate⟩ := messagesGate_unparsed now state headers parsed
      rw [gate]
      exact Or.inl ⟨refusal, members, state.policy, rfl⟩
  | some body =>
      obtain ⟨members, policy, frame⟩ := chatGate_frame host now state headers body
      rw [messagesGate_parsed now state headers parsed]
      cases gate : chatGate host now state headers body with
      | mk verdict after =>
          rw [gate] at frame
          cases verdict with
          | error refusal => exact Or.inl ⟨refusal, members, policy, by rw [← frame]; rfl⟩
          | ok session =>
              exact Or.inr ⟨body, session, members, policy, rfl, admitted_of_chatGate gate,
                by rw [← frame]; rfl⟩

/-! ## The answer of the gates -/

theorem status_okReply {host : Host} {ruleSet candidate body : String}
    {more : List (String × String)} {reply : Reply}
    (answer : okReply host ruleSet candidate more body = some reply) : reply.status = 200 := by
  unfold okReply at answer
  split at answer
  · cases answer; rfl
  · cases answer

/-- An admitted request gets an answer that no gate gives. -/
theorem gateOutcome_chatServe (host : Host) (net : Nat → HttpOutcome) (state : ApiState τ)
    (session : Session) (body : Json) :
    (chatServe host net state session body).gateOutcome = none := by
  refine gateOutcome_none fun reply answer => ?_
  simp only [chatServe] at answer
  cases ends : (chatTrace net state body).result with
  | error lastErr =>
      rw [ends] at answer
      cases answer
      simp only [exhaustedReply, jsonReply]
      split <;> decide
  | ok loopEnd =>
      rw [ends] at answer
      cases loopEnd with
      | unavailable =>
          cases answer
          simp [errorReply, jsonReply]
      | panicked => cases answer
      | served candidate providerLabel resp =>
          simp only [chatFinish] at answer
          split at answer <;> simp [status_okReply answer]

theorem gateOutcome_messagesServe (host : Host) (outcome : HttpOutcome) (state : ApiState τ)
    (session : Session) (body : Json) :
    (messagesServe host outcome state session body).gateOutcome = none := by
  refine gateOutcome_none fun reply answer => ?_
  unfold messagesServe at answer
  simp only at answer
  split at answer
  · cases answer
    simp [errorReply, jsonReply]
  · split at answer
    · simp only at answer
      split at answer <;> simp [status_okReply answer]
    · cases answer
      simp [errorReply, jsonReply]
    · cases answer

theorem chatCompletions_refused {host : Host} {net : Nat → HttpOutcome} {now : UInt64}
    {state : ApiState τ} {headers : HeaderMap} {body : Json} {refusal : Refusal}
    (refused : (chatGate host now state headers body).1 = .error refusal) :
    (chatCompletions host net now state headers body).Refused host refusal := by
  unfold chatCompletions
  cases gate : chatGate host now state headers body with
  | mk verdict after =>
      rw [gate] at refused
      cases refused
      exact ⟨rfl, rfl⟩

theorem messages_refused {host : Host} {outcome : HttpOutcome} {now : UInt64}
    {state : ApiState τ} {headers : HeaderMap} {raw : List UInt8} {refusal : Refusal}
    (refused : (messagesGate host now state headers raw).1 = .error refusal) :
    (messages host outcome now state headers raw).Refused host refusal := by
  unfold messages
  cases gate : messagesGate host now state headers raw with
  | mk verdict after =>
      rw [gate] at refused
      cases refused
      exact ⟨rfl, rfl⟩

theorem gateOutcome_chatCompletions_passed {host : Host} {net : Nat → HttpOutcome} {now : UInt64}
    {state : ApiState τ} {headers : HeaderMap} {body : Json} {session : Session}
    (passes : (chatGate host now state headers body).1 = .ok session) :
    (chatCompletions host net now state headers body).gateOutcome = none := by
  unfold chatCompletions
  cases gate : chatGate host now state headers body with
  | mk verdict after =>
      rw [gate] at passes
      cases passes
      exact gateOutcome_chatServe ..

theorem gateOutcome_messages_passed {host : Host} {outcome : HttpOutcome} {now : UInt64}
    {state : ApiState τ} {headers : HeaderMap} {raw : List UInt8} {passed : Session × Json}
    (passes : (messagesGate host now state headers raw).1 = .ok passed) :
    (messages host outcome now state headers raw).gateOutcome = none := by
  unfold messages
  cases gate : messagesGate host now state headers raw with
  | mk verdict after =>
      rw [gate] at passes
      cases passes
      exact gateOutcome_messagesServe ..

/-- For one token and one body both handlers are refused alike, or both pass. -/
structure DecideAlike (host : Host) (now : UInt64) (state : ApiState τ) (headers : HeaderMap)
    (body : Json) (chat message : Served τ) : Prop where
  outcome : chat.gateOutcome = message.gateOutcome
  refused : chat.gateOutcome ≠ none →
    ∃ refusal, chat.Refused host refusal ∧ message.Refused host refusal
  admitted : chat.gateOutcome = none ↔ ∃ session, Admitted host now state headers body session

theorem decideAlike {host : Host} {net : Nat → HttpOutcome} {outcome : HttpOutcome}
    {now : UInt64} {state : ApiState τ} {headers headers' : HeaderMap} {raw : List UInt8}
    {body : Json} (same : bearerToken headers' = bearerToken headers)
    (parsed : host.serde.fromSlice raw = some body) :
    DecideAlike host now state headers body (chatCompletions host net now state headers body)
      (messages host outcome now state headers' raw) := by
  have gates := messagesGate_parsed now state headers' parsed
  rw [chatGate_token same] at gates
  cases verdict : (chatGate host now state headers body).1 with
  | error refusal =>
      have chat : (chatCompletions host net now state headers body).Refused host refusal :=
        chatCompletions_refused verdict
      have message : (messages host outcome now state headers' raw).Refused host refusal :=
        messages_refused (by rw [gates, verdict]; rfl)
      have known := chatGate_error verdict
      refine
        { outcome := (chat.gateOutcome known).trans (message.gateOutcome known).symm
          refused := fun _ => ⟨refusal, chat, message⟩
          admitted := ?_ }
      rw [chat.gateOutcome known]
      refine ⟨nofun, fun ⟨session, admitted⟩ => ?_⟩
      obtain ⟨after, passes⟩ := chatGate_of_admitted admitted
      rw [passes] at verdict
      cases verdict
  | ok session =>
      have chat : (chatCompletions host net now state headers body).gateOutcome = none :=
        gateOutcome_chatCompletions_passed verdict
      have passes : (messagesGate host now state headers' raw).1 = .ok (session, body) := by
        rw [gates, verdict]
        rfl
      have message : (messages host outcome now state headers' raw).gateOutcome = none :=
        gateOutcome_messages_passed passes
      exact
        { outcome := chat.trans message.symm
          refused := fun known => absurd chat known
          admitted := ⟨fun _ => ⟨session, admitted_of_chatGate (Prod.ext verdict rfl)⟩,
            fun _ => chat⟩ }

/-! ## Calls and usage -/

/-- A candidate that was served was called. -/
theorem chatServe_uncalled {host : Host} {net : Nat → HttpOutcome} {state : ApiState τ}
    {session : Session} {body : Json}
    (uncalled : (chatServe host net state session body).attempts = []) :
    (chatServe host net state session body).state = state := by
  simp only [chatServe] at uncalled ⊢
  cases ends : (chatTrace net state body).result with
  | error lastErr => rfl
  | ok loopEnd =>
      cases loopEnd with
      | unavailable => rfl
      | panicked => rfl
      | served candidate providerLabel resp =>
          obtain ⟨item, position, visited, stops⟩ := FirstStop.exists_visited_of_result ends
          have unroutable := attempt?_eq_none_iff.mp
            (List.filterMap_eq_nil_iff.mp uncalled _ visited)
          rw [tryCandidate_unroutable unroutable] at stops
          split at stops <;> cases stops

theorem messagesServe_uncalled {host : Host} {outcome : HttpOutcome} {state : ApiState τ}
    {session : Session} {body : Json}
    (uncalled : (messagesServe host outcome state session body).attempts = []) :
    (messagesServe host outcome state session body).state = state := by
  unfold messagesServe at uncalled ⊢
  simp only at uncalled ⊢
  split at uncalled
  · rfl
  · split at uncalled <;> cases uncalled

theorem chatCompletions_usage_of_uncalled {host : Host} {net : Nat → HttpOutcome} {now : UInt64}
    {state : ApiState τ} {headers : HeaderMap} {body : Json}
    (uncalled : (chatCompletions host net now state headers body).attempts = []) :
    (chatCompletions host net now state headers body).state.usage = state.usage := by
  rcases chatCompletions_cases host net now state headers body with
    ⟨refusal, members, policy, refused⟩ | ⟨session, members, policy, -, served⟩
  · rw [refused]
    rfl
  · rw [served] at uncalled ⊢
    rw [chatServe_uncalled uncalled]

theorem messages_usage_of_uncalled {host : Host} {outcome : HttpOutcome} {now : UInt64}
    {state : ApiState τ} {headers : HeaderMap} {raw : List UInt8}
    (uncalled : (messages host outcome now state headers raw).attempts = []) :
    (messages host outcome now state headers raw).state.usage = state.usage := by
  rcases messages_cases host outcome now state headers raw with
    ⟨refusal, members, policy, refused⟩ | ⟨body, session, members, policy, -, -, served⟩
  · rw [refused]
    rfl
  · rw [served] at uncalled ⊢
    rw [messagesServe_uncalled uncalled]

theorem admitted_of_chat_called {host : Host} {net : Nat → HttpOutcome} {now : UInt64}
    {state : ApiState τ} {headers : HeaderMap} {body : Json}
    (called : (chatCompletions host net now state headers body).attempts ≠ []) :
    ∃ session, Admitted host now state headers body session := by
  rcases chatCompletions_cases host net now state headers body with
    ⟨refusal, members, policy, refused⟩ | ⟨session, -, -, admitted, -⟩
  · rw [refused] at called
    exact absurd rfl called
  · exact ⟨session, admitted⟩

theorem admitted_of_messages_called {host : Host} {outcome : HttpOutcome} {now : UInt64}
    {state : ApiState τ} {headers : HeaderMap} {raw : List UInt8}
    (called : (messages host outcome now state headers raw).attempts ≠ []) :
    ∃ body session, host.serde.fromSlice raw = some body ∧
      Admitted host now state headers body session := by
  rcases messages_cases host outcome now state headers raw with
    ⟨refusal, members, policy, refused⟩ | ⟨body, session, -, -, parsed, admitted, -⟩
  · rw [refused] at called
    exact absurd rfl called
  · exact ⟨body, session, parsed, admitted⟩

/--
At either entry point a backend is called only for an admitted request, and a
request that calls none leaves the usage as it was; for one token and one body the gates
of both decide alike, and so do the answers of both: the same refusal, or none by a gate.
-/
theorem gates_guard_backends (host : Host) (net : Nat → HttpOutcome) (outcome : HttpOutcome)
    (now : UInt64) (state : ApiState τ) (headers : HeaderMap) :
    (∀ body,
      ((chatCompletions host net now state headers body).attempts ≠ [] →
        ∃ session, Admitted host now state headers body session) ∧
      ((chatCompletions host net now state headers body).attempts = [] →
        (chatCompletions host net now state headers body).state.usage = state.usage)) ∧
    (∀ raw,
      ((messages host outcome now state headers raw).attempts ≠ [] →
        ∃ body session, host.serde.fromSlice raw = some body ∧
          Admitted host now state headers body session) ∧
      ((messages host outcome now state headers raw).attempts = [] →
        (messages host outcome now state headers raw).state.usage = state.usage)) ∧
    (∀ headers' raw body, bearerToken headers' = bearerToken headers →
      host.serde.fromSlice raw = some body →
        (messagesGate host now state headers' raw).1.map Prod.fst =
            (chatGate host now state headers body).1 ∧
          DecideAlike host now state headers body
            (chatCompletions host net now state headers body)
            (messages host outcome now state headers' raw)) := by
  refine ⟨fun body => ⟨admitted_of_chat_called, chatCompletions_usage_of_uncalled⟩,
    fun raw => ⟨admitted_of_messages_called, messages_usage_of_uncalled⟩, ?_⟩
  refine fun headers' raw body same parsed => ⟨?_, decideAlike same parsed⟩
  rw [messagesGate_parsed now state headers' parsed, chatGate_token same]
  cases (chatGate host now state headers body).1 <;> rfl

end AiPowerGateway.Share

import AiPowerGateway.Share.Gates
import AiPowerGateway.Share.ToolTurns

/-!
# What the load policy does not see

The policy scans the texts of a request, and the translator puts texts of the same
request into the messages that go upstream.  The translator also reads the content of
tool results, which the scan passes over.
-/

namespace AiPowerGateway.Share

variable {τ : Type}

/-- Casing stops at a line break: no letter is lowered differently because of it. -/
structure LowersByLine (host : Host) : Prop where
  empty : host.toLowercase "" = ""
  append (first rest : String) : host.toLowercase (first ++ "\n" ++ rest) =
    host.toLowercase first ++ "\n" ++ host.toLowercase rest

/-! ## What is scanned and what is sent -/

/-- The texts of a request that the policy joins and scans. -/
def scannedTexts (body : Json) : List String :=
  contentTexts (body.get? "system") ++
    (arrayField body "messages").flatMap (fun message => contentTexts (message.get? "content")) ++
    (arrayField body "tools").flatMap toolTexts

/-- The texts in the contents of messages. -/
def contentsOf (messages : List Json) : List String :=
  messages.flatMap fun message => contentTexts (message.get? "content")

/-- The texts in the messages of a request as it goes upstream. -/
def messageTexts (fwd : Json) : List String := contentsOf (arrayField fwd "messages")

/-- The texts inside the tool results of a block list. -/
def resultTexts (blocks : List Json) : List String :=
  (blocks.filter fun block => blockType block = "tool_result").flatMap fun block =>
    contentTexts (block.get? "content")

/-- The texts of a content that the translator sends on. -/
def sentTexts : Option Json → List String
  | some (.str text) => [text]
  | some (.arr blocks) => textParts blocks ++ resultTexts blocks
  | _ => []

/-- The texts inside the tool results of a request. -/
def toolResultTexts (body : Json) : List String :=
  (arrayField body "messages").flatMap fun message => resultTexts (arrayField message "content")

/-! ## Banned texts -/

/-- The text names something that the policy forbids. -/
def Banned (host : Host) (text : String) : Prop := (detect host text).isSome

/-- One of the texts does. -/
def AnyBanned (host : Host) (texts : List String) : Prop := ∃ text ∈ texts, Banned host text

section Any

variable {host : Host}

@[simp] theorem not_banned_empty : ¬ Banned host "" := by simp [Banned, detect]

@[simp] theorem anyBanned_nil : ¬ AnyBanned host [] := by simp [AnyBanned]

@[simp] theorem anyBanned_singleton {text : String} :
    AnyBanned host [text] ↔ Banned host text := by simp [AnyBanned]

@[simp] theorem anyBanned_append {first second : List String} :
    AnyBanned host (first ++ second) ↔ AnyBanned host first ∨ AnyBanned host second := by
  simp [AnyBanned, or_and_right, exists_or]

theorem anyBanned_flatMap {α : Type} {items : List α} {texts : α → List String} :
    AnyBanned host (items.flatMap texts) ↔ ∃ item ∈ items, AnyBanned host (texts item) := by
  simp only [AnyBanned, List.mem_flatMap]
  constructor
  · rintro ⟨text, ⟨item, inItems, inTexts⟩, banned⟩
    exact ⟨item, inItems, text, inTexts, banned⟩
  · rintro ⟨item, inItems, text, inTexts, banned⟩
    exact ⟨text, ⟨item, inItems, inTexts⟩, banned⟩

theorem AnyBanned.subset {texts more : List String} (banned : AnyBanned host texts)
    (subset : ∀ text ∈ texts, text ∈ more) : AnyBanned host more := by
  obtain ⟨text, mem, bad⟩ := banned
  exact ⟨text, subset text mem, bad⟩

end Any

/-! ## Terms in lines -/

/-- A term of the rule stands in the lowered text. -/
def PolicyRule.hits (host : Host) (rule : PolicyRule) (text : String) : Bool :=
  rule.terms.any fun term => Text.contains (host.toLowercase text) term

/-- No term is empty or goes over more than one line. -/
theorem policyTerms_plain :
    ∀ rule ∈ policyRules, ∀ term ∈ rule.terms, '\n' ∉ term.toList ∧ term ≠ "" := by
  decide

section Terms

variable {host : Host} (lowers : LowersByLine host)

include lowers

theorem toLowercase_joinLines (lines : List String) :
    host.toLowercase (Text.joinLines lines) = Text.joinLines (lines.map host.toLowercase) := by
  unfold Text.joinLines
  induction lines with
  | nil => exact lowers.empty
  | cons line rest ih =>
      cases rest with
      | nil => simp
      | cons next rest =>
          rw [String.intercalate_cons_cons, lowers.append, ih, List.map_cons, List.map_cons,
            List.map_cons, String.intercalate_cons_cons]

/-- The check for an empty text decides nothing, as no term stands in it. -/
theorem detect_eq (text : String) :
    detect host text = (policyRules.find? (·.hits host text)).map PolicyRule.category := by
  by_cases silent : text = ""
  · subst silent
    have misses : policyRules.find? (·.hits host "") = none := by
      rw [List.find?_eq_none]
      intro rule inRules hit
      obtain ⟨term, inTerms, found⟩ := List.any_eq_true.mp hit
      have nonempty := (policyTerms_plain rule inRules term inTerms).2
      rw [lowers.empty] at found
      simp [Text.contains, nonempty] at found
    rw [misses]
    rfl
  · rw [detect, if_neg silent]
    rfl

/-- A rule hits joined lines when it hits one of them. -/
theorem PolicyRule.hits_joinLines {rule : PolicyRule} (inRules : rule ∈ policyRules)
    (lines : List String) :
    rule.hits host (Text.joinLines lines) = lines.any (rule.hits host) := by
  rw [Bool.eq_iff_iff]
  simp only [PolicyRule.hits, List.any_eq_true, toLowercase_joinLines lowers]
  constructor
  · rintro ⟨term, inTerms, found⟩
    obtain ⟨whole, nonempty⟩ := policyTerms_plain rule inRules term inTerms
    obtain ⟨lowered, mem, inLine⟩ := (Text.contains_joinLines whole nonempty _).mp found
    obtain ⟨line, lineMem, rfl⟩ := List.mem_map.mp mem
    exact ⟨line, lineMem, term, inTerms, inLine⟩
  · rintro ⟨line, mem, term, inTerms, inLine⟩
    obtain ⟨whole, nonempty⟩ := policyTerms_plain rule inRules term inTerms
    refine ⟨term, inTerms, (Text.contains_joinLines whole nonempty _).mpr ?_⟩
    exact ⟨host.toLowercase line, List.mem_map_of_mem mem, inLine⟩

theorem banned_iff (text : String) :
    Banned host text ↔ ∃ rule ∈ policyRules, rule.hits host text = true := by
  rw [Banned, detect_eq lowers, Option.isSome_map, List.find?_isSome]

/-- Joined lines are banned when one of them is. -/
theorem banned_joinLines (lines : List String) :
    Banned host (Text.joinLines lines) ↔ AnyBanned host lines := by
  simp only [AnyBanned, banned_iff lowers]
  constructor
  · rintro ⟨rule, inRules, hit⟩
    rw [PolicyRule.hits_joinLines lowers inRules] at hit
    obtain ⟨line, mem, own⟩ := List.any_eq_true.mp hit
    exact ⟨line, mem, rule, inRules, own⟩
  · rintro ⟨line, mem, rule, inRules, own⟩
    refine ⟨rule, inRules, ?_⟩
    rw [PolicyRule.hits_joinLines lowers inRules]
    exact List.any_eq_true.mpr ⟨line, mem, own⟩

theorem banned_extractRequestText (body : Json) :
    Banned host (extractRequestText body) ↔ AnyBanned host (scannedTexts body) :=
  banned_joinLines lowers (scannedTexts body)

/-- A banned system text is not empty, so it is sent. -/
theorem anyBanned_systemMessages (body : Json) :
    AnyBanned host (contentsOf (systemMessages body)) ↔
      AnyBanned host (contentTexts (body.get? "system")) := by
  rw [← banned_joinLines lowers (contentTexts (body.get? "system"))]
  simp only [systemMessages]
  split
  · next silent => simp [silent, contentsOf]
  · simp [contentsOf, plainMessage, contentTexts]

theorem anyBanned_toolMessages (blocks : List Json) :
    AnyBanned host (contentsOf (toolMessages blocks)) ↔ AnyBanned host (resultTexts blocks) := by
  unfold contentsOf toolMessages resultTexts
  rw [List.flatMap_map, anyBanned_flatMap, anyBanned_flatMap]
  have content (block : Json) : contentTexts ((toolMessage block).get? "content") =
      [Text.joinLines (contentTexts (block.get? "content"))] := by
    simp [toolMessage, contentTexts]
  simp only [content, anyBanned_singleton, banned_joinLines lowers]

/-- A banned text of a message is not empty either, so it is sent. -/
theorem anyBanned_blockMessage (serde : SerdeJson) (model role : String) (blocks : List Json) :
    AnyBanned host (contentsOf
        (if Text.joinLines (textParts blocks) ≠ "" ∨ toolCalls serde blocks ≠ [] then
          [blockMessage model role (Text.joinLines (textParts blocks)) (toolCalls serde blocks)]
        else [])) ↔
      AnyBanned host (textParts blocks) := by
  rw [← banned_joinLines lowers (textParts blocks)]
  split
  · simp [contentsOf, blockMessage, contentTexts]
  · next silent =>
      simp only [not_or, not_not] at silent
      simp [silent.1, contentsOf]

theorem anyBanned_openaiMessages (serde : SerdeJson) (model : String) (message : Json) :
    AnyBanned host (contentsOf (openaiMessages serde model message)) ↔
      AnyBanned host (sentTexts (message.get? "content")) := by
  unfold openaiMessages sentTexts
  cases found : message.get? "content" with
  | none => simp [contentsOf, plainMessage, contentTexts]
  | some content =>
      cases content with
      | str text => simp [contentsOf, plainMessage, contentTexts]
      | arr blocks =>
          simp only [Option.getD_some]
          rw [contentsOf, List.flatMap_append, anyBanned_append, anyBanned_append]
          exact or_congr (anyBanned_blockMessage lowers serde model (messageRole message) blocks)
            (anyBanned_toolMessages lowers blocks)
      | _ => simp [contentsOf, plainMessage, contentTexts]

theorem anyBanned_anthropicToOpenai (serde : SerdeJson) (body : Json) :
    AnyBanned host (messageTexts (anthropicToOpenai serde body)) ↔
      AnyBanned host (contentTexts (body.get? "system")) ∨
        ∃ message ∈ arrayField body "messages",
          AnyBanned host (sentTexts (message.get? "content")) := by
  rw [messageTexts, messages_anthropicToOpenai, contentsOf, List.flatMap_append,
    anyBanned_append]
  refine or_congr (anyBanned_systemMessages lowers body) ?_
  rw [List.flatMap_assoc, anyBanned_flatMap]
  exact exists_congr fun message => and_congr_right fun _ =>
    anyBanned_openaiMessages lowers serde (anthropicModel body) message

end Terms

/-- What is sent of a message is scanned, unless it stands inside a tool result. -/
theorem mem_sentTexts {message : Json} {text : String}
    (mem : text ∈ sentTexts (message.get? "content")) :
    text ∈ contentTexts (message.get? "content") ∨
      text ∈ resultTexts (arrayField message "content") := by
  unfold sentTexts at mem
  split at mem
  · next found =>
      rw [found]
      exact Or.inl mem
  · next blocks found =>
      rw [List.mem_append] at mem
      rw [arrayField, found]
      refine mem.imp (fun own => ?_) fun inner => inner
      obtain ⟨block, kept, read⟩ := List.mem_filterMap.mp own
      exact List.mem_filterMap.mpr ⟨block, (List.mem_filter.mp kept).1, read⟩
  · cases mem

theorem mem_sentTexts_of_resultTexts {message : Json} {text : String}
    (mem : text ∈ resultTexts (arrayField message "content")) :
    text ∈ sentTexts (message.get? "content") := by
  unfold arrayField at mem
  unfold sentTexts
  cases found : message.get? "content" with
  | none =>
      rw [found] at mem
      cases mem
  | some content =>
      rw [found] at mem
      cases content with
      | arr blocks => exact List.mem_append_right _ mem
      | _ => cases mem

section Coverage

variable {host : Host} (lowers : LowersByLine host)

include lowers

/-- The translation sends nothing banned that is not scanned, tool results apart. -/
theorem scanned_or_result (serde : SerdeJson) {body : Json}
    (banned : AnyBanned host (messageTexts (anthropicToOpenai serde body))) :
    AnyBanned host (scannedTexts body) ∨ AnyBanned host (toolResultTexts body) := by
  simp only [scannedTexts, toolResultTexts, anyBanned_append, anyBanned_flatMap]
  rcases (anyBanned_anthropicToOpenai lowers serde body).mp banned with
    system | ⟨message, inMessages, text, sent, bad⟩
  · exact Or.inl (Or.inl (Or.inl system))
  · rcases mem_sentTexts sent with scanned | inner
    · exact Or.inl (Or.inl (Or.inr ⟨message, inMessages, text, scanned, bad⟩))
    · exact Or.inr ⟨message, inMessages, text, inner, bad⟩

theorem sent_of_result (serde : SerdeJson) {body : Json}
    (banned : AnyBanned host (toolResultTexts body)) :
    AnyBanned host (messageTexts (anthropicToOpenai serde body)) := by
  obtain ⟨message, inMessages, text, inner, bad⟩ := anyBanned_flatMap.mp banned
  exact (anyBanned_anthropicToOpenai lowers serde body).mpr
    (Or.inr ⟨message, inMessages, text, mem_sentTexts_of_resultTexts inner, bad⟩)

end Coverage

/-! ## OpenAI requests -/

/-- Forwarding an OpenAI request changes none of its messages. -/
theorem messages_prepareOpenaiUpstream (body : Json) :
    arrayField (prepareOpenaiUpstream body).2 "messages" = arrayField body "messages" := by
  have streamApart : "stream" ≠ "messages" := by decide
  have optionsApart : "stream_options" ≠ "messages" := by decide
  unfold prepareOpenaiUpstream arrayField
  split
  · split
    · next fwd stored =>
        rw [Json.get?_removeField_ne optionsApart, Json.get?_set?_ne stored streamApart]
    · rfl
  · rfl

/-- Every text that an OpenAI request sends is scanned. -/
theorem scanned_of_forwarded {host : Host} {body : Json}
    (banned : AnyBanned host (messageTexts (prepareOpenaiUpstream body).2)) :
    AnyBanned host (scannedTexts body) := by
  unfold messageTexts at banned
  rw [messages_prepareOpenaiUpstream] at banned
  refine banned.subset fun text mem => ?_
  exact List.mem_append_left _ (List.mem_append_right _ mem)

/-! ## The answer -/

theorem objects_iff {host : Host} {policy : LoadPolicy} (enabled : policy.enabled = true)
    (text : String) : (policy.check host text).1.isSome ↔ Banned host text := by
  unfold Banned
  rw [← not_iff_not, Option.not_isSome_iff_eq_none, Option.not_isSome_iff_eq_none,
    LoadPolicy.check_fst_eq_none]
  exact ⟨fun clean => clean enabled, fun clean _ => clean⟩

section Answer

variable [Counter τ]

/-- The request gets as far as the policy. -/
structure ApiState.Reaches (now : UInt64) (headers : HeaderMap) (session : Session)
    (state : ApiState τ) : Prop where
  sharing : state.sharing = true
  signedIn : state.signedIn now headers = some session
  quota : state.quota.check session.memberId (state.usage.used session.memberId) = .ok ()

/--
The request is blocked: the policy objects, no backend hears of the request, and the
answer is 403 unless an earlier gate refused it.
-/
structure Blocked (host : Host) (now : UInt64) (state : ApiState τ) (headers : HeaderMap)
    (body : Json) (served : Served τ) : Prop where
  objects : (state.policy.check host (extractRequestText body)).1.isSome
  unsent : served.attempts = []
  answered {session : Session} : state.Reaches now headers session →
    ∃ reply, served.reply = some reply ∧ reply.status = 403

variable {host : Host} {now : UInt64} {state : ApiState τ} {headers : HeaderMap} {body : Json}

theorem chatGate_blocked {category : PolicyCategory} {session : Session}
    (reaches : state.Reaches now headers session)
    (objects : (state.policy.check host (extractRequestText body)).1 = some category) :
    (chatGate host now state headers body).1 = .error (.blocked category) := by
  obtain ⟨token, presented, verified⟩ := Option.bind_eq_some_iff.mp reaches.signedIn
  unfold chatGate
  simp only [reaches.sharing, not_true_eq_false, if_false, presented, verified]
  have quota : (state.seen now session).quota.check session.memberId
      ((state.seen now session).usage.used session.memberId) = .ok () := reaches.quota
  have objects' : ((state.seen now session).policy.check host (extractRequestText body)).1 =
      some category := objects
  rw [quota]
  simp only [objects']

/-- The gates admit nothing that the policy objects to. -/
theorem not_banned_of_admitted {session : Session} (enabled : state.policy.enabled = true)
    (admitted : Admitted host now state headers body session) :
    ¬ Banned host (extractRequestText body) := by
  intro banned
  rw [Banned, admitted.clean enabled] at banned
  cases banned

/-- A banned text in the scan blocks a request at `chat_completions`. -/
theorem blocked_chatCompletions (enabled : state.policy.enabled = true)
    (banned : Banned host (extractRequestText body)) (net : Nat → HttpOutcome) :
    Blocked host now state headers body (chatCompletions host net now state headers body) := by
  have objects := (objects_iff enabled (extractRequestText body)).mpr banned
  refine ⟨objects, ?_, fun reaches => ?_⟩
  · by_contra called
    obtain ⟨session, admitted⟩ := admitted_of_chat_called called
    exact not_banned_of_admitted enabled admitted banned
  · obtain ⟨category, found⟩ := Option.isSome_iff_exists.mp objects
    have gate := chatGate_blocked reaches found
    refine ⟨(Refusal.blocked category).reply host, ?_, rfl⟩
    unfold chatCompletions
    split
    · next refusal after refused =>
        rw [refused] at gate
        cases gate
        rfl
    · next admitted =>
        rw [admitted] at gate
        cases gate

/-- The same at `messages`. -/
theorem blocked_messages {raw : List UInt8} (parsed : host.serde.fromSlice raw = some body)
    (enabled : state.policy.enabled = true) (banned : Banned host (extractRequestText body))
    (outcome : HttpOutcome) :
    Blocked host now state headers body (messages host outcome now state headers raw) := by
  have objects := (objects_iff enabled (extractRequestText body)).mpr banned
  refine ⟨objects, ?_, fun reaches => ?_⟩
  · by_contra called
    obtain ⟨other, session, parsedOther, admitted⟩ := admitted_of_messages_called called
    cases parsed.symm.trans parsedOther
    exact not_banned_of_admitted enabled admitted banned
  · obtain ⟨category, found⟩ := Option.isSome_iff_exists.mp objects
    have gate := chatGate_blocked reaches found
    refine ⟨(Refusal.blocked category).reply host, ?_, rfl⟩
    unfold messages
    rw [messagesGate_parsed now state headers parsed, gate]
    rfl

end Answer

/--
The policy covers every text that an OpenAI request sends.  It covers the texts that
an Anthropic request sends exactly when something banned is found outside of its tool
results as well, or nothing banned stands in them.
-/
theorem policy_covers_iff [Counter τ] {host : Host} (lowers : LowersByLine host) (now : UInt64)
    {state : ApiState τ} (enabled : state.policy.enabled = true) (headers : HeaderMap) :
    (∀ net body, AnyBanned host (messageTexts (prepareOpenaiUpstream body).2) →
      Blocked host now state headers body
        (chatCompletions host net now state headers body)) ∧
    (∀ outcome raw body, host.serde.fromSlice raw = some body →
      ((AnyBanned host (messageTexts (anthropicToOpenai host.serde body)) →
          Blocked host now state headers body
            (messages host outcome now state headers raw)) ↔
        AnyBanned host (scannedTexts body) ∨ ¬ AnyBanned host (toolResultTexts body))) := by
  constructor
  · intro net body banned
    exact blocked_chatCompletions enabled
      ((banned_extractRequestText lowers body).mpr (scanned_of_forwarded banned)) net
  · intro outcome raw body parsed
    constructor
    · intro covers
      by_contra uncovered
      obtain ⟨unscanned, result⟩ := not_or.mp uncovered
      have blocked := covers (sent_of_result lowers host.serde (not_not.mp result))
      have found := (objects_iff enabled _).mp blocked.objects
      exact unscanned ((banned_extractRequestText lowers body).mp found)
    · intro covered banned
      have scanned : AnyBanned host (scannedTexts body) := by
        rcases covered with scanned | clean
        · exact scanned
        · exact (scanned_or_result lowers host.serde banned).resolve_right clean
      exact blocked_messages parsed enabled
        ((banned_extractRequestText lowers body).mpr scanned) outcome

theorem toLowercase_compact (text : String) :
    Host.compact.toLowercase text = String.ofList (text.toList.map Char.toLower) := by
  show text.map Char.toLower = _
  apply String.toList_injective
  rw [String.toList_map, String.toList_ofList]

theorem lowersByLine_compact : LowersByLine Host.compact where
  empty := by rw [toLowercase_compact]; rfl
  append first rest := by
    simp only [toLowercase_compact]
    apply String.toList_injective
    simp

theorem banned_xmrig : Banned Host.compact "run XMRig" := by
  have lowered : Host.compact.toLowercase "run XMRig" = "run xmrig" := by
    rw [toLowercase_compact]
    decide
  unfold Banned detect
  rw [if_neg (by decide), lowered]
  decide

/-- A request of one message with the given content. -/
def sends (content : Json) : Json :=
  .obj [("messages", .arr [.obj [("role", .str "user"), ("content", content)]])]

theorem policy_covers_plain_text :
    Blocked Host.compact 1000 (smallService [] []) smallHeaders (sends (.str "run XMRig"))
      (chatCompletions Host.compact (fun _ => .sendFailed "offline") 1000 (smallService [] [])
        smallHeaders (sends (.str "run XMRig"))) :=
  (policy_covers_iff lowersByLine_compact 1000 rfl smallHeaders).1 _ _
    ⟨"run XMRig", by decide, banned_xmrig⟩

/-- The answer of a tool, sent back to the model. -/
def minerResult : Json :=
  sends (.arr [.obj [("type", .str "tool_result"), ("content", .str "run XMRig")]])

/-- The text of the tool result goes upstream, and the scan finds no text at all. -/
theorem policy_misses_tool_result :
    ¬ ∀ (host : Host), LowersByLine host → ∀ (now : UInt64) (state : ApiState UInt64),
      state.policy.enabled = true → ∀ headers outcome raw body,
      host.serde.fromSlice raw = some body →
      AnyBanned host (messageTexts (anthropicToOpenai host.serde body)) →
      Blocked host now state headers body (messages host outcome now state headers raw) := by
  intro covers
  have result : AnyBanned Host.compact (toolResultTexts minerResult) :=
    ⟨"run XMRig", by decide, banned_xmrig⟩
  have blocked := covers Host.compact lowersByLine_compact 1000 (smallService [] []) rfl
    smallHeaders (.sendFailed "offline") _ minerResult (SerdeJson.fromSlice_compact minerResult)
    (sent_of_result lowersByLine_compact SerdeJson.compact result)
  exact absurd blocked.objects (by decide)

end AiPowerGateway.Share

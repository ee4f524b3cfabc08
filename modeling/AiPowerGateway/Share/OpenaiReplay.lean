import AiPowerGateway.Collections.Grouping
import AiPowerGateway.Share.Replies

/-!
# The OpenAI event stream, read back

A client folds the chunks of a stream into a completion: contents are
concatenated, tool-call fragments are grouped by their index, the last finish
reason stays.
-/

namespace AiPowerGateway.Share

/-! ## What a completion says -/

structure ToolCall where
  id : String
  name : String
  arguments : String
  deriving DecidableEq, Repr

/-- The part of a completion that a stream of chunks carries. -/
structure Completion where
  content : String
  toolCalls : List ToolCall
  finishReason : Option Json
  usage : UInt64 × UInt64
  deriving DecidableEq

/-- A member that is not `null`. -/
def nonNull? (value : Json) (key : String) : Option Json :=
  (value.get? key).filter (· ≠ .null)

/-- A tool call with its id, its name and its arguments, all strings. -/
def toolCall? (call : Json) : Option ToolCall := do
  let id ← call.text? "id"
  let name ← (functionField call "name").bind Json.asStr?
  let arguments ← (functionField call "arguments").bind Json.asStr?
  some ⟨id, name, arguments⟩

/-- A content is a string; none counts as the empty one. -/
def completionContent? (message : Json) : Option String :=
  match nonNull? message "content" with
  | none => some ""
  | some content => content.asStr?

/-- The tool calls are a list of well-formed ones; none counts as the empty list. -/
def completionToolCalls? (message : Json) : Option (List ToolCall) :=
  match nonNull? message "tool_calls" with
  | none => some []
  | some calls => calls.asArray?.bind fun calls => calls.mapM toolCall?

/-- What a completion says, when its first choice is well formed. -/
def completion? (resp : Json) : Option Completion := do
  let choice ← (resp.get? "choices").bind fun choices => choices.asArray?.bind List.head?
  let message ← choice.get? "message"
  let content ← completionContent? message
  let toolCalls ← completionToolCalls? message
  some ⟨content, toolCalls, nonNull? choice "finish_reason", extractOpenaiUsage resp⟩

/-! ## The client -/

/-- The chunks up to the mark that ends the stream. -/
def readChunks (serde : SerdeJson) (text : String) : List Json :=
  ((Sse.decode text).takeWhile fun event => event.data ≠ "[DONE]").filterMap fun event =>
    serde.clientParse event.data

structure OpenAiClient where
  content : String := ""
  toolCalls : List (Option Json × ToolCall) := []
  finishReason : Option Json := none
  usage : UInt64 × UInt64 := (0, 0)

/-- The first fragment gives id and name, the arguments are concatenated. -/
def mergeFragments (first next : ToolCall) : ToolCall :=
  { first with arguments := first.arguments ++ next.arguments }

/-- A fragment of a tool call under its index. -/
def fragment (call : Json) : Option Json × ToolCall :=
  (call.get? "index",
    { id := call.textOr "id" ""
      name := ((functionField call "name").bind Json.asStr?).getD ""
      arguments := ((functionField call "arguments").bind Json.asStr?).getD "" })

def OpenAiClient.receive (client : OpenAiClient) (chunk : Json) : OpenAiClient :=
  let choice := ((chunk.get? "choices").bind (·.item? 0)).getD .null
  let delta := (choice.get? "delta").getD .null
  let fragments := (((delta.get? "tool_calls").bind Json.asArray?).getD []).map fragment
  { content := client.content ++ delta.textOr "content" ""
    toolCalls := fragments.foldl (Grouping.absorb mergeFragments) client.toolCalls
    finishReason := (nonNull? choice "finish_reason").or client.finishReason
    usage := if (chunk.get? "usage").isSome then extractOpenaiUsage chunk else client.usage }

/-- The completion that a client folds from a stream. -/
def streamedCompletion (serde : SerdeJson) (text : String) : Completion :=
  let client := (readChunks serde text).foldl OpenAiClient.receive {}
  ⟨client.content, client.toolCalls.map Prod.snd, client.finishReason, client.usage⟩

/-! ## Reading the frames back -/

theorem toString_ne_done (serde : SerdeJson) (value : Json) : serde.toString value ≠ "[DONE]" := by
  intro same
  have read := serde.clientParse_toString value
  rw [same, serde.clientParse_done] at read
  cases read

theorem readChunks_chunkFrames (serde : SerdeJson) (chunks : List Json) :
    readChunks serde (chunkFrames serde chunks) = chunks := by
  induction chunks with
  | nil =>
      have done : Sse.decode (Sse.dataFrame "[DONE]" ++ "") = ⟨"", "[DONE]"⟩ :: Sse.decode "" :=
        Sse.decode_dataFrame (by decide) ""
      rw [String.append_empty] at done
      simp [readChunks, chunkFrames, done]
  | cons chunk chunks ih =>
      unfold readChunks at ih ⊢
      rw [chunkFrames, Sse.decode_dataFrame (serde.oneLine_toString chunk), List.takeWhile_cons,
        if_pos (by simpa using toString_ne_done serde chunk), List.filterMap_cons,
        serde.clientParse_toString]
      simpa using ih

/-! ## Folding the replay -/

/-- The index under which a tool call is replayed. -/
def callIndex (call : Json) : UInt64 := ((call.get? "index").bind Json.asU64?).getD 0

/-- A tool call as the client hears it. -/
def heard (call : Json) : Option Json × ToolCall :=
  (some (.num (.posInt (callIndex call))),
    { id := call.textOr "id" "call_0"
      name := ((functionField call "name").bind Json.asStr?).getD ""
      arguments := ((functionField call "arguments").bind Json.asStr?).getD "" })

theorem receive_roleChunk (resp : Json) (client : OpenAiClient) :
    client.receive (roleChunk resp) = client := by
  simp [OpenAiClient.receive, roleChunk, chunk, Json.item?, nonNull?, Option.filter_some,
    Json.textOr, Json.text?]

theorem receive_contentChunk (resp : Json) (text : String) (client : OpenAiClient) :
    client.receive (contentChunk resp text) =
      { client with content := client.content ++ text } := by
  simp [OpenAiClient.receive, contentChunk, chunk, Json.item?, nonNull?, Option.filter_some,
    Json.textOr, Json.text?]

theorem receive_toolCallChunk (resp call : Json) (client : OpenAiClient) :
    client.receive (toolCallChunk resp call) =
      { client with
        toolCalls := Grouping.absorb mergeFragments client.toolCalls (heard call) } := by
  simp [OpenAiClient.receive, toolCallChunk, chunk, Json.item?, nonNull?, Option.filter_some,
    Json.textOr, Json.text?, toolCallDelta, fragment, heard, callIndex, functionField]

theorem receive_finishChunk (resp : Json) (reason : String) (client : OpenAiClient) :
    client.receive (finishChunk resp reason) =
      { client with finishReason := some (.str reason), usage := extractOpenaiUsage resp } := by
  simp [OpenAiClient.receive, finishChunk, chunk, Json.item?, nonNull?, Option.filter_some,
    Json.textOr, Json.text?]
  simp [extractOpenaiUsage]

/-- A run of tool calls, by induction on the calls. -/
theorem foldl_toolCallChunks (resp : Json) (calls : List Json) (client : OpenAiClient) :
    (calls.map (toolCallChunk resp)).foldl OpenAiClient.receive client =
      { client with
        toolCalls := (calls.map heard).foldl (Grouping.absorb mergeFragments)
          client.toolCalls } := by
  induction calls generalizing client with
  | nil => rfl
  | cons call calls ih =>
      rw [List.map_cons, List.foldl_cons, receive_toolCallChunk, ih]
      rfl

/-- The completion that the client ends with. -/
theorem streamedCompletion_replay (serde : SerdeJson) {resp : Json} {choice : OpenAiChoice}
    (found : firstChoice resp = some choice) :
    streamedCompletion serde (openaiSseStream serde resp) =
      { content := choice.text
        toolCalls := (Grouping.group mergeFragments (choice.toolCalls.map heard)).map Prod.snd
        finishReason := some (.str (streamFinishReason choice))
        usage := extractOpenaiUsage resp } := by
  have texts (client : OpenAiClient) :
      (if choice.text = "" then [] else [contentChunk resp choice.text]).foldl
          OpenAiClient.receive client =
        { client with content := client.content ++ choice.text } := by
    split
    · next silent => simp [silent]
    · exact receive_contentChunk resp choice.text client
  unfold streamedCompletion openaiSseStream
  rw [readChunks_chunkFrames]
  simp only [openaiChunks, found, choiceChunks, List.foldl_append, List.foldl_cons, List.foldl_nil,
    receive_roleChunk, texts, foldl_toolCallChunks, receive_finishChunk]
  simp [Grouping.group]

/-! ## When the replay is faithful -/

/-- The tool calls carry pairwise distinct indices, where none counts as 0. -/
def DistinctIndices (resp : Json) : Prop :=
  ∀ choice, firstChoice resp = some choice → (choice.toolCalls.map callIndex).Nodup

/-- The finish reasons that are replayed as they are. -/
def ReplayedReason (reason : Option Json) : Prop :=
  reason = some (.str "stop") ∨ reason = some (.str "tool_calls") ∨ reason = some (.str "length")

theorem heard_of_toolCall {call : Json} {said : ToolCall}
    (wellFormed : toolCall? call = some said) :
    (heard call).2 = said := by
  unfold toolCall? at wellFormed
  simp only [Option.bind_eq_bind, Option.bind_eq_some_iff, Option.some.injEq] at wellFormed
  obtain ⟨id, readId, name, ⟨_, foundName, readName⟩, arguments, ⟨_, foundArguments, readArguments⟩,
    rfl⟩ := wellFormed
  simp [heard, Json.textOr, readId, foundName, readName, foundArguments, readArguments]

theorem heard_of_toolCalls {calls : List Json} {said : List ToolCall}
    (wellFormed : calls.mapM toolCall? = some said) : (calls.map heard).map Prod.snd = said := by
  induction calls generalizing said with
  | nil =>
      rw [List.mapM_nil] at wellFormed
      cases wellFormed
      rfl
  | cons call calls ih =>
      simp only [List.mapM_cons, Option.bind_eq_bind, Option.bind_eq_some_iff] at wellFormed
      obtain ⟨first, readFirst, rest, readRest, built⟩ := wellFormed
      cases built
      simp only [List.map_cons, heard_of_toolCall readFirst, ih readRest]

/-- A reader that takes nothing from `null` reads past it. -/
theorem bind_nonNull? {α : Type} {reader : Json → Option α} (null : reader .null = none)
    (value : Json) (key : String) :
    (nonNull? value key).bind reader = (value.get? key).bind reader := by
  unfold nonNull?
  cases value.get? key with
  | none => rfl
  | some member =>
      by_cases isNull : member = .null
      · rw [isNull, Option.bind_some, null]
        rfl
      · simp [Option.filter_some, isNull]

theorem textOr_of_completionContent {message : Json} {content : String}
    (wellFormed : completionContent? message = some content) :
    message.textOr "content" "" = content := by
  have null : Json.null.asStr? = none := rfl
  unfold completionContent? at wellFormed
  rw [Json.textOr, Json.text?, ← bind_nonNull? null]
  cases member : nonNull? message "content" with
  | none => simpa [member] using wellFormed
  | some value =>
      rw [member] at wellFormed
      simp [show value.asStr? = some content from wellFormed]

theorem toolCalls_of_completionToolCalls {message : Json} {toolCalls : List ToolCall}
    (wellFormed : completionToolCalls? message = some toolCalls) :
    (((message.get? "tool_calls").bind Json.asArray?).getD []).mapM toolCall? =
      some toolCalls := by
  have null : Json.null.asArray? = none := rfl
  unfold completionToolCalls? at wellFormed
  rw [← bind_nonNull? null]
  cases member : nonNull? message "tool_calls" with
  | none => simpa [member] using wellFormed
  | some value =>
      rw [member] at wellFormed
      obtain ⟨calls, isArray, read⟩ := Option.bind_eq_some_iff.mp wellFormed
      simp [isArray, read]

/-- The first choice of a well-formed completion, as the gateway reads it. -/
theorem completion_eq_some {resp : Json} {said : Completion}
    (wellFormed : completion? resp = some said) :
    ∃ choice, firstChoice resp = some choice ∧ choice.text = said.content ∧
      choice.toolCalls.mapM toolCall? = some said.toolCalls ∧
      choice.finishReason = said.finishReason.bind Json.asStr? ∧
      extractOpenaiUsage resp = said.usage := by
  unfold completion? at wellFormed
  simp only [Option.bind_eq_bind, Option.bind_eq_some_iff, Option.some.injEq] at wellFormed
  obtain ⟨choice, ⟨choices, foundChoices, items, readItems, first⟩, message, foundMessage,
    content, readContent, toolCalls, readCalls, rfl⟩ := wellFormed
  have found : firstChoice resp = some
      { text := message.textOr "content" ""
        toolCalls := ((message.get? "tool_calls").bind Json.asArray?).getD []
        finishReason := choice.text? "finish_reason" } := by
    simp [firstChoice, foundChoices, readItems, first, foundMessage]
  have null : Json.null.asStr? = none := rfl
  exact ⟨_, found, textOr_of_completionContent readContent,
    toolCalls_of_completionToolCalls readCalls, (bind_nonNull? null choice "finish_reason").symm,
    rfl⟩

theorem group_heard_iff {calls : List Json} {said : List ToolCall}
    (wellFormed : calls.mapM toolCall? = some said) :
    (Grouping.group mergeFragments (calls.map heard)).map Prod.snd = said ↔
      (calls.map callIndex).Nodup := by
  have keys : (calls.map heard).map Prod.fst =
      (calls.map callIndex).map fun index => some (Json.num (.posInt index)) := by
    simp [heard, Function.comp_def]
  constructor
  · intro same
    have full : (Grouping.group mergeFragments (calls.map heard)).length =
        (calls.map heard).length := by
      have lengths := congrArg List.length (same.trans (heard_of_toolCalls wellFormed).symm)
      simpa using lengths
    have distinct := Grouping.nodup_of_length_group full
    rw [keys] at distinct
    exact List.Nodup.of_map _ distinct
  · intro distinct
    have distinctKeys : ((calls.map heard).map Prod.fst).Nodup := by
      rw [keys]
      refine distinct.map fun first second same => ?_
      simpa using same
    rw [Grouping.group_of_nodup distinctKeys]
    exact heard_of_toolCalls wellFormed

theorem streamFinishReason_iff {choice : OpenAiChoice} {reason : Option Json}
    (read : choice.finishReason = reason.bind Json.asStr?) :
    some (.str (streamFinishReason choice)) = reason ↔ ReplayedReason reason := by
  unfold streamFinishReason ReplayedReason
  constructor
  · rintro rfl
    split <;> simp
  · rintro (rfl | rfl | rfl) <;> simp [read]

/--
The replay of a well-formed completion says the same exactly when its tool calls
carry distinct indices and its finish reason is one that is passed on.
-/
theorem streamed_completion_faithful_iff (serde : SerdeJson) {resp : Json} {said : Completion}
    (wellFormed : completion? resp = some said) :
    streamedCompletion serde (openaiSseStream serde resp) = said ↔
      DistinctIndices resp ∧ ReplayedReason said.finishReason := by
  obtain ⟨choice, found, text, calls, reason, usage⟩ := completion_eq_some wellFormed
  have indices : DistinctIndices resp ↔ (choice.toolCalls.map callIndex).Nodup := by
    simp [DistinctIndices, found]
  rw [streamedCompletion_replay serde found, indices, ← group_heard_iff calls,
    ← streamFinishReason_iff reason, text, usage]
  obtain ⟨content, toolCalls, finishReason, tokens⟩ := said
  simp

/-! ## Two tool calls, with indices and without -/

def functionCall (id name : String) : Json :=
  .obj [("id", .str id), ("type", .str "function"),
    ("function", .obj [("name", .str name), ("arguments", .str "{}")])]

def toolCompletion (calls : List Json) : Json :=
  .obj [("choices", .arr [.obj [
    ("message", .obj [("role", .str "assistant"), ("content", .null),
      ("tool_calls", .arr calls)]),
    ("finish_reason", .str "tool_calls")]])]

/-- A call that carries its index. -/
def indexedCall (index : Nat) (id name : String) : Json :=
  .obj [("index", .ofNat index), ("id", .str id), ("type", .str "function"),
    ("function", .obj [("name", .str name), ("arguments", .str "{}")])]

theorem streamed_completion_two_calls :
    streamedCompletion SerdeJson.compact (openaiSseStream SerdeJson.compact
        (toolCompletion [indexedCall 0 "call_1" "read", indexedCall 1 "call_2" "list"])) =
      ⟨"", [⟨"call_1", "read", "{}"⟩, ⟨"call_2", "list", "{}"⟩], some (.str "tool_calls"),
        (0, 0)⟩ := by
  refine (streamed_completion_faithful_iff SerdeJson.compact (by rfl)).mpr ⟨?_, Or.inr (Or.inl rfl)⟩
  intro choice found
  have both : firstChoice
      (toolCompletion [indexedCall 0 "call_1" "read", indexedCall 1 "call_2" "list"]) =
    some ⟨"", [indexedCall 0 "call_1" "read", indexedCall 1 "call_2" "list"],
      some "tool_calls"⟩ := rfl
  rw [both] at found
  cases found
  decide

/-- Two parallel calls without indices are heard as one. -/
theorem streamed_completion_merges_calls :
    ¬ ∀ (serde : SerdeJson) (resp : Json) (said : Completion), completion? resp = some said →
      streamedCompletion serde (openaiSseStream serde resp) = said := by
  intro faithful
  have same := congrArg Completion.toolCalls (faithful SerdeJson.compact
    (toolCompletion [functionCall "call_1" "read", functionCall "call_2" "list"])
    ⟨"", [⟨"call_1", "read", "{}"⟩, ⟨"call_2", "list", "{}"⟩], some (.str "tool_calls"), (0, 0)⟩
    (by rfl))
  have found : firstChoice
      (toolCompletion [functionCall "call_1" "read", functionCall "call_2" "list"]) =
    some ⟨"", [functionCall "call_1" "read", functionCall "call_2" "list"],
      some "tool_calls"⟩ := rfl
  rw [streamedCompletion_replay SerdeJson.compact found] at same
  exact absurd same (by decide)

end AiPowerGateway.Share

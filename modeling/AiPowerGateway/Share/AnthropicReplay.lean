import AiPowerGateway.Share.Replies

/-!
# The Anthropic event stream, read back

A client folds the events of a stream into a message.  Folding the replay of a
completion gives the message of the direct conversion, except that a text arrives
twice: once in the start of its block and once as the delta.
-/

namespace AiPowerGateway.Share

/-! ## The client -/

/-- The events of a stream whose data is JSON. -/
def readEvents (serde : SerdeJson) (text : String) : List NamedEvent :=
  (Sse.decode text).filterMap fun event =>
    (serde.clientParse event.data).map fun data => (event.name, data)

/-- The block that is open: its index, its content, and the JSON text received for it. -/
structure OpenBlock where
  index : Option Json
  content : Json
  partialJson : Option String := none

/-- What a client knows of the message so far. -/
structure AnthropicClient where
  model : Option Json := none
  inputTokens : Option Json := none
  outputTokens : Option Json := none
  stopReason : Option Json := none
  content : List Json := []
  opened : Option OpenBlock := none

def OpenBlock.receive (block : OpenBlock) (delta : Json) : OpenBlock :=
  match delta.text? "type" with
  | some "text_delta" =>
      let text := block.content.textOr "text" "" ++ delta.textOr "text" ""
      { block with content := (block.content.set? "text" (.str text)).getD block.content }
  | some "input_json_delta" =>
      { block with
        partialJson := some (block.partialJson.getD "" ++ delta.textOr "partial_json" "") }
  | _ => block

/-- The JSON text received for a block becomes its input. -/
def OpenBlock.close (serde : SerdeJson) (block : OpenBlock) : Json :=
  match block.partialJson.bind serde.clientParse with
  | some input => (block.content.set? "input" input).getD block.content
  | none => block.content

def AnthropicClient.receive (serde : SerdeJson) (client : AnthropicClient) :
    NamedEvent → AnthropicClient
  | ("message_start", data) =>
      let message := data.get? "message"
      let usage := message.bind (·.get? "usage")
      { client with
        model := message.bind (·.get? "model")
        inputTokens := usage.bind (·.get? "input_tokens")
        outputTokens := usage.bind (·.get? "output_tokens") }
  | ("content_block_start", data) =>
      { client with
        opened := some ⟨data.get? "index", (data.get? "content_block").getD .null, none⟩ }
  | ("content_block_delta", data) =>
      { client with
        opened := client.opened.map fun block =>
          if block.index = data.get? "index" then block.receive ((data.get? "delta").getD .null)
          else block }
  | ("content_block_stop", data) =>
      match client.opened with
      | none => client
      | some block =>
          if block.index = data.get? "index" then
            { client with content := client.content ++ [block.close serde], opened := none }
          else client
  | ("message_delta", data) =>
      { client with
        stopReason := (data.get? "delta").bind (·.get? "stop_reason")
        outputTokens := (data.get? "usage").bind (·.get? "output_tokens") }
  | _ => client

/-- The part of a message that both forms of a reply give. -/
structure AnthropicMessage where
  model : Option Json
  content : List Json
  stopReason : Option Json
  inputTokens : Option Json
  outputTokens : Option Json
  deriving DecidableEq

def AnthropicClient.message (client : AnthropicClient) : AnthropicMessage :=
  ⟨client.model, client.content, client.stopReason, client.inputTokens, client.outputTokens⟩

/-- The message that a client folds from a stream. -/
def streamedMessage (serde : SerdeJson) (text : String) : AnthropicMessage :=
  ((readEvents serde text).foldl (AnthropicClient.receive serde) {}).message

/-- The message that a client reads from a reply body. -/
def bodyMessage (body : Json) : AnthropicMessage :=
  let usage := body.get? "usage"
  { model := body.get? "model"
    content := ((body.get? "content").bind Json.asArray?).getD []
    stopReason := body.get? "stop_reason"
    inputTokens := usage.bind (·.get? "input_tokens")
    outputTokens := usage.bind (·.get? "output_tokens") }

/-! ## Reading the frames back -/

theorem readEvents_eventFrames (serde : SerdeJson) (events : List NamedEvent)
    (names : ∀ event ∈ events, Sse.OneLine event.1) :
    readEvents serde (eventFrames serde events) = events := by
  induction events with
  | nil => rfl
  | cons event events ih =>
      obtain ⟨name, data⟩ := event
      have first : Sse.OneLine name := names (name, data) (List.mem_cons_self ..)
      have rest := ih fun other mem => names other (List.mem_cons_of_mem _ mem)
      unfold readEvents at rest ⊢
      rw [eventFrames, Sse.decode_namedFrame first (serde.oneLine_toString data),
        List.filterMap_cons, serde.clientParse_toString]
      simp [rest]

theorem oneLine_blockEvents {serde : SerdeJson} {index : Nat} {block : Json}
    {event : NamedEvent} (mem : event ∈ blockEvents serde index block) :
    Sse.OneLine event.1 := by
  unfold blockEvents at mem
  cases delta : delta? serde block with
  | none =>
      simp only [delta, Option.map_none, Option.toList_none, List.append_nil,
        List.singleton_append, List.mem_cons, List.not_mem_nil, or_false] at mem
      rcases mem with rfl | rfl
      · exact (by decide : Sse.OneLine "content_block_start")
      · exact (by decide : Sse.OneLine "content_block_stop")
  | some value =>
      simp only [delta, Option.map_some, Option.toList_some, List.cons_append, List.nil_append,
        List.mem_cons, List.not_mem_nil, or_false] at mem
      rcases mem with rfl | rfl | rfl
      · exact (by decide : Sse.OneLine "content_block_start")
      · exact (by decide : Sse.OneLine "content_block_delta")
      · exact (by decide : Sse.OneLine "content_block_stop")

theorem readEvents_anthropicSseStream (serde : SerdeJson) (resp : Json) :
    readEvents serde (anthropicSseStream serde resp) = anthropicEvents serde resp := by
  unfold anthropicSseStream
  apply readEvents_eventFrames
  intro event mem
  simp only [anthropicEvents, List.mem_append, List.mem_cons, List.not_mem_nil, or_false,
    List.mem_flatMap] at mem
  rcases mem with (rfl | ⟨block, -, mem⟩) | rfl | rfl
  · exact (by decide : Sse.OneLine "message_start")
  · exact oneLine_blockEvents mem
  · exact (by decide : Sse.OneLine "message_delta")
  · exact (by decide : Sse.OneLine "message_stop")

/-! ## Folding the replay -/

/-- A block as the client hears it: a text arrives twice. -/
def doubled (block : Json) : Json :=
  match block.text? "type" with
  | some "text" => textBlock (block.textOr "text" "" ++ block.textOr "text" "")
  | _ => block

theorem doubled_textBlock (text : String) :
    doubled (textBlock text) = textBlock (text ++ text) := by
  simp [doubled, textBlock, Json.text?, Json.textOr]

theorem doubled_toolUseBlock (serde : SerdeJson) (call : Json) :
    doubled (toolUseBlock serde call) = toolUseBlock serde call := by
  simp [doubled, toolUseBlock, Json.text?]

theorem mem_contentBlocks {serde : SerdeJson} {resp block : Json}
    (mem : block ∈ contentBlocks serde resp) :
    (∃ text, block = textBlock text) ∨ ∃ call, block = toolUseBlock serde call := by
  unfold contentBlocks at mem
  cases found : firstChoice resp with
  | none => exact Or.inl ⟨"", by simpa [found] using mem⟩
  | some choice =>
      simp only [found] at mem
      split at mem
      · exact Or.inl ⟨"", by simpa using mem⟩
      · rw [choiceBlocks, List.mem_append] at mem
        rcases mem with mem | mem
        · split at mem
          · simp at mem
          · exact Or.inl ⟨choice.text, by simpa using mem⟩
        · obtain ⟨call, -, rfl⟩ := List.mem_map.mp mem
          exact Or.inr ⟨call, rfl⟩

/-- The client's rule for one block: it opens, receives its delta and closes. -/
theorem foldl_blockEvents {serde : SerdeJson} {resp block : Json}
    (mem : block ∈ contentBlocks serde resp) (index : Nat) {client : AnthropicClient}
    (closed : client.opened = none) :
    (blockEvents serde index block).foldl (AnthropicClient.receive serde) client =
      { client with content := client.content ++ [doubled block] } := by
  rcases mem_contentBlocks mem with ⟨text, rfl⟩ | ⟨call, rfl⟩
  · rw [doubled_textBlock]
    simp [blockEvents, delta?, textBlock, Json.textOr, Json.text?, blockStart, blockDelta,
      blockStop, AnthropicClient.receive, OpenBlock.receive, OpenBlock.close, Json.set?,
      Json.insertField, closed]
  · rw [doubled_toolUseBlock]
    simp [blockEvents, delta?, toolUseBlock, Json.textOr, Json.text?, blockStart, blockDelta,
      blockStop, AnthropicClient.receive, OpenBlock.receive, OpenBlock.close, Json.set?,
      Json.insertField, closed, serde.clientParse_toString]

/-- A run of blocks, by induction on the blocks still to come. -/
theorem foldl_blocks {serde : SerdeJson} {resp : Json} (blocks : List Json)
    (within : ∀ block ∈ blocks, block ∈ contentBlocks serde resp) (start : Nat)
    {client : AnthropicClient} (closed : client.opened = none) :
    ((blocks.zipIdx start).flatMap fun (block, index) => blockEvents serde index block).foldl
        (AnthropicClient.receive serde) client =
      { client with content := client.content ++ blocks.map doubled } := by
  induction blocks generalizing start client with
  | nil => simp
  | cons block blocks ih =>
      rw [List.zipIdx_cons, List.flatMap_cons, List.foldl_append,
        foldl_blockEvents (within block (List.mem_cons_self ..)) start closed,
        ih (fun other mem => within other (List.mem_cons_of_mem _ mem)) (start + 1)
          (by exact closed)]
      simp

/-- The message that the client ends with. -/
theorem streamedMessage_replay (serde : SerdeJson) (resp : Json) :
    streamedMessage serde (anthropicSseStream serde resp) =
      { bodyMessage (openaiToAnthropic serde resp) with
        content := (contentBlocks serde resp).map doubled } := by
  unfold streamedMessage
  rw [readEvents_anthropicSseStream, anthropicEvents, List.foldl_append, List.foldl_append]
  have started : [messageStart resp].foldl (AnthropicClient.receive serde) {} =
      { model := some (.str (replyModel resp))
        inputTokens := some (.num (.posInt (extractOpenaiUsage resp).1))
        outputTokens := some (.ofNat 0) } := by
    simp [messageStart, AnthropicClient.receive]
  rw [started, foldl_blocks _ (fun _ mem => mem) 0 rfl]
  simp [messageDelta, messageStop, AnthropicClient.receive, AnthropicClient.message,
    bodyMessage, openaiToAnthropic]

/-! ## When the two forms agree -/

theorem content_openaiToAnthropic (serde : SerdeJson) (resp : Json) :
    (bodyMessage (openaiToAnthropic serde resp)).content = contentBlocks serde resp := by
  simp [bodyMessage, openaiToAnthropic]

/-- The text of the first choice, if any, is empty. -/
def NoText (resp : Json) : Prop := ∀ choice, firstChoice resp = some choice → choice.text = ""

theorem append_self_eq_self {text : String} : text ++ text = text ↔ text = "" := by
  constructor
  · intro same
    have lengths := congrArg String.length same
    rw [String.length_append] at lengths
    exact String.length_eq_zero_iff.mp (by omega)
  · rintro rfl
    rfl

theorem doubled_textBlock_eq_self {text : String} :
    doubled (textBlock text) = textBlock text ↔ text = "" := by
  rw [doubled_textBlock, ← append_self_eq_self]
  simp [textBlock]

theorem map_doubled_iff (serde : SerdeJson) (resp : Json) :
    (contentBlocks serde resp).map doubled = contentBlocks serde resp ↔ NoText resp := by
  have fixed : (contentBlocks serde resp).map doubled = contentBlocks serde resp ↔
      ∀ block ∈ contentBlocks serde resp, doubled block = block := by
    constructor
    · intro same block mem
      have mapped : (contentBlocks serde resp).map doubled = (contentBlocks serde resp).map id := by
        rw [same, List.map_id]
      exact List.map_inj_left.mp mapped block mem
    · intro each
      simpa using List.map_congr_left each
  rw [fixed]
  constructor
  · intro each choice found
    by_contra text
    have listed : textBlock choice.text ∈ contentBlocks serde resp := by
      simp [contentBlocks, found, choiceBlocks, text]
    exact text (doubled_textBlock_eq_self.mp (each _ listed))
  · intro noText block mem
    unfold contentBlocks at mem
    cases found : firstChoice resp with
    | none =>
        have empty : block = textBlock "" := by simpa [found] using mem
        rw [empty]
        exact doubled_textBlock_eq_self.mpr rfl
    | some choice =>
        simp only [found, choiceBlocks, noText choice found, ↓reduceIte, List.nil_append] at mem
        split at mem
        · rw [List.mem_singleton.mp mem]
          exact doubled_textBlock_eq_self.mpr rfl
        · obtain ⟨call, -, rfl⟩ := List.mem_map.mp mem
          exact doubled_toolUseBlock serde call

/-! ## The order of the events -/

/-- The name of an event and the block it is about. -/
def eventMark (event : NamedEvent) : String × Option Json := (event.1, event.2.get? "index")

def blockShape (index : Nat) : List (String × Option Json) :=
  [("content_block_start", some (.ofNat index)), ("content_block_delta", some (.ofNat index)),
    ("content_block_stop", some (.ofNat index))]

/-- The events of a replay of so many blocks. -/
def streamShape (blocks : Nat) : List (String × Option Json) :=
  [("message_start", none)] ++ (List.range blocks).flatMap blockShape ++
    [("message_delta", none), ("message_stop", none)]

theorem eventMark_blockEvents {serde : SerdeJson} {resp block : Json}
    (mem : block ∈ contentBlocks serde resp) (index : Nat) :
    (blockEvents serde index block).map eventMark = blockShape index := by
  rcases mem_contentBlocks mem with ⟨text, rfl⟩ | ⟨call, rfl⟩
  · simp [blockEvents, delta?, textBlock, Json.textOr, Json.text?, blockStart, blockDelta,
      blockStop, eventMark, blockShape]
  · simp [blockEvents, delta?, toolUseBlock, Json.textOr, Json.text?, blockStart, blockDelta,
      blockStop, eventMark, blockShape]

theorem eventMark_anthropicEvents (serde : SerdeJson) (resp : Json) :
    (anthropicEvents serde resp).map eventMark =
      streamShape (contentBlocks serde resp).length := by
  have blocks : (contentBlocks serde resp).zipIdx.flatMap
      (fun entry => (blockEvents serde entry.2 entry.1).map eventMark) =
        (List.range (contentBlocks serde resp).length).flatMap blockShape := by
    rw [List.flatMap_congr fun entry mem =>
      eventMark_blockEvents (List.fst_mem_of_mem_zipIdx mem) entry.2]
    rw [← List.flatMap_map Prod.snd blockShape, List.zipIdx_map_snd, List.range_eq_range']
  simp only [anthropicEvents, List.map_append, List.map_flatMap, blocks, streamShape]
  rfl

/--
The replay of a completion opens, fills and closes its blocks one after the other,
and a client that folds it gets the message of the direct conversion exactly when
the first choice has no text.
-/
theorem streamed_message_agrees_iff (serde : SerdeJson) (resp : Json) :
    (readEvents serde (anthropicSseStream serde resp)).map eventMark =
        streamShape (bodyMessage (openaiToAnthropic serde resp)).content.length ∧
      (streamedMessage serde (anthropicSseStream serde resp) =
          bodyMessage (openaiToAnthropic serde resp) ↔ NoText resp) := by
  constructor
  · rw [readEvents_anthropicSseStream, content_openaiToAnthropic]
    exact eventMark_anthropicEvents serde resp
  · rw [streamedMessage_replay, ← map_doubled_iff serde resp]
    constructor
    · intro same
      have contents := congrArg AnthropicMessage.content same
      rwa [content_openaiToAnthropic] at contents
    · intro same
      rw [same, ← content_openaiToAnthropic]

/-- The arguments of the tool calls are texts of JSON objects. -/
def ArgumentsDecode (serde : SerdeJson) (resp : Json) : Prop :=
  ∀ choice, firstChoice resp = some choice → ∀ call ∈ choice.toolCalls, ∃ text fields,
    functionField call "arguments" = some (.str text) ∧ serde.fromStr text = .ok (.obj fields)

/-- A completion whose only choice says `hi`. -/
def greeting : Json :=
  .obj [("model", .str "glm-4-flash"), ("choices", .arr [
    .obj [("message", .obj [("role", .str "assistant"), ("content", .str "hi")]),
      ("finish_reason", .str "stop")]])]

/-- The client of the stream reads `hihi` where the direct conversion says `hi`. -/
theorem streamed_message_differs :
    ¬ ∀ (serde : SerdeJson) (resp : Json), ArgumentsDecode serde resp →
      streamedMessage serde (anthropicSseStream serde resp) =
        bodyMessage (openaiToAnthropic serde resp) := by
  intro agree
  have decodes : ArgumentsDecode SerdeJson.compact greeting := by
    intro choice found call mem
    have only : firstChoice greeting = some ⟨"hi", [], some "stop"⟩ := rfl
    rw [only] at found
    cases found
    cases mem
  have contents := congrArg AnthropicMessage.content (agree SerdeJson.compact greeting decodes)
  rw [streamedMessage_replay, content_openaiToAnthropic] at contents
  exact absurd contents (by decide)

end AiPowerGateway.Share

import AiPowerGateway.Share.OpenaiReplay
import AiPowerGateway.Share.ToolTurns

/-!
# The blocks of a converted conversation

An Anthropic conversation as its messages say it: texts, tool uses and tool results.  The
conversion deals them out to messages of its own, and each kind is found there complete
and in its old order.
-/

namespace AiPowerGateway.Share

/-! ## What an Anthropic conversation says -/

structure ToolUse where
  id : String
  name : String
  input : Json
  deriving DecidableEq, Repr

/-- The content of a tool result, which may be absent. -/
inductive ResultContent where
  | absent
  | text (text : String)
  | parts (texts : List String)
  deriving DecidableEq, Repr

inductive Block where
  | text (text : String)
  | toolUse (use : ToolUse)
  | toolResult (id : String) (content : ResultContent)
  deriving DecidableEq, Repr

inductive MessageContent where
  | text (text : String)
  | blocks (blocks : List Block)
  deriving DecidableEq, Repr

inductive ChatRole where
  | user
  | assistant
  deriving DecidableEq, Repr

structure ChatMessage where
  role : ChatRole
  content : MessageContent
  deriving DecidableEq, Repr

def ChatRole.name : ChatRole → String
  | .user => "user"
  | .assistant => "assistant"

/-- The text of a result: none is empty, parts are one per line. -/
def ResultContent.joined : ResultContent → String
  | .absent => ""
  | .text said => said
  | .parts texts => Text.joinLines texts

def Block.text? : Block → Option String
  | .text said => some said
  | _ => none

def Block.use? : Block → Option ToolUse
  | .toolUse use => some use
  | _ => none

/-- The id and the text of a tool result. -/
def Block.result? : Block → Option (String × String)
  | .toolResult id content => some (id, content.joined)
  | _ => none

def MessageContent.uses : MessageContent → List ToolUse
  | .text _ => []
  | .blocks items => items.filterMap Block.use?

def MessageContent.results : MessageContent → List (String × String)
  | .text _ => []
  | .blocks items => items.filterMap Block.result?

/-- The text of a message.  An array message is passed over when it has neither a text
nor a tool use. -/
def MessageContent.spoken : MessageContent → Option String
  | .text said => some said
  | .blocks items =>
      let said := Text.joinLines (items.filterMap Block.text?)
      if said ≠ "" ∨ items.filterMap Block.use? ≠ [] then some said else none

/-! ## Well-formed requests -/

/-- A text block, whatever other fields it has. -/
def IsTextBlock (block : Json) (text : String) : Prop :=
  block.text? "type" = some "text" ∧ block.text? "text" = some text

inductive SaysResult : Option Json → ResultContent → Prop where
  | absent : SaysResult none .absent
  | text (text : String) : SaysResult (some (.str text)) (.text text)
  | parts {items : List Json} {texts : List String} :
      List.Forall₂ IsTextBlock items texts → SaysResult (some (.arr items)) (.parts texts)

inductive SaysBlock : Json → Block → Prop where
  | text {block : Json} {text : String} : IsTextBlock block text → SaysBlock block (.text text)
  | toolUse {block : Json} {use : ToolUse} :
      block.text? "type" = some "tool_use" → block.text? "id" = some use.id →
      block.text? "name" = some use.name → block.get? "input" = some use.input →
      SaysBlock block (.toolUse use)
  | toolResult {block : Json} {id : String} {content : ResultContent} :
      block.text? "type" = some "tool_result" → block.text? "tool_use_id" = some id →
      SaysResult (block.get? "content") content → SaysBlock block (.toolResult id content)

inductive SaysContent : Option Json → MessageContent → Prop where
  | text (text : String) : SaysContent (some (.str text)) (.text text)
  | blocks {items : List Json} {blocks : List Block} :
      List.Forall₂ SaysBlock items blocks → SaysContent (some (.arr items)) (.blocks blocks)

def SaysMessage (message : Json) (said : ChatMessage) : Prop :=
  message.text? "role" = some said.role.name ∧ SaysContent (message.get? "content") said.content

/-- The messages of a request are well formed and say the conversation. -/
def SaysConversation (body : Json) (conversation : List ChatMessage) : Prop :=
  List.Forall₂ SaysMessage (arrayField body "messages") conversation

/-! ## What the OpenAI messages hold -/

/-- The tool calls of all messages. -/
def sentCalls (messages : List Json) : List Json :=
  messages.flatMap fun message => arrayField message "tool_calls"

def isToolMessage (message : Json) : Bool := message.textOr "role" "" = "tool"

/-- The id and the content of each message of the role `tool`. -/
def sentResults (messages : List Json) : List (Option String × Option String) :=
  (messages.filter isToolMessage).map fun message =>
    (message.text? "tool_call_id", message.text? "content")

/-- The contents of the other messages. -/
def sentContents (messages : List Json) : List (Option String) :=
  (messages.filter fun message => !isToolMessage message).map fun message =>
    message.text? "content"

/-- A tool use as a tool call, its input printed. -/
def ToolUse.call (serde : SerdeJson) (use : ToolUse) : ToolCall :=
  ⟨use.id, use.name, serde.toString use.input⟩

def systemText (body : Json) : String := Text.joinLines (contentTexts (body.get? "system"))

/-- The messages hold the conversation, each kind complete and in order. -/
structure HoldsConversation (serde : SerdeJson) (body : Json) (conversation : List ChatMessage)
    (messages : List Json) : Prop where
  calls : (sentCalls messages).map toolCall? =
    (conversation.flatMap fun message => message.content.uses).map fun use =>
      some (use.call serde)
  results : sentResults messages =
    (conversation.flatMap fun message => message.content.results).map fun (id, text) =>
      (some id, some text)
  contents : sentContents messages =
    ((if systemText body = "" then [] else [systemText body]) ++
      conversation.filterMap fun message => message.content.spoken).map some

/-! ## One block -/

section Blocks

variable {items : List Json} {blocks : List Block}

theorem blockTexts_cons {block : Json} {text : String} (holds : block.text? "text" = some text)
    (rest : List Json) : blockTexts (block :: rest) = text :: blockTexts rest := by
  simp [blockTexts, holds]

theorem texts_of_textBlocks {texts : List String} (texted : List.Forall₂ IsTextBlock items texts) :
    blockTexts items = texts := by
  induction texted with
  | nil => rfl
  | cons first _ ih => rw [blockTexts_cons first.2, ih]

/-- The content of a tool result is joined as the conversion joins it. -/
theorem joined_of_saysResult {content : Option Json} {said : ResultContent}
    (meant : SaysResult content said) : Text.joinLines (contentTexts content) = said.joined := by
  cases meant with
  | absent => rfl
  | text said => rfl
  | parts texted => rw [contentTexts, texts_of_textBlocks texted, ResultContent.joined]

theorem blockType_of_text {block : Json} {kind : String}
    (type : block.text? "type" = some kind) : blockType block = kind := by
  rw [blockType, Json.textOr, type, Option.getD_some]

theorem toolCall?_toolCall (serde : SerdeJson) (block : Json) :
    toolCall? (toolCall serde block) =
      some ⟨block.textOr "id" "call_0", block.textOr "name" "",
        serde.toString ((block.get? "input").getD (.obj []))⟩ := rfl

theorem fields_toolMessage (block : Json) :
    ((toolMessage block).text? "tool_call_id", (toolMessage block).text? "content") =
      (some (block.textOr "tool_use_id" "call_0"),
        some (Text.joinLines (contentTexts (block.get? "content")))) := rfl

/-- The tool calls of the blocks are their tool uses. -/
theorem toolCalls_of_saysBlock (serde : SerdeJson) (meant : List.Forall₂ SaysBlock items blocks) :
    (toolCalls serde items).map toolCall? =
      (blocks.filterMap Block.use?).map fun use => some (use.call serde) := by
  unfold toolCalls
  induction meant with
  | nil => rfl
  | @cons block said items blocks first _ ih =>
      cases first with
      | text isText =>
          rw [List.filter_cons_of_neg (by simp [blockType_of_text isText.1])]
          exact ih
      | @toolUse use type id name input =>
          rw [List.filter_cons_of_pos (by simp [blockType_of_text type]), List.map_cons,
            List.map_cons, ih, toolCall?_toolCall, Json.textOr, id, Json.textOr, name, input]
          rfl
      | toolResult type id content =>
          rw [List.filter_cons_of_neg (by simp [blockType_of_text type])]
          exact ih

/-- The tool messages of the blocks are their tool results. -/
theorem toolMessages_of_saysBlock (meant : List.Forall₂ SaysBlock items blocks) :
    (toolMessages items).map (fun message =>
        (message.text? "tool_call_id", message.text? "content")) =
      (blocks.filterMap Block.result?).map fun (id, text) => (some id, some text) := by
  unfold toolMessages
  induction meant with
  | nil => rfl
  | @cons block said items blocks first _ ih =>
      cases first with
      | text isText =>
          rw [List.filter_cons_of_neg (by simp [blockType_of_text isText.1])]
          exact ih
      | toolUse type id name input =>
          rw [List.filter_cons_of_neg (by simp [blockType_of_text type])]
          exact ih
      | @toolResult id content type answers result =>
          rw [List.filter_cons_of_pos (by simp [blockType_of_text type]), List.map_cons,
            List.map_cons, ih, fields_toolMessage, Json.textOr, answers,
            joined_of_saysResult result]
          rfl

/-- The texts of the blocks are what the conversion joins. -/
theorem textParts_of_saysBlock (meant : List.Forall₂ SaysBlock items blocks) :
    textParts items = blocks.filterMap Block.text? := by
  unfold textParts
  induction meant with
  | nil => rfl
  | @cons block said items blocks first _ ih =>
      cases first with
      | text isText =>
          rw [List.filter_cons_of_pos (by simp [blockType_of_text isText.1]),
            blockTexts_cons isText.2, ih]
          rfl
      | toolUse type id name input =>
          rw [List.filter_cons_of_neg (by simp [blockType_of_text type])]
          exact ih
      | toolResult type id content =>
          rw [List.filter_cons_of_neg (by simp [blockType_of_text type])]
          exact ih

end Blocks

/-! ## The messages of one kind -/

section Kinds

variable (first second : List Json)

theorem sentCalls_append : sentCalls (first ++ second) = sentCalls first ++ sentCalls second :=
  List.flatMap_append

theorem sentResults_append :
    sentResults (first ++ second) = sentResults first ++ sentResults second := by
  simp only [sentResults, List.filter_append, List.map_append]

theorem sentContents_append :
    sentContents (first ++ second) = sentContents first ++ sentContents second := by
  simp only [sentContents, List.filter_append, List.map_append]

end Kinds

theorem sentResults_other {message : Json} (other : isToolMessage message = false) :
    sentResults [message] = [] := by
  rw [sentResults, List.filter_cons_of_neg (by simp [other])]
  rfl

theorem sentContents_other {message : Json} (other : isToolMessage message = false) :
    sentContents [message] = [message.text? "content"] := by
  rw [sentContents, List.filter_cons_of_pos (by simp [other])]
  rfl

theorem arrayField_blockMessage (model role text : String) (calls : List Json) :
    arrayField (blockMessage model role text calls) "tool_calls" = calls := by
  unfold arrayField blockMessage
  by_cases called : calls = []
  · by_cases thinking : role = "assistant" ∧ Text.contains model "deepseek"
    · simp [called, thinking]
    · simp [called, thinking]
  · simp [called]

theorem ChatRole.name_ne_tool (role : ChatRole) : role.name ≠ "tool" := by
  cases role <;> decide

theorem isToolMessage_plainMessage (role : ChatRole) (text : String) :
    isToolMessage (plainMessage role.name text) = false := decide_eq_false role.name_ne_tool

theorem isToolMessage_blockMessage (model : String) (role : ChatRole) (text : String)
    (calls : List Json) : isToolMessage (blockMessage model role.name text calls) = false :=
  decide_eq_false role.name_ne_tool

/-- Tool messages are all of the role `tool`, and they call nothing. -/
theorem sent_toolMessages (items : List Json) :
    sentCalls (toolMessages items) = [] ∧ sentContents (toolMessages items) = [] ∧
      sentResults (toolMessages items) = (toolMessages items).map fun message =>
        (message.text? "tool_call_id", message.text? "content") := by
  have role : ∀ message ∈ toolMessages items, isToolMessage message = true := by
    intro message mem
    obtain ⟨block, -, rfl⟩ := List.mem_map.mp mem
    rfl
  refine ⟨?_, ?_, ?_⟩
  · refine List.flatMap_eq_nil_iff.mpr fun message mem => ?_
    obtain ⟨block, -, rfl⟩ := List.mem_map.mp mem
    rfl
  · rw [sentContents, List.filter_eq_nil_iff.mpr fun message mem => by simp [role message mem]]
    rfl
  · rw [sentResults, List.filter_eq_self.mpr role]

/-! ## One message -/

section Message

variable {message : Json} {said : ChatMessage}

theorem role_of_saysMessage (meant : SaysMessage message said) :
    messageRole message = said.role.name := by
  rw [messageRole, Json.textOr, meant.1, Option.getD_some]

/-- What a well-formed message becomes. -/
theorem openaiMessages_cases (serde : SerdeJson) (model : String)
    (meant : SaysMessage message said) :
    (∃ text, said.content = .text text ∧
        openaiMessages serde model message = [plainMessage said.role.name text]) ∨
      ∃ items blocks, said.content = .blocks blocks ∧ List.Forall₂ SaysBlock items blocks ∧
        openaiMessages serde model message =
          (if Text.joinLines (textParts items) ≠ "" ∨ toolCalls serde items ≠ [] then
            [blockMessage model said.role.name (Text.joinLines (textParts items))
              (toolCalls serde items)] else []) ++ toolMessages items := by
  have role := role_of_saysMessage meant
  obtain ⟨ownRole, content⟩ := said
  obtain ⟨-, reads⟩ := meant
  unfold openaiMessages
  cases found : message.get? "content" with
  | none =>
      rw [found] at reads
      cases reads
  | some value =>
      rw [found] at reads
      cases reads with
      | text text => exact .inl ⟨text, rfl, by simp [role]⟩
      | @blocks items blocks each => exact .inr ⟨items, blocks, rfl, each, by simp [role]⟩

/-- The calls of a message are its tool uses. -/
theorem calls_openaiMessages (serde : SerdeJson) (model : String)
    (meant : SaysMessage message said) :
    (sentCalls (openaiMessages serde model message)).map toolCall? =
      said.content.uses.map fun use => some (use.call serde) := by
  rcases openaiMessages_cases serde model meant with
    ⟨text, content, becomes⟩ | ⟨items, blocks, content, each, becomes⟩
  · rw [becomes, content]
    rfl
  · rw [becomes, content, sentCalls_append, (sent_toolMessages items).1, List.append_nil,
      MessageContent.uses, ← toolCalls_of_saysBlock serde each]
    by_cases called : toolCalls serde items = []
    · by_cases silent : Text.joinLines (textParts items) = ""
      · simp [called, silent, sentCalls]
      · simp [called, silent, sentCalls, arrayField_blockMessage]
    · simp [called, sentCalls, arrayField_blockMessage]

/-- The tool messages of a message are its tool results. -/
theorem results_openaiMessages (serde : SerdeJson) (model : String)
    (meant : SaysMessage message said) :
    sentResults (openaiMessages serde model message) =
      said.content.results.map fun (id, text) => (some id, some text) := by
  rcases openaiMessages_cases serde model meant with
    ⟨text, content, becomes⟩ | ⟨items, blocks, content, each, becomes⟩
  · rw [becomes, content, sentResults_other (isToolMessage_plainMessage ..)]
    rfl
  · rw [becomes, content, sentResults_append, (sent_toolMessages items).2.2,
      MessageContent.results, ← toolMessages_of_saysBlock each]
    split
    · rw [sentResults_other (isToolMessage_blockMessage ..), List.nil_append]
    · rfl

/-- The other messages of a message hold its text. -/
theorem contents_openaiMessages (serde : SerdeJson) (model : String)
    (meant : SaysMessage message said) :
    sentContents (openaiMessages serde model message) = said.content.spoken.toList.map some := by
  rcases openaiMessages_cases serde model meant with
    ⟨text, content, becomes⟩ | ⟨items, blocks, content, each, becomes⟩
  · rw [becomes, content, sentContents_other (isToolMessage_plainMessage ..)]
    rfl
  · have calls : toolCalls serde items = [] ↔ blocks.filterMap Block.use? = [] := by
      have same := congrArg List.length (toolCalls_of_saysBlock serde each)
      rw [List.length_map, List.length_map] at same
      rw [← List.length_eq_zero_iff, same, List.length_eq_zero_iff]
    rw [becomes, content, sentContents_append, (sent_toolMessages items).2.1, List.append_nil,
      MessageContent.spoken, ← textParts_of_saysBlock each]
    simp only [ne_eq, ← calls]
    split
    · rw [sentContents_other (isToolMessage_blockMessage ..)]
      rfl
    · rfl

end Message

/-! ## The whole conversation -/

section Conversation

variable {messages : List Json} {conversation : List ChatMessage}

/-- By induction on the messages, each kind is the concatenation of what they say. -/
theorem holds_flatMap (serde : SerdeJson) (model : String)
    (meant : List.Forall₂ SaysMessage messages conversation) :
    (sentCalls (messages.flatMap (openaiMessages serde model))).map toolCall? =
        (conversation.flatMap fun message => message.content.uses).map (fun use =>
          some (use.call serde)) ∧
      sentResults (messages.flatMap (openaiMessages serde model)) =
        (conversation.flatMap fun message => message.content.results).map (fun (id, text) =>
          (some id, some text)) ∧
      sentContents (messages.flatMap (openaiMessages serde model)) =
        (conversation.filterMap fun message => message.content.spoken).map some := by
  induction meant with
  | nil => exact ⟨rfl, rfl, rfl⟩
  | @cons message said messages conversation first _ ih =>
      obtain ⟨calls, results, contents⟩ := ih
      rw [List.flatMap_cons]
      refine ⟨?_, ?_, ?_⟩
      · rw [sentCalls_append, List.map_append, calls, calls_openaiMessages serde model first,
          List.flatMap_cons, List.map_append]
      · rw [sentResults_append, results, results_openaiMessages serde model first,
          List.flatMap_cons, List.map_append]
      · rw [sentContents_append, contents, contents_openaiMessages serde model first,
          ← List.map_append]
        cases spoken : said.content.spoken <;> simp [spoken]

end Conversation

theorem holds_systemMessages (body : Json) :
    sentCalls (systemMessages body) = [] ∧ sentResults (systemMessages body) = [] ∧
      sentContents (systemMessages body) =
        (if systemText body = "" then [] else [systemText body]).map some := by
  unfold systemMessages systemText
  by_cases silent : Text.joinLines (contentTexts (body.get? "system")) = ""
  · simp [silent, sentCalls, sentResults, sentContents]
  · simp only [silent, ↓reduceIte]
    exact ⟨rfl, rfl, rfl⟩

/--
In a converted request the tool calls, the tool messages and the contents of the other
messages are the tool uses, the tool results and the texts of the conversation, each
complete and in order.
-/
theorem conversation_held (serde : SerdeJson) {body : Json} {conversation : List ChatMessage}
    (meant : SaysConversation body conversation) :
    HoldsConversation serde body conversation
      (arrayField (anthropicToOpenai serde body) "messages") := by
  obtain ⟨noCalls, noResults, system⟩ := holds_systemMessages body
  obtain ⟨calls, results, contents⟩ := holds_flatMap serde (anthropicModel body) meant
  rw [messages_anthropicToOpenai]
  exact
    { calls := by rw [sentCalls_append, noCalls, List.nil_append, calls]
      results := by rw [sentResults_append, noResults, List.nil_append, results]
      contents := by rw [sentContents_append, system, contents, List.map_append] }

/-- A tool use and its result, with a text beside the result. -/
theorem conversation_held_toolRequest :
    HoldsConversation SerdeJson.compact
      (toolRequest [.obj [("type", .str "text"), ("text", .str "go on")]])
      [⟨.assistant, .blocks [.toolUse ⟨"toolu_1", "read", .obj []⟩]⟩,
        ⟨.user, .blocks [.toolResult "toolu_1" (.text "done"), .text "go on"]⟩]
      (arrayField (anthropicToOpenai SerdeJson.compact
        (toolRequest [.obj [("type", .str "text"), ("text", .str "go on")]])) "messages") := by
  refine conversation_held SerdeJson.compact (.cons ⟨rfl, ?_⟩ (.cons ⟨rfl, ?_⟩ .nil))
  · exact .blocks (.cons (.toolUse rfl rfl rfl rfl) .nil)
  · exact .blocks (.cons (.toolResult rfl rfl (.text "done")) (.cons (.text ⟨rfl, rfl⟩) .nil))

end AiPowerGateway.Share

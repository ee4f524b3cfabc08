import AiPowerGateway.Protocols.CallAnswer
import AiPowerGateway.Share.Requests

/-!
# Tool turns of a converted conversation

In an Anthropic conversation the message after one with `tool_use` blocks holds
their results.  The conversion puts the text of that message in front of the
results, so the tool calls are answered in place exactly when there is no text.
-/

namespace AiPowerGateway.Share

open Protocols

/-! ## The two rules -/

/-- The ids of the `tool_use` blocks of an Anthropic message. -/
def toolUseIds (message : Json) : List String :=
  ((arrayField message "content").filter fun block => blockType block = "tool_use").map
    (·.textOr "id" "call_0")

/-- The ids that the `tool_result` blocks of an Anthropic message answer. -/
def toolResultIds (message : Json) : List String :=
  ((arrayField message "content").filter fun block => blockType block = "tool_result").map
    (·.textOr "tool_use_id" "call_0")

/-- The text of the other blocks of an Anthropic message. -/
def messageText (message : Json) : String :=
  Text.joinLines (textParts (arrayField message "content"))

/--
The Anthropic rule: an assistant message with `tool_use` blocks of distinct ids is
followed by a user message with one `tool_result` for each of them, and such blocks
occur nowhere else.
-/
inductive AnthropicConversation : List Json → Prop where
  | nil : AnthropicConversation []
  | plain {message : Json} {rest : List Json} :
      messageRole message = "user" ∨ messageRole message = "assistant" →
      toolUseIds message = [] → toolResultIds message = [] →
      AnthropicConversation rest → AnthropicConversation (message :: rest)
  | exchange {call reply : Json} {rest : List Json} :
      messageRole call = "assistant" → toolUseIds call ≠ [] → (toolUseIds call).Nodup →
      toolResultIds call = [] →
      messageRole reply = "user" → toolUseIds reply = [] →
      (toolResultIds reply).Perm (toolUseIds call) →
      AnthropicConversation rest → AnthropicConversation (call :: reply :: rest)

/-- An OpenAI message as a turn: a `tool` message answers, a `tool_calls` list calls. -/
def openaiTurn (message : Json) : Turn String :=
  if message.textOr "role" "" = "tool" then .answer (message.textOr "tool_call_id" "")
  else match (message.get? "tool_calls").bind Json.asArray? with
    | some calls => .calls (calls.map (·.textOr "id" ""))
    | none => .plain

/-- The OpenAI rule: the calls of a message are answered right after it. -/
def OpenaiConversation (messages : List Json) : Prop :=
  Turn.Answered (messages.map openaiTurn)

/-! ## The turns of one message -/

theorem toolCalls_eq_nil {serde : SerdeJson} {message : Json} :
    toolCalls serde (arrayField message "content") = [] ↔ toolUseIds message = [] := by
  simp [toolCalls, toolUseIds]

theorem toolMessages_eq_nil {message : Json} (none : toolResultIds message = []) :
    toolMessages (arrayField message "content") = [] := by
  simpa [toolMessages, toolResultIds] using none

theorem ids_toolCalls (serde : SerdeJson) (message : Json) :
    (toolCalls serde (arrayField message "content")).map (·.textOr "id" "") =
      toolUseIds message := by
  simp [toolCalls, toolUseIds, toolCall, Json.textOr, Json.text?, Function.comp_def]

theorem turns_toolMessages (message : Json) :
    (toolMessages (arrayField message "content")).map openaiTurn =
      (toolResultIds message).map .answer := by
  simp [toolMessages, toolResultIds, toolMessage, openaiTurn, Json.textOr, Json.text?,
    Function.comp_def]

theorem turn_plainMessage {role text : String} (notTool : role ≠ "tool") :
    openaiTurn (plainMessage role text) = .plain := by
  simp [openaiTurn, plainMessage, Json.textOr, Json.text?, notTool]

theorem turn_blockMessage_plain {role : String} (model text : String) (notTool : role ≠ "tool") :
    openaiTurn (blockMessage model role text []) = .plain := by
  unfold openaiTurn blockMessage
  by_cases thinking : role = "assistant" ∧ Text.contains model "deepseek"
  · simp [Json.textOr, Json.text?, thinking]
  · simp [Json.textOr, Json.text?, notTool, thinking]

theorem turn_blockMessage_calls {role : String} (model text : String) {calls : List Json}
    (some : calls ≠ []) (notTool : role ≠ "tool") :
    openaiTurn (blockMessage model role text calls) = .calls (calls.map (·.textOr "id" "")) := by
  unfold openaiTurn blockMessage
  simp [Json.textOr, Json.text?, notTool, some]

theorem notTool_of_role {message : Json}
    (role : messageRole message = "user" ∨ messageRole message = "assistant") :
    messageRole message ≠ "tool" := by
  rcases role with role | role <;> simp [role]

/-- A message without tool blocks becomes turns that neither call nor answer. -/
theorem turns_plain (serde : SerdeJson) (model : String) {message : Json}
    (notTool : messageRole message ≠ "tool") (noUse : toolUseIds message = [])
    (noResult : toolResultIds message = []) :
    ∀ turn ∈ (openaiMessages serde model message).map openaiTurn, turn = .plain := by
  have noCalls : toolCalls serde (arrayField message "content") = [] := toolCalls_eq_nil.mpr noUse
  have noTools := toolMessages_eq_nil noResult
  unfold openaiMessages
  cases content : (message.get? "content").getD (.str "") with
  | str text => simpa using turn_plainMessage notTool
  | arr blocks =>
      have same : arrayField message "content" = blocks := by
        unfold arrayField
        cases found : message.get? "content" with
        | none => simp [found] at content
        | some value => simp_all
      rw [same] at noCalls noTools
      simp only [noCalls, noTools, ne_eq, not_true_eq_false, or_false, List.append_nil]
      split
      · simpa using turn_blockMessage_plain model _ notTool
      · simp
  | null | bool | num | obj => simpa using turn_plainMessage notTool

/-- A message with tool blocks has an array content. -/
theorem openaiMessages_array (serde : SerdeJson) (model : String) {message : Json}
    (blocks : arrayField message "content" ≠ []) :
    openaiMessages serde model message =
      (if messageText message ≠ "" ∨ toolCalls serde (arrayField message "content") ≠ [] then
        [blockMessage model (messageRole message) (messageText message)
          (toolCalls serde (arrayField message "content"))] else []) ++
        toolMessages (arrayField message "content") := by
  unfold openaiMessages messageText messageRole
  cases found : message.get? "content" with
  | none => simp [arrayField, found] at blocks
  | some value =>
      cases value with
      | arr blocks => simp [arrayField, found]
      | null | bool | num | str | obj => simp [arrayField, found, Json.asArray?] at blocks

theorem turns_call (serde : SerdeJson) (model : String) {call : Json}
    (role : messageRole call = "assistant") (uses : toolUseIds call ≠ [])
    (noResult : toolResultIds call = []) :
    (openaiMessages serde model call).map openaiTurn = [.calls (toolUseIds call)] := by
  have calls : toolCalls serde (arrayField call "content") ≠ [] :=
    fun none => uses (toolCalls_eq_nil.mp none)
  have blocks : arrayField call "content" ≠ [] := by
    intro none
    simp [toolUseIds, none] at uses
  have notTool : messageRole call ≠ "tool" := by simp [role]
  rw [openaiMessages_array serde model blocks, toolMessages_eq_nil noResult]
  simp [calls, turn_blockMessage_calls model _ calls notTool, ids_toolCalls]

theorem turns_reply (serde : SerdeJson) (model : String) {reply : Json}
    (role : messageRole reply = "user") (noUse : toolUseIds reply = [])
    (results : toolResultIds reply ≠ []) :
    (openaiMessages serde model reply).map openaiTurn =
      (if messageText reply = "" then [] else [.plain]) ++ (toolResultIds reply).map .answer := by
  have blocks : arrayField reply "content" ≠ [] := by
    intro none
    simp [toolResultIds, none] at results
  have notTool : messageRole reply ≠ "tool" := by simp [role]
  rw [openaiMessages_array serde model blocks, toolCalls_eq_nil.mpr noUse, List.map_append,
    turns_toolMessages]
  by_cases text : messageText reply = ""
  · simp [text]
  · simp [text, turn_blockMessage_plain model _ notTool]

/-! ## The turns of a conversation -/

/-- No message with tool results has any text. -/
def ResultsWithoutText (messages : List Json) : Prop :=
  ∀ message ∈ messages, toolResultIds message ≠ [] → messageText message = ""

theorem settles_plains {turns : List (Turn String)} (plains : ∀ turn ∈ turns, turn = .plain)
    (rest : List (Turn String)) : Turn.settles [] (turns ++ rest) = Turn.settles [] rest := by
  induction turns with
  | nil => rfl
  | cons turn turns ih =>
      rw [plains turn (List.mem_cons_self ..)]
      simp only [List.cons_append, Turn.settles, List.isEmpty_nil, Bool.true_and]
      exact ih fun other mem => plains other (List.mem_cons_of_mem _ mem)

/-- Reading a converted conversation, by induction on the rule it follows. -/
theorem settles_conversation (serde : SerdeJson) (model : String) {messages : List Json}
    (conversation : AnthropicConversation messages) :
    Turn.settles [] ((messages.flatMap (openaiMessages serde model)).map openaiTurn) ↔
      ResultsWithoutText messages := by
  induction conversation with
  | nil => simp [Turn.settles, ResultsWithoutText]
  | @plain message rest role noUse noResult _ ih =>
      have plains := turns_plain serde model (notTool_of_role role) noUse noResult
      rw [List.flatMap_cons, List.map_append, settles_plains plains, ih]
      simp [ResultsWithoutText, noResult]
  | @exchange call reply rest role uses _ noResult replyRole noUse same _ ih =>
      have results : toolResultIds reply ≠ [] := fun none => uses (by simpa [none] using same)
      rw [List.flatMap_cons, List.flatMap_cons, List.map_append, List.map_append,
        turns_call serde model role uses noResult, turns_reply serde model replyRole noUse results,
        List.singleton_append, Turn.settles_calls]
      by_cases text : messageText reply = ""
      · rw [if_pos text, List.nil_append, Turn.settles_answers same, ih]
        simp [ResultsWithoutText, noResult, text]
      · rw [if_neg text, List.append_assoc, List.singleton_append, Turn.settles_plain]
        constructor
        · rintro ⟨none, -⟩
          exact absurd none uses
        · intro without
          exact absurd (without reply (by simp) results) text

theorem turns_systemMessages (body : Json) :
    ∀ turn ∈ (systemMessages body).map openaiTurn, turn = .plain := by
  unfold systemMessages
  by_cases silent : Text.joinLines (contentTexts (body.get? "system")) = ""
  · simp [silent]
  · simpa [silent] using turn_plainMessage (by decide)

/-- The messages of a converted request. -/
theorem messages_anthropicToOpenai (serde : SerdeJson) (body : Json) :
    arrayField (anthropicToOpenai serde body) "messages" =
      systemMessages body ++
        (arrayField body "messages").flatMap (openaiMessages serde (anthropicModel body)) := by
  simp [anthropicToOpenai, arrayField]

/--
For every Anthropic conversation, the converted one keeps the OpenAI rule exactly
when no message with tool results has any text beside them.
-/
theorem openai_conversation_iff (serde : SerdeJson) {body : Json}
    (conversation : AnthropicConversation (arrayField body "messages")) :
    OpenaiConversation (arrayField (anthropicToOpenai serde body) "messages") ↔
      ResultsWithoutText (arrayField body "messages") := by
  unfold OpenaiConversation
  rw [Turn.answered_iff_settles, messages_anthropicToOpenai, List.map_append,
    settles_plains (turns_systemMessages body)]
  exact settles_conversation serde (anthropicModel body) conversation

/-! ## A result alone, and a result with text beside it -/

def toolUseMessage : Json :=
  .obj [("role", .str "assistant"), ("content", .arr [
    .obj [("type", .str "tool_use"), ("id", .str "toolu_1"), ("name", .str "read"),
      ("input", .obj [])]])]

def toolResultMessage (others : List Json) : Json :=
  .obj [("role", .str "user"), ("content", .arr (
    .obj [("type", .str "tool_result"), ("tool_use_id", .str "toolu_1"),
      ("content", .str "done")] :: others))]

def toolRequest (others : List Json) : Json :=
  .obj [("model", .str "glm-4-flash"),
    ("messages", .arr [toolUseMessage, toolResultMessage others])]

theorem openai_conversation_toolRequest :
    OpenaiConversation
      (arrayField (anthropicToOpenai SerdeJson.compact (toolRequest [])) "messages") := by
  have conversation : AnthropicConversation (arrayField (toolRequest []) "messages") :=
    .exchange (by decide) (by decide) (by decide) (by decide) (by decide) (by decide) (by decide)
      .nil
  exact (openai_conversation_iff SerdeJson.compact conversation).mpr
    (by unfold ResultsWithoutText; decide)

/-- A text beside the result separates the call from its answer. -/
theorem openai_conversation_broken :
    ¬ ∀ (serde : SerdeJson) (body : Json),
      AnthropicConversation (arrayField body "messages") →
        OpenaiConversation (arrayField (anthropicToOpenai serde body) "messages") := by
  intro kept
  have conversation : AnthropicConversation
      (arrayField (toolRequest [.obj [("type", .str "text"), ("text", .str "go on")]])
        "messages") :=
    .exchange (by decide) (by decide) (by decide) (by decide) (by decide) (by decide) (by decide)
      .nil
  have answered := kept SerdeJson.compact _ conversation
  exact absurd answered (by unfold OpenaiConversation; decide)

end AiPowerGateway.Share

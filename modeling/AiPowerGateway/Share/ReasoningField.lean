import AiPowerGateway.Share.Backend
import AiPowerGateway.Share.BlockProjections

/-!
# The `reasoning_content` of assistant turns

DeepSeek refuses an assistant turn without `reasoning_content`.  The conversion adds the
field to turns that are made from blocks, where the request itself names a DeepSeek model;
a turn whose content is a text goes without it.
-/

namespace AiPowerGateway.Share

/-- The assistant messages have the field, and no other message has it. -/
def ReasoningOnAssistants (messages : List Json) : Prop :=
  ∀ message ∈ messages,
    ((message.get? "reasoning_content").isSome ↔ message.textOr "role" "" = "assistant")

/-- The blocks come to a message of their own. -/
def SpeaksUp (serde : SerdeJson) (blocks : List Json) : Prop :=
  Text.joinLines (textParts blocks) ≠ "" ∨ toolCalls serde blocks ≠ []

/-- An assistant turn that is made from blocks, for a model with the name of DeepSeek unless
the blocks come to nothing. -/
def ThoughtfulTurn (serde : SerdeJson) (model : String) (message : Json) : Prop :=
  messageRole message = "assistant" → ∃ blocks, message.get? "content" = some (.arr blocks) ∧
    (SpeaksUp serde blocks → Text.contains model "deepseek")

/-! ## What the conversion makes -/

theorem reasoning_append {first second : List Json} :
    ReasoningOnAssistants (first ++ second) ↔
      ReasoningOnAssistants first ∧ ReasoningOnAssistants second :=
  List.forall_mem_append

theorem reasoning_singleton {message : Json} :
    ReasoningOnAssistants [message] ↔
      ((message.get? "reasoning_content").isSome ↔ message.textOr "role" "" = "assistant") :=
  List.forall_mem_singleton

theorem reasoning_plainMessage (role text : String) :
    ReasoningOnAssistants [plainMessage role text] ↔ role ≠ "assistant" := by
  rw [reasoning_singleton]
  simp [plainMessage, Json.textOr, Json.text?]

theorem reasoning_blockMessage (model role text : String) (calls : List Json) :
    ReasoningOnAssistants [blockMessage model role text calls] ↔
      (role = "assistant" → Text.contains model "deepseek") := by
  have ownRole : (blockMessage model role text calls).textOr "role" "" = role := rfl
  have field : ((blockMessage model role text calls).get? "reasoning_content").isSome ↔
      role = "assistant" ∧ Text.contains model "deepseek" := by
    unfold blockMessage
    by_cases thinking : role = "assistant" ∧ Text.contains model "deepseek"
    · by_cases called : calls = []
      · simp [thinking, called]
      · simp [thinking, called]
    · by_cases called : calls = []
      · simp [thinking, called]
      · simp [thinking, called]
  rw [reasoning_singleton, ownRole, field]
  exact and_iff_left_iff_imp

theorem reasoning_toolMessages (blocks : List Json) :
    ReasoningOnAssistants (toolMessages blocks) := by
  intro message mem
  obtain ⟨block, -, rfl⟩ := List.mem_map.mp mem
  simp [toolMessage, Json.textOr, Json.text?]

/-- One message: a text of the assistant goes without the field, and blocks of the
assistant need a model of the right name. -/
theorem reasoning_openaiMessages (serde : SerdeJson) (model : String) (message : Json) :
    ReasoningOnAssistants (openaiMessages serde model message) ↔
      ThoughtfulTurn serde model message := by
  unfold openaiMessages ThoughtfulTurn
  cases content : message.get? "content" with
  | none =>
      simp only [Option.getD_none, reasoning_plainMessage, reduceCtorEq, false_and, exists_false,
        imp_false, ne_eq]
  | some value =>
      cases value with
      | arr blocks =>
          simp only [Option.getD_some, reasoning_append, reasoning_toolMessages, and_true,
            Option.some.injEq, Json.arr.injEq, exists_eq_left']
          split
          · next speaks =>
              rw [reasoning_blockMessage]
              exact forall_congr' fun _ => ⟨fun named _ => named, fun named => named speaks⟩
          · next silent =>
              constructor
              · intro _ _ speaks
                exact absurd speaks silent
              · intro _ other mem
                cases mem
      | null | bool | num | str | obj =>
          simp only [Option.getD_some, reasoning_plainMessage, Option.some.injEq, reduceCtorEq,
            false_and, exists_false, imp_false, ne_eq]

theorem reasoning_systemMessages (body : Json) :
    ReasoningOnAssistants (systemMessages body) := by
  unfold systemMessages
  simp only
  split
  · intro message mem
    cases mem
  · exact (reasoning_plainMessage "system" _).mpr (by decide)

/-- A converted conversation carries the field where it should exactly when every
assistant turn does. -/
theorem reasoning_anthropicToOpenai (serde : SerdeJson) (body : Json) :
    ReasoningOnAssistants (arrayField (anthropicToOpenai serde body) "messages") ↔
      ∀ message ∈ arrayField body "messages",
        ThoughtfulTurn serde (anthropicModel body) message := by
  rw [messages_anthropicToOpenai, reasoning_append,
    and_iff_right (reasoning_systemMessages body)]
  induction arrayField body "messages" with
  | nil =>
      constructor
      · intro _ message mem
        cases mem
      · intro _ message mem
        cases mem
  | cons message messages ih =>
      rw [List.flatMap_cons, reasoning_append, reasoning_openaiMessages, ih,
        List.forall_mem_cons]

/-! ## What goes upstream -/

/-- Neither the default model nor the streaming form touches the messages. -/
theorem messages_post? {cfg : OpenAICompatConfig} {request : Json}
    {post : OpenAICompatConfig.UpstreamPost}
    (posts : cfg.post? request = some post) :
    arrayField post.body "messages" = arrayField request "messages" := by
  obtain ⟨named, namedModel, formed⟩ := Option.bind_eq_some_iff.mp posts
  have keptName : named.get? "messages" = request.get? "messages" := by
    unfold OpenAICompatConfig.withDefaultModel at namedModel
    split at namedModel
    · cases namedModel
      rfl
    · exact Json.get?_set?_ne namedModel (by decide)
  have keptForm : post.body.get? "messages" = named.get? "messages" := by
    simp only at formed
    split at formed
    · obtain ⟨sent, streams, posted⟩ := Option.bind_eq_some_iff.mp formed
      cases posted
      obtain ⟨streaming, first, second⟩ := Option.bind_eq_some_iff.mp streams
      exact (Json.get?_set?_ne second (by decide)).trans (Json.get?_set?_ne first (by decide))
    · cases formed
      rfl
  rw [arrayField, keptForm, keptName]
  rfl

/--
In a request that goes upstream, for a DeepSeek model or another, the assistant messages have
`reasoning_content` and the others have not, exactly when every assistant turn of the
conversation is made from blocks, under a model that the request names unless the blocks
come to nothing.
-/
theorem reasoning_content_iff (serde : SerdeJson) {cfg : OpenAICompatConfig} {body : Json}
    {post : OpenAICompatConfig.UpstreamPost}
    (posts : cfg.post? (anthropicToOpenai serde body) = some post) :
    ReasoningOnAssistants (arrayField post.body "messages") ↔
      ∀ message ∈ arrayField body "messages",
        ThoughtfulTurn serde (anthropicModel body) message := by
  rw [messages_post? posts]
  exact reasoning_anthropicToOpenai serde body

/-- The official endpoint of DeepSeek. -/
def deepseekConfig : OpenAICompatConfig := { provider := .deepSeek, apiKey := "key" }

/-- A request with one earlier answer of the assistant. -/
def answeredRequest (content : Json) : Json :=
  .obj [("model", .str "deepseek-chat"), ("messages", .arr [
    .obj [("role", .str "user"), ("content", .str "hello")],
    .obj [("role", .str "assistant"), ("content", content)],
    .obj [("role", .str "user"), ("content", .str "go on")]])]

def textAnswer : Json := .arr [.obj [("type", .str "text"), ("text", .str "hi")]]

theorem reasoning_content_blocks :
    ReasoningOnAssistants (arrayField
      (anthropicToOpenai SerdeJson.compact (answeredRequest textAnswer)) "messages") := by
  have posts : deepseekConfig.post?
      (anthropicToOpenai SerdeJson.compact (answeredRequest textAnswer)) =
        some ⟨_, _, anthropicToOpenai SerdeJson.compact (answeredRequest textAnswer)⟩ := rfl
  refine (reasoning_content_iff SerdeJson.compact posts).mpr ?_
  intro message mem assistant
  rcases List.mem_cons.mp mem with rfl | mem
  · exact absurd assistant (by decide)
  rcases List.mem_cons.mp mem with rfl | mem
  · exact ⟨_, rfl, fun _ => by decide⟩
  rw [List.mem_singleton.mp mem] at assistant
  exact absurd assistant (by decide)

/-- An answer that is sent back as a text goes without the field. -/
theorem not_reasoning_content_text :
    ¬ ∀ (serde : SerdeJson) (cfg : OpenAICompatConfig) (body : Json)
      (post : OpenAICompatConfig.UpstreamPost),
      cfg.post? (anthropicToOpenai serde body) = some post →
        Text.contains (post.body.textOr "model" "") "deepseek" →
          ReasoningOnAssistants (arrayField post.body "messages") := by
  intro always
  have carried := always SerdeJson.compact deepseekConfig (answeredRequest (.str "hi")) _ rfl
    (by decide)
  have assistant := (carried (plainMessage "assistant" "hi") (by decide)).mpr rfl
  cases assistant

end AiPowerGateway.Share

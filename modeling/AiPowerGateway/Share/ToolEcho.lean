import AiPowerGateway.Share.BlockProjections

/-!
# Tool calls sent back

A client that was given tool calls sends them back with its next request.  The calls come
back as they were, except that arguments which are no JSON text come back as the text of a
JSON string: the decoder keeps them as a string, and the encoder prints that string.
-/

namespace AiPowerGateway.Share

variable (serde : SerdeJson)

/-- The first choice of a completion asks for the tool calls. -/
def AsksFor (resp : Json) (asked : List ToolCall) : Prop :=
  ∃ choice, firstChoice resp = some choice ∧
    List.Forall₂ (fun call said => toolCall? call = some said) choice.toolCalls asked

/-- The `tool_use` blocks of the Anthropic form of a completion. -/
def toolUseBlocks (resp : Json) : List Json :=
  (arrayField (openaiToAnthropic serde resp) "content").filter fun block =>
    blockType block = "tool_use"

/-- The assistant message in which a client sends them back. -/
def echoMessage (resp : Json) : Json :=
  .obj [("role", .str "assistant"), ("content", .arr (toolUseBlocks serde resp))]

/-- Arguments that come back: the same JSON value, or the same text if it is no JSON. -/
def SameArguments (asked sent : String) : Prop :=
  match serde.fromStr asked with
  | .ok value => serde.fromStr sent = .ok value
  | .error _ => sent = asked

/-- A call that comes back with its id, its name and its arguments. -/
def ComesBack (asked : ToolCall) (sent : Json) : Prop :=
  ∃ arguments, toolCall? sent = some ⟨asked.id, asked.name, arguments⟩ ∧
    SameArguments serde asked.arguments arguments

/-- JSON text whose value is read back from its own printed form. -/
def Reprints (text : String) : Prop :=
  ∃ value, serde.fromStr text = .ok value ∧ serde.fromStr (serde.toString value) = .ok value

/-! ## One call -/

section Call

variable {call : Json} {asked : ToolCall}

/-- A string is never printed as it is. -/
theorem toString_str_ne {text message : String} (noJson : serde.fromStr text = .error message) :
    serde.toString (.str text) ≠ text := by
  intro same
  have read := serde.fromStr_toString (.str text) rfl
  rw [same, noJson] at read
  cases read

/-- What becomes of the arguments of a call. -/
theorem toolInput_of_toolCall (wellFormed : toolCall? call = some asked) :
    toolInput serde call =
      match serde.fromStr asked.arguments with
      | .ok input => input
      | .error _ => .str asked.arguments := by
  unfold toolCall? at wellFormed
  simp only [Option.bind_eq_bind, Option.bind_eq_some_iff, Option.some.injEq] at wellFormed
  obtain ⟨id, -, name, -, arguments, ⟨value, found, isText⟩, rfl⟩ := wellFormed
  rw [Json.asStr?_eq_some isText] at found
  cases parsed : serde.fromStr arguments <;>
    simp only [toolInput, found, Option.bind_some, Json.asStr?_str, Option.getD_some, parsed]

theorem toolCall?_echoed (wellFormed : toolCall? call = some asked) :
    toolCall? (toolCall serde (toolUseBlock serde call)) =
      some ⟨asked.id, asked.name, serde.toString (toolInput serde call)⟩ := by
  have said := heard_of_toolCall wellFormed
  have id : call.textOr "id" "call_0" = asked.id := congrArg ToolCall.id said
  have name : ((functionField call "name").bind Json.asStr?).getD "" = asked.name :=
    congrArg ToolCall.name said
  rw [toolCall?_toolCall, ← id, ← name]
  rfl

/-- A call comes back exactly when its arguments are JSON text that reprints. -/
theorem comesBack_iff (wellFormed : toolCall? call = some asked) :
    ComesBack serde asked (toolCall serde (toolUseBlock serde call)) ↔
      Reprints serde asked.arguments := by
  have echoed := toolCall?_echoed serde wellFormed
  have input := toolInput_of_toolCall serde wellFormed
  unfold ComesBack SameArguments Reprints
  cases read : serde.fromStr asked.arguments with
  | ok value =>
      rw [read] at input
      rw [echoed, show toolInput serde call = value from input]
      constructor
      · rintro ⟨arguments, same, reread⟩
        cases same
        exact ⟨value, rfl, reread⟩
      · rintro ⟨other, same, reread⟩
        cases same
        exact ⟨_, rfl, reread⟩
  | error message =>
      rw [read] at input
      rw [echoed, show toolInput serde call = .str asked.arguments from input]
      constructor
      · rintro ⟨arguments, same, back⟩
        cases same
        exact absurd back (toString_str_ne serde read)
      · rintro ⟨value, none, -⟩
        cases none

end Call

/-! ## The whole message -/

theorem filter_toolUseBlocks (calls : List Json) :
    (calls.map (toolUseBlock serde)).filter (fun block => blockType block = "tool_use") =
      calls.map (toolUseBlock serde) := by
  refine List.filter_eq_self.mpr fun block mem => ?_
  obtain ⟨call, -, rfl⟩ := List.mem_map.mp mem
  rfl

theorem toolUseBlocks_eq {resp : Json} {choice : OpenAiChoice}
    (found : firstChoice resp = some choice) :
    toolUseBlocks serde resp = choice.toolCalls.map (toolUseBlock serde) := by
  have content : arrayField (openaiToAnthropic serde resp) "content" =
      if choiceBlocks serde choice = [] then [textBlock ""] else choiceBlocks serde choice := by
    rw [show arrayField (openaiToAnthropic serde resp) "content" = contentBlocks serde resp from
      rfl]
    simp only [contentBlocks, found]
  rw [toolUseBlocks, content]
  split
  · next empty =>
      rw [(List.append_eq_nil_iff.mp empty).2]
      rfl
  · rw [choiceBlocks, List.filter_append, filter_toolUseBlocks]
    split <;> rfl

theorem sentCalls_echo {resp body : Json} {choice : OpenAiChoice}
    (found : firstChoice resp = some choice)
    (sent : arrayField body "messages" = [echoMessage serde resp]) :
    sentCalls (arrayField (anthropicToOpenai serde body) "messages") =
      choice.toolCalls.map fun call => toolCall serde (toolUseBlock serde call) := by
  have blocks := toolUseBlocks_eq serde found
  have calls : toolCalls serde (toolUseBlocks serde resp) =
      choice.toolCalls.map fun call => toolCall serde (toolUseBlock serde call) := by
    rw [toolCalls, blocks, filter_toolUseBlocks, List.map_map]
    rfl
  rw [messages_anthropicToOpenai, sent, sentCalls_append, (holds_systemMessages body).1,
    List.nil_append, List.flatMap_singleton]
  show sentCalls (_ ++ toolMessages (toolUseBlocks serde resp)) = _
  rw [sentCalls_append, (sent_toolMessages _).1, List.append_nil, ← calls]
  split
  · exact (List.append_nil _).trans (arrayField_blockMessage ..)
  · next silent =>
      have none : toolCalls serde (toolUseBlocks serde resp) = [] := by
        by_contra called
        exact silent (Or.inr called)
      rw [none]
      rfl

theorem forall₂_comesBack_iff {calls : List Json} {asked : List ToolCall}
    (wellFormed : List.Forall₂ (fun call said => toolCall? call = some said) calls asked) :
    List.Forall₂ (ComesBack serde) asked
        (calls.map fun call => toolCall serde (toolUseBlock serde call)) ↔
      ∀ call ∈ asked, Reprints serde call.arguments := by
  induction wellFormed with
  | nil => simp
  | @cons call said calls asked first _ ih =>
      rw [List.map_cons, List.forall₂_cons, comesBack_iff serde first, ih, List.forall_mem_cons]

/--
Tool calls that are sent back come back in their order, with their ids, names and arguments,
exactly when the arguments of each are JSON text that reprints; JSON text without fractions
always does.
-/
theorem tool_echo_iff {resp body : Json} {asked : List ToolCall} (asks : AsksFor resp asked)
    (sent : arrayField body "messages" = [echoMessage serde resp]) :
    (List.Forall₂ (ComesBack serde) asked
        (sentCalls (arrayField (anthropicToOpenai serde body) "messages")) ↔
      ∀ call ∈ asked, Reprints serde call.arguments) ∧
    ∀ call ∈ asked, ∀ value, serde.fromStr call.arguments = .ok value → value.fractionFree →
      Reprints serde call.arguments := by
  obtain ⟨choice, found, wellFormed⟩ := asks
  refine ⟨?_, fun call _ value read exact => ⟨value, read, serde.fromStr_toString value exact⟩⟩
  rw [sentCalls_echo serde found sent]
  exact forall₂_comesBack_iff serde wellFormed

/-- A completion that calls one tool with the given arguments. -/
def argumentsCompletion (arguments : String) : Json :=
  toolCompletion [.obj [("id", .str "call_1"), ("type", .str "function"),
    ("function", .obj [("name", .str "read"), ("arguments", .str arguments)])]]

def echoRequest (resp : Json) : Json :=
  .obj [("model", .str "glm-4-flash"), ("messages", .arr [echoMessage serde resp])]

theorem asksFor_argumentsCompletion (arguments : String) :
    AsksFor (argumentsCompletion arguments) [⟨"call_1", "read", arguments⟩] :=
  ⟨_, rfl, .cons rfl .nil⟩

theorem tool_echo_object :
    List.Forall₂ (ComesBack SerdeJson.compact) [⟨"call_1", "read", "{}"⟩]
      (sentCalls (arrayField (anthropicToOpenai SerdeJson.compact
        (echoRequest SerdeJson.compact (argumentsCompletion "{}"))) "messages")) := by
  have echo := tool_echo_iff SerdeJson.compact (asksFor_argumentsCompletion "{}")
    (show arrayField (echoRequest _ _) "messages" = _ from rfl)
  refine echo.1.mpr fun call mem => ?_
  rw [List.mem_singleton.mp mem]
  exact ⟨.obj [], by decide, by decide⟩

/-- A call without arguments comes back with the arguments `""`. -/
theorem not_tool_echo_empty :
    (sentCalls (arrayField (anthropicToOpenai SerdeJson.compact
        (echoRequest SerdeJson.compact (argumentsCompletion ""))) "messages")).map toolCall? =
        [some ⟨"call_1", "read", "\"\""⟩] ∧
      ¬ ∀ (serde : SerdeJson) (resp body : Json) (asked : List ToolCall), AsksFor resp asked →
        arrayField body "messages" = [echoMessage serde resp] →
          List.Forall₂ (ComesBack serde) asked
            (sentCalls (arrayField (anthropicToOpenai serde body) "messages")) := by
  have found : firstChoice (argumentsCompletion "") = some ⟨"", _, some "tool_calls"⟩ := rfl
  have sent : arrayField (echoRequest SerdeJson.compact (argumentsCompletion "")) "messages" =
      [echoMessage SerdeJson.compact (argumentsCompletion "")] := rfl
  refine ⟨by rw [sentCalls_echo SerdeJson.compact found sent]; decide, fun back => ?_⟩
  have all := back SerdeJson.compact (argumentsCompletion "") _ _
    (asksFor_argumentsCompletion "") sent
  rw [sentCalls_echo SerdeJson.compact found sent] at all
  obtain ⟨value, read, -⟩ := (forall₂_comesBack_iff SerdeJson.compact (.cons rfl .nil)).mp all
    ⟨"call_1", "read", ""⟩ (List.mem_singleton_self _)
  cases read

end AiPowerGateway.Share

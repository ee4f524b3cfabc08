import AiPowerGateway.Share.AssembledStream
import AiPowerGateway.Share.OpenaiReplay

/-!
# A replayed completion, assembled again

The gateway writes event streams for its clients and assembles the streams of one of its
upstreams.  Content, finish reason and usage of a completion survive both; the tool calls
that a stream carries are in no assembled completion.
-/

namespace AiPowerGateway.Share

open Accumulators

variable (serde : SerdeJson)

/-- Printed JSON has no whitespace at its ends. -/
def PrintsTrimmed : Prop := ∀ value, Text.Trimmed (serde.toString value)

theorem printsTrimmed_compact : PrintsTrimmed SerdeJson.compact := Json.Compact.trimmed_toText

/-! ## What has to be preserved -/

structure TokenCounts where
  prompt : UInt64
  completion : UInt64
  total : UInt64
  deriving DecidableEq, Repr

/-- The counts of a usage, when all are integers. -/
def tokenCounts? (resp : Json) : Option TokenCounts := do
  let usage ← resp.get? "usage"
  let prompt ← (usage.get? "prompt_tokens").bind Json.asU64?
  let completion ← (usage.get? "completion_tokens").bind Json.asU64?
  let total ← (usage.get? "total_tokens").bind Json.asU64?
  some ⟨prompt, completion, total⟩

/-- A completion with all that a stream of chunks can carry. -/
structure WholeCompletion (resp : Json) (said : Completion) (counts : TokenCounts) : Prop where
  wellFormed : completion? resp = some said
  reason : ReplayedReason said.finishReason
  usage : tokenCounts? resp = some counts

/-- The completion comes back when its replay is assembled. -/
def KeepsCompletion (resp : Json) : Prop :=
  ∃ out, assembleSseResponse serde (openaiSseStream serde resp) = .ok out ∧
    completion? out = completion? resp ∧ tokenCounts? out = tokenCounts? resp

/-- The tool-call fragments of a chunk. -/
def chunkFragments (chunk : Json) : List (Option Json × ToolCall) :=
  (((((chunkChoice chunk).bind (·.get? "delta")).bind (·.get? "tool_calls")).bind
    Json.asArray?).getD []).map fragment

/-- The fragments that the chunks of a stream carry. -/
def callFragments (body : String) : List (Option Json × ToolCall) :=
  (chunksRead serde (Text.lines body)).flatMap chunkFragments

/-- The tool calls of a stream, merged by index. -/
def mergedCalls (body : String) : List ToolCall :=
  (Grouping.group mergeFragments (callFragments serde body)).map Prod.snd

/-- The assembled message holds the tool calls of the stream. -/
def HoldsCalls (body : String) (out : Json) : Prop :=
  (completion? out).map Completion.toolCalls = some (mergedCalls serde body)

/-! ## Reading the frames -/

section Frames

variable {serde}

theorem ssePayload?_data {text : String} (trimmed : Text.Trimmed text) :
    ssePayload? ("data: " ++ text) = some text := by
  by_cases nothing : text = ""
  · subst nothing
    decide
  · have line : Text.Trimmed ("data: " ++ text) := by
      constructor
      · simp
        decide
      · obtain ⟨c, last⟩ : ∃ c, text.toList.getLast? = some c := by
          cases found : text.toList.getLast? with
          | none => exact absurd (by simpa using found) nothing
          | some c => exact ⟨c, rfl⟩
        have same : ("data: " ++ text).toList.getLast? = text.toList.getLast? := by
          rw [String.toList_append, List.getLast?_append, last, Option.some_or]
        rw [same]
        exact trimmed.last
    have rest : Text.stripLeading? ("data: " ++ text) "data:" =
        some (String.singleton ' ' ++ text) := by
      simp [Text.stripLeading?, Text.startsWith, String.toList_append]
    rw [ssePayload?, Text.trim_of_trimmed line, rest, Option.map_some,
      Text.trim_blank_append (by decide), Text.trim_of_trimmed trimmed]

theorem payloadsRead_chunkFrames (trimmed : PrintsTrimmed serde) (chunks : List Json) :
    payloadsRead (Text.lines (chunkFrames serde chunks)) = chunks.map serde.toString := by
  have blank : ssePayload? "" = none := by decide
  have marker : Text.Trimmed "[DONE]" :=
    ⟨by rintro _ ⟨⟩; decide, by rintro _ ⟨⟩; decide⟩
  induction chunks with
  | nil =>
      have done : Text.lines (Sse.dataFrame "[DONE]" ++ "") = ["data: " ++ "[DONE]", ""] :=
        Sse.lines_dataFrame (by decide) ""
      rw [String.append_empty] at done
      rw [chunkFrames, done, payloadsRead_cons, ssePayload?_data marker]
      rfl
  | cons chunk chunks ih =>
      rw [chunkFrames, Sse.lines_dataFrame (serde.oneLine_toString chunk), payloadsRead_cons,
        ssePayload?_data (trimmed chunk), payloadsRead_cons, blank]
      simp [toString_ne_done, ih]

/-- The frames of chunks without fractions are assembled from these chunks. -/
theorem assembleSseResponse_chunkFrames (trimmed : PrintsTrimmed serde) {chunks : List Json}
    (plain : ∀ chunk ∈ chunks, chunk.fractionFree = true) :
    assembleSseResponse serde (chunkFrames serde chunks) =
      .ok (chunks.foldl SseAssembly.absorb {}).finish := by
  have read : (chunks.map serde.toString).mapM (readChunk serde) = .ok chunks := by
    induction chunks with
    | nil => rfl
    | cons chunk chunks ih =>
        have value : readChunk serde (serde.toString chunk) = .ok chunk := by
          rw [readChunk, serde.fromStr_toString chunk (plain chunk List.mem_cons_self)]
          rfl
        rw [List.map_cons, List.mapM_cons, value,
          ih fun other mem => plain other (List.mem_cons_of_mem _ mem)]
        rfl
  rw [assembleSseResponse_eq, payloadsRead_chunkFrames trimmed, read]
  rfl

end Frames

/-! ## Assembling a replay -/

theorem fractionFree_openaiChunks (resp : Json) :
    ∀ chunk ∈ openaiChunks resp, chunk.fractionFree = true := by
  have whole (choice : OpenAiChoice) :
      ∀ chunk ∈ choiceChunks resp choice, chunk.fractionFree = true := by
    intro chunk mem
    rcases List.mem_append.mp mem with text | call
    · split at text
      · cases text
      · rw [List.mem_singleton] at text
        subst text
        rfl
    · obtain ⟨call, -, rfl⟩ := List.mem_map.mp call
      rfl
  intro chunk mem
  unfold openaiChunks at mem
  cases found : firstChoice resp with
  | none =>
      simp only [found, List.mem_cons, List.not_mem_nil, or_false] at mem
      rcases mem with rfl | rfl <;> rfl
  | some choice =>
      simp only [found, List.mem_append, List.mem_cons, List.not_mem_nil, or_false] at mem
      rcases mem with (rfl | mem) | rfl
      · rfl
      · exact whole choice chunk mem
      · rfl

theorem completion?_finish (state : SseAssembly) :
    completion? state.finish = some
      { content := state.content
        toolCalls := []
        finishReason := some (.str state.finishReason)
        usage := extractOpenaiUsage state.finish } := by
  by_cases silent : state.reasoning = "" <;>
    simp [SseAssembly.finish, completion?, completionContent?, completionToolCalls?, nonNull?,
      Option.filter_some, silent]

theorem get?_usage_finish (state : SseAssembly) :
    state.finish.get? "usage" = state.usage := by
  cases usage : state.usage <;> simp [SseAssembly.finish, usage]

/-- The usage that ends a replay: the counts of the completion and their sum. -/
def replayedUsage (resp : Json) : Json :=
  .obj [
    ("prompt_tokens", .num (.posInt (extractOpenaiUsage resp).1)),
    ("completion_tokens", .num (.posInt (extractOpenaiUsage resp).2)),
    ("total_tokens",
      .num (.posInt ((extractOpenaiUsage resp).1 + (extractOpenaiUsage resp).2)))]

section Replay

variable {resp : Json} {choice : OpenAiChoice} (found : firstChoice resp = some choice)
include found

theorem joined_content_openaiChunks :
    joined (deltaText? "content") (openaiChunks resp) = choice.text := by
  have role : deltaText? "content" (roleChunk resp) = some "" := rfl
  have text (part : String) : deltaText? "content" (contentChunk resp part) = some part := rfl
  have call (call : Json) : deltaText? "content" (toolCallChunk resp call) = none := rfl
  have finish (reason : String) : deltaText? "content" (finishChunk resp reason) = none := rfl
  have calls : joined (deltaText? "content") (choice.toolCalls.map (toolCallChunk resp)) = "" := by
    simp [joined, List.filterMap_map, call]
  have texts : joined (deltaText? "content")
      (if choice.text = "" then [] else [contentChunk resp choice.text]) = choice.text := by
    by_cases silent : choice.text = "" <;> simp [silent, text]
  simp only [openaiChunks, found, choiceChunks, joined_append, calls, texts, joined_singleton, role,
    finish, Option.getD_some, Option.getD_none, String.empty_append, String.append_empty]

theorem last_openaiChunks {β : Type} (value : Json → Option β) {kept : β}
    (carries : value (finishChunk resp (streamFinishReason choice)) = some kept) :
    last value (openaiChunks resp) = some kept := by
  simp only [openaiChunks, found, last_append, last_singleton, carries, Option.some_or]

/-- The accumulators after a replay. -/
theorem foldl_openaiChunks :
    ((openaiChunks resp).foldl SseAssembly.absorb {}).content = choice.text ∧
      ((openaiChunks resp).foldl SseAssembly.absorb {}).finishReason =
        streamFinishReason choice ∧
      ((openaiChunks resp).foldl SseAssembly.absorb {}).usage = some (replayedUsage resp) := by
  have reason : chunkFinish? (finishChunk resp (streamFinishReason choice)) =
      some (streamFinishReason choice) := by
    have shown : chunkFinish? (finishChunk resp (streamFinishReason choice)) =
        (some (streamFinishReason choice)).filter (· ≠ "") := rfl
    rw [shown, streamFinishReason]
    split <;> rfl
  have usage : chunkUsage? (finishChunk resp (streamFinishReason choice)) =
      some (replayedUsage resp) := rfl
  rw [foldl_absorb, last_openaiChunks found chunkFinish? reason,
    last_openaiChunks found chunkUsage? usage, joined_content_openaiChunks found]
  simp

end Replay

theorem usage_of_tokenCounts {resp : Json} {counts : TokenCounts}
    (read : tokenCounts? resp = some counts) :
    extractOpenaiUsage resp = (counts.prompt, counts.completion) := by
  unfold tokenCounts? at read
  simp only [Option.bind_eq_bind, Option.bind_eq_some_iff, Option.some.injEq] at read
  obtain ⟨usage, found, prompt, ⟨_, foundPrompt, readPrompt⟩, completion,
    ⟨_, foundCompletion, readCompletion⟩, total, -, rfl⟩ := read
  simp [extractOpenaiUsage, found, foundPrompt, readPrompt, foundCompletion, readCompletion]

/-- What the assembly of a replay says. -/
theorem assembled_replay (trimmed : PrintsTrimmed serde) {resp : Json} {choice : OpenAiChoice}
    (found : firstChoice resp = some choice) :
    ∃ out, assembleSseResponse serde (openaiSseStream serde resp) = .ok out ∧
      completion? out = some
        { content := choice.text
          toolCalls := []
          finishReason := some (.str (streamFinishReason choice))
          usage := extractOpenaiUsage resp } ∧
      tokenCounts? out = some
        { prompt := (extractOpenaiUsage resp).1
          completion := (extractOpenaiUsage resp).2
          total := (extractOpenaiUsage resp).1 + (extractOpenaiUsage resp).2 } := by
  obtain ⟨content, reason, usage⟩ := foldl_openaiChunks found
  have out := get?_usage_finish ((openaiChunks resp).foldl SseAssembly.absorb {})
  rw [usage] at out
  have counts : extractOpenaiUsage ((openaiChunks resp).foldl SseAssembly.absorb {}).finish =
      extractOpenaiUsage resp := by
    rw [extractOpenaiUsage, out]
    rfl
  refine ⟨_, assembleSseResponse_chunkFrames trimmed (fractionFree_openaiChunks resp), ?_, ?_⟩
  · rw [completion?_finish, content, reason, counts]
  · rw [tokenCounts?, out]
    rfl

/-- A completion comes back exactly without tool calls, its total being the sum. -/
theorem keepsCompletion_iff (trimmed : PrintsTrimmed serde) {resp : Json} {said : Completion}
    {counts : TokenCounts} (whole : WholeCompletion resp said counts) :
    KeepsCompletion serde resp ↔
      said.toolCalls = [] ∧ counts.total = counts.prompt + counts.completion := by
  obtain ⟨choice, found, text, -, reason, usage⟩ := completion_eq_some whole.wellFormed
  obtain ⟨out, assembled, message, counted⟩ := assembled_replay serde trimmed found
  have replayed := (streamFinishReason_iff reason).mpr whole.reason
  have tokens := usage_of_tokenCounts whole.usage
  have keeps : KeepsCompletion serde resp ↔
      completion? out = completion? resp ∧ tokenCounts? out = tokenCounts? resp := by
    constructor
    · rintro ⟨other, same, kept⟩
      rw [assembled] at same
      cases same
      exact kept
    · exact fun kept => ⟨out, assembled, kept⟩
  obtain ⟨content, toolCalls, finishReason, saidUsage⟩ := said
  obtain ⟨prompt, completion, total⟩ := counts
  obtain rfl : saidUsage = (prompt, completion) := usage.symm.trans tokens
  rw [keeps, message, counted, whole.wellFormed, whole.usage, text, replayed, usage]
  simp only [Option.some.injEq, Completion.mk.injEq, TokenCounts.mk.injEq, true_and, and_true]
  constructor
  · rintro ⟨calls, total⟩
    exact ⟨calls.symm, total.symm⟩
  · rintro ⟨calls, total⟩
    exact ⟨calls.symm, total.symm⟩

/-- An assembled message holds the calls of its stream exactly when there are none. -/
theorem holdsCalls_iff {body : String} {out : Json}
    (assembled : assembleSseResponse serde body = .ok out) :
    HoldsCalls serde body out ↔ callFragments serde body = [] := by
  have noCalls : (completion? out).map Completion.toolCalls = some [] := by
    rw [assembleSseResponse] at assembled
    cases read : assembleLines serde {} (Text.lines body) with
    | error e =>
        rw [read] at assembled
        cases assembled
    | ok state =>
        rw [read] at assembled
        cases assembled
        rw [completion?_finish]
        rfl
  have merged : mergedCalls serde body = [] ↔ callFragments serde body = [] := by
    rw [mergedCalls, List.map_eq_nil_iff, Grouping.group_eq_nil]
  rw [HoldsCalls, noCalls, Option.some.injEq, ← merged]
  exact eq_comm

/--
A replayed completion is assembled again exactly when it has no tool calls and its total
is the sum of its counts; an assembled message holds the tool calls of its stream exactly
when the stream carries none.
-/
theorem replay_assembly_iff (trimmed : PrintsTrimmed serde) :
    (∀ resp said counts, WholeCompletion resp said counts →
      (KeepsCompletion serde resp ↔
        said.toolCalls = [] ∧ counts.total = counts.prompt + counts.completion)) ∧
    ∀ body out, assembleSseResponse serde body = .ok out →
      (HoldsCalls serde body out ↔ callFragments serde body = []) :=
  ⟨fun _ _ _ whole => keepsCompletion_iff serde trimmed whole,
    fun _ _ assembled => holdsCalls_iff serde assembled⟩

/-! ## A text, and a tool call -/

/-- A completion with a text, tool calls and a usage. -/
def usedCompletion (text reason : String) (calls : List Json) : Json :=
  .obj [
    ("choices", .arr [.obj [
      ("message", .obj [("role", .str "assistant"), ("content", .str text),
        ("tool_calls", .arr calls)]),
      ("finish_reason", .str reason)]]),
    ("usage", .obj [("prompt_tokens", .ofNat 3), ("completion_tokens", .ofNat 2),
      ("total_tokens", .ofNat 5)])]

theorem replay_assembly_text :
    KeepsCompletion SerdeJson.compact (usedCompletion "hello" "stop" []) :=
  ((replay_assembly_iff SerdeJson.compact printsTrimmed_compact).1 _
    ⟨"hello", [], some (.str "stop"), (3, 2)⟩ ⟨3, 2, 5⟩ ⟨rfl, Or.inl rfl, rfl⟩).mpr ⟨rfl, rfl⟩

/-- A tool call with its own index is lost. -/
theorem not_replay_assembly_call :
    ¬ ∀ (serde : SerdeJson), PrintsTrimmed serde → ∀ resp said counts,
      WholeCompletion resp said counts → DistinctIndices resp → KeepsCompletion serde resp := by
  intro kept
  have whole : WholeCompletion (usedCompletion "" "tool_calls" [indexedCall 0 "call_1" "read"])
      ⟨"", [⟨"call_1", "read", "{}"⟩], some (.str "tool_calls"), (3, 2)⟩ ⟨3, 2, 5⟩ :=
    ⟨rfl, Or.inr (Or.inl rfl), rfl⟩
  have distinct : DistinctIndices
      (usedCompletion "" "tool_calls" [indexedCall 0 "call_1" "read"]) := by
    intro choice found
    cases found
    decide
  have back := kept SerdeJson.compact printsTrimmed_compact _ _ _ whole distinct
  have none := (keepsCompletion_iff SerdeJson.compact printsTrimmed_compact whole).mp back
  exact absurd none.1 (by decide)

end AiPowerGateway.Share

import AiPowerGateway.Json.Compact
import AiPowerGateway.Json.Schema
import AiPowerGateway.Share.BackendStore
import AiPowerGateway.Share.Rules

/-!
# The text of the configuration files

`backends.yaml` and `model-rule-set.json`.  Their readers take missing fields as
defaults.  One concrete text stands for both: compact JSON, which is YAML as well.
-/

namespace AiPowerGateway.Share

open Json (ofOption toOption? ofList toList? field? record? member? asU32?)

/-! ## Entries of `backends.yaml` -/

namespace BackendEntry

def toJson (entry : BackendEntry) : Json :=
  let splitRatio := entry.splitRatio.toList.map fun ratio => ("split_ratio", Json.ofF64 ratio)
  let listingId := entry.listingId.toList.map fun id => ("listing_id", Json.str id)
  .obj ([
    ("provider", .str entry.provider),
    ("id", ofOption .str entry.id),
    ("api_key", ofOption .str entry.apiKey),
    ("api_key_env", ofOption .str entry.apiKeyEnv),
    ("model", ofOption .str entry.model),
    ("models", ofList .str entry.models),
    ("base_url", ofOption .str entry.baseUrl)] ++ splitRatio ++ listingId)

def ofJson? (value : Json) : Option BackendEntry := do
  some
    { provider := ← field? value "provider" none Json.asStr?
      id := ← field? value "id" (some none) (toOption? Json.asStr?)
      apiKey := ← field? value "api_key" (some none) (toOption? Json.asStr?)
      apiKeyEnv := ← field? value "api_key_env" (some none) (toOption? Json.asStr?)
      model := ← field? value "model" (some none) (toOption? Json.asStr?)
      models := ← field? value "models" (some []) (toList? Json.asStr?)
      baseUrl := ← field? value "base_url" (some none) (toOption? Json.asStr?)
      splitRatio := ← field? value "split_ratio" (some none) (toOption? Json.asF64?)
      listingId := ← field? value "listing_id" (some none) (toOption? Json.asStr?) }

theorem ofJson?_toJson (entry : BackendEntry) : ofJson? entry.toJson = some entry := by
  obtain ⟨provider, id, apiKey, apiKeyEnv, model, listed, baseUrl, splitRatio, listingId⟩ := entry
  cases splitRatio <;> cases listingId <;>
    simp [ofJson?, toJson, field?, Json.get?, Json.lookupField,
      Json.toOption?_ofOption_str, Json.toList?_ofList_str, Json.toOption?_str,
      Json.toOption?_ofF64]

end BackendEntry

/-- The providers list as compact JSON. -/
def SerdeYaml.compact : SerdeYaml where
  toString entries :=
    Json.Compact.toText (.obj [("providers", ofList BackendEntry.toJson entries)])
  fromSlice text := (Json.Compact.ofText text).bind fun value =>
    field? value "providers" none (toList? BackendEntry.ofJson?)
  fromSlice_toString entries := by
    rw [Json.Compact.ofText_toText, Option.bind_some]
    exact Json.toList?_ofList BackendEntry.ofJson?_toJson entries

/-! ## Rule sets of `model-rule-set.json` -/

/-- The file is one rule set or a list of them. -/
inductive RuleSetsFile where
  | single (ruleSet : RuleSet)
  | many (ruleSets : List RuleSet)
  deriving DecidableEq, Repr

def RuleSetsFile.sets : RuleSetsFile → List RuleSet
  | .single ruleSet => [ruleSet]
  | .many ruleSets => ruleSets

/-- The mark that some editors put before the text. -/
def byteOrderMark : String := "\uFEFF"

/-- The JSON text of a list of rule sets; it carries no byte order mark. -/
structure SerdeRuleSets where
  toString : List RuleSet → String
  fromSlice : String → Option RuleSetsFile
  fromSlice_toString (ruleSets : List RuleSet) :
    fromSlice (toString ruleSets) = some (.many ruleSets)
  unmarked (ruleSets : List RuleSet) :
    Text.stripLeading? (toString ruleSets) byteOrderMark = none

namespace RuleResolver

/-- Load a file; one that is missing or does not parse gives no rule sets. -/
def loadFromFile (serde : SerdeRuleSets) (file : Option String) : RuleResolver :=
  match file with
  | none => empty
  | some text =>
      match serde.fromSlice ((Text.stripLeading? text byteOrderMark).getD text) with
      | some file => file.sets.foldl upsert empty
      | none => empty

/-- A printed file loads as the rule sets do. -/
theorem loadFromFile_toString (serde : SerdeRuleSets) (ruleSets : List RuleSet) :
    loadFromFile serde (some (serde.toString ruleSets)) = load ruleSets := by
  simp [loadFromFile, serde.unmarked, serde.fromSlice_toString, RuleSetsFile.sets, load]

end RuleResolver

def Candidate.toJson (candidate : Candidate) : Json :=
  .obj [
    ("model", .str candidate.model),
    ("max_prompt_tokens",
      ofOption (fun tokens => .num (.posInt tokens)) candidate.maxPromptTokens)]

def Candidate.ofJson? (value : Json) : Option Candidate := do
  let record ← record? 2 value
  some
    { model := ← member? record 0 "model" none Json.asStr?
      maxPromptTokens :=
        ← member? record 1 "max_prompt_tokens" (some none) (toOption? Json.asU64?) }

theorem Candidate.ofJson?_toJson (candidate : Candidate) :
    Candidate.ofJson? candidate.toJson = some candidate := by
  have tokens := Json.toOption?_ofOption Json.asU64?_posInt (by simp) candidate.maxPromptTokens
  simp [ofJson?, toJson, field?, Json.get?, Json.lookupField, tokens]

def Rule.toJson (rule : Rule) : Json :=
  .obj [
    ("match_model", .str rule.matchModel),
    ("order", .num (.posInt rule.order.toUInt64)),
    ("strategy", .str rule.strategy),
    ("candidates", ofList Candidate.toJson rule.candidates),
    ("fallback", ofList .str rule.fallback)]

def Rule.ofJson? (value : Json) : Option Rule := do
  let record ← record? 5 value
  some
    { matchModel := ← member? record 0 "match_model" (some "*") Json.asStr?
      order := ← member? record 1 "order" (some 0) asU32?
      strategy := ← member? record 2 "strategy" (some "token_tier") Json.asStr?
      candidates := ← member? record 3 "candidates" none (toList? Candidate.ofJson?)
      fallback := ← member? record 4 "fallback" (some []) (toList? Json.asStr?) }

theorem Rule.ofJson?_toJson (rule : Rule) : Rule.ofJson? rule.toJson = some rule := by
  have candidates := Json.toList?_ofList Candidate.ofJson?_toJson rule.candidates
  simp [ofJson?, toJson, field?, Json.get?, Json.lookupField, candidates,
    Json.toList?_ofList_str, Json.asU32?_ofU32]

def RuleSet.toJson (ruleSet : RuleSet) : Json :=
  .obj [
    ("id", .str ruleSet.id),
    ("name", .str ruleSet.name),
    ("version", .num (.posInt ruleSet.version)),
    ("rules", ofList Rule.toJson ruleSet.rules)]

def RuleSet.ofJson? (value : Json) : Option RuleSet := do
  let record ← record? 4 value
  some
    { id := ← member? record 0 "id" none Json.asStr?
      name := ← member? record 1 "name" none Json.asStr?
      version := ← member? record 2 "version" none Json.asU64?
      rules := ← member? record 3 "rules" (some []) (toList? Rule.ofJson?) }

theorem RuleSet.ofJson?_toJson (ruleSet : RuleSet) :
    RuleSet.ofJson? ruleSet.toJson = some ruleSet := by
  have rules := Json.toList?_ofList Rule.ofJson?_toJson ruleSet.rules
  simp [ofJson?, toJson, field?, Json.get?, Json.lookupField, rules]

/-- The members of a rule set begin with a text, a printed list does not. -/
theorem RuleSet.ofJson?_ofList (ruleSets : List RuleSet) :
    RuleSet.ofJson? (ofList RuleSet.toJson ruleSets) = none := by
  have untitled : member? (ofList RuleSet.toJson ruleSets) 0 "id" none Json.asStr? = none := by
    cases ruleSets <;> rfl
  unfold ofJson?
  cases read : record? 4 (ofList RuleSet.toJson ruleSets) with
  | none => rfl
  | some record =>
      have same : ofList RuleSet.toJson ruleSets = record := by
        rw [ofList, record?] at read
        split at read
        · exact Option.some.inj read
        · cases read
      simp [← same, untitled]

/-- A value that reads as one rule set is taken as that. -/
def RuleSetsFile.ofJson? (value : Json) : Option RuleSetsFile :=
  ((RuleSet.ofJson? value).map .single).or ((toList? RuleSet.ofJson? value).map .many)

/-- The rule sets as compact JSON. -/
def SerdeRuleSets.compact : SerdeRuleSets where
  toString ruleSets := Json.Compact.toText (ofList RuleSet.toJson ruleSets)
  fromSlice text := (Json.Compact.ofText text).bind RuleSetsFile.ofJson?
  fromSlice_toString ruleSets := by
    rw [Json.Compact.ofText_toText, Option.bind_some, RuleSetsFile.ofJson?,
      RuleSet.ofJson?_ofList, Json.toList?_ofList RuleSet.ofJson?_toJson]
    rfl
  unmarked ruleSets := by
    cases ruleSets <;>
      simp [Text.stripLeading?, Text.startsWith, Json.Compact.toText, ofList, Json.Compact.write,
        byteOrderMark]

end AiPowerGateway.Share

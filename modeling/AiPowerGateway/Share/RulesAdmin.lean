import AiPowerGateway.Share.CrashSafety
import AiPowerGateway.Share.Router
import AiPowerGateway.Systems.EventRuns

/-!
# Administering the rule sets

The panel lists the loaded rule sets and posts all of them back.  An accepted post replaces
the loaded sets at once and tries to replace their file, which a new process loads.
-/

namespace AiPowerGateway.Share

open Systems

/-! ## The listing -/

namespace RuleResolver

/-- The loaded sets, by their names. -/
def list (resolver : RuleResolver) : List RuleSet :=
  resolver.sets.values.mergeSort fun first second => first.name ≤ second.name

variable {first second resolver : RuleResolver}

theorem mem_values {ruleSet : RuleSet} :
    ruleSet ∈ resolver.sets.values ↔ resolver.sets.lookup ruleSet.name = some ruleSet := by
  rw [HashMap.mem_values]
  constructor
  · rintro ⟨name, found⟩
    rwa [resolver.named found]
  · exact fun found => ⟨_, found⟩

theorem mem_list {ruleSet : RuleSet} :
    ruleSet ∈ resolver.list ↔ resolver.sets.lookup ruleSet.name = some ruleSet := by
  rw [list, List.mem_mergeSort, mem_values]

theorem pairwise_list (resolver : RuleResolver) :
    resolver.list.Pairwise fun first second => first.name ≤ second.name := by
  have sorted : resolver.list.Pairwise fun first second : RuleSet =>
      decide (first.name ≤ second.name) = true :=
    List.pairwise_mergeSort
      (fun _ _ _ below above => by simp only [decide_eq_true_eq] at *; exact below.trans above)
      (fun first second => by simpa using le_total first.name second.name) resolver.sets.values
  exact sorted.imp of_decide_eq_true

/-- What is listed depends only on what is found under each name. -/
theorem list_congr (same : ∀ name, first.sets.lookup name = second.sets.lookup name) :
    first.list = second.list := by
  have entries : first.sets.entries.Perm second.sets.entries :=
    List.lookup_ext first.sets.nodupKeys second.sets.nodupKeys fun name ruleSet => by
      rw [← AList.lookup, ← AList.lookup, same]
  have values : first.list.Perm second.list :=
    (List.mergeSort_perm _ _).trans ((entries.map _).trans (List.mergeSort_perm _ _).symm)
  refine values.eq_of_pairwise ?_ first.pairwise_list second.pairwise_list
  intro one other inFirst inSecond below above
  rw [mem_list, same] at inFirst
  rw [mem_list, ← le_antisymm below above] at inSecond
  exact Option.some.inj (inFirst.symm.trans inSecond)

theorem ruleNames_eq (resolver : RuleResolver) :
    resolver.ruleNames = resolver.list.map RuleSet.name := by
  have keys : resolver.sets.keys = resolver.sets.values.map RuleSet.name := by
    rw [HashMap.values, List.map_map]
    refine List.map_congr_left fun entry stored => ?_
    exact (resolver.named (AList.mem_lookup_iff.mpr stored)).symm
  refine List.Perm.eq_of_pairwise (fun _ _ _ _ => le_antisymm) (List.pairwise_mergeSort' (· ≤ ·) _)
    (List.pairwise_map.mpr resolver.pairwise_list) ?_
  rw [ruleNames, list, keys]
  exact (List.mergeSort_perm _ _).trans ((List.mergeSort_perm _ _).symm.map _)

theorem resolve_congr (same : ∀ name, first.sets.lookup name = second.sets.lookup name)
    (requestedModel : String) (estTokens : UInt64) :
    first.resolve requestedModel estTokens = second.resolve requestedModel estTokens := by
  rw [resolve, resolve, same]

/-! ## Loading -/

theorem lookup_upsert (resolver : RuleResolver) (ruleSet : RuleSet) (name : String) :
    (resolver.upsert ruleSet).sets.lookup name =
      (if ruleSet.name = name then some ruleSet else none).or (resolver.sets.lookup name) := by
  by_cases same : ruleSet.name = name
  · rw [if_pos same, ← same]
    exact AList.lookup_insert resolver.sets
  · rw [if_neg same]
    exact AList.lookup_insert_ne (Ne.symm same)

/-- Of the sets with one name the last is loaded. -/
theorem lookup_load (ruleSets : List RuleSet) (name : String) :
    (load ruleSets).sets.lookup name = ruleSets.reverse.find? fun set => set.name = name := by
  have last := HashMap.foldl_lastWriter (fun resolver : RuleResolver => resolver.sets.lookup name)
    (fun ruleSet => if ruleSet.name = name then some ruleSet else none)
    (fun resolver ruleSet => lookup_upsert resolver ruleSet name) ruleSets empty
  have none : empty.sets.lookup name = none := AList.lookup_empty name
  rw [load, last, none, Option.or_none]
  induction ruleSets.reverse with
  | nil => rfl
  | cons ruleSet others ih =>
      rw [List.findSome?_cons, List.find?_cons, ih]
      by_cases same : ruleSet.name = name <;> simp [same]

/-- Loading what is listed finds the same sets. -/
theorem lookup_load_list (resolver : RuleResolver) (name : String) :
    (load resolver.list).sets.lookup name = resolver.sets.lookup name := by
  rw [lookup_load]
  cases found : resolver.list.reverse.find? fun set => decide (set.name = name) with
  | some ruleSet =>
      have named : ruleSet.name = name := by simpa using List.find?_some found
      have listed := mem_list.mp (List.mem_reverse.mp (List.mem_of_find?_eq_some found))
      rw [← named, listed]
  | none =>
      cases stored : resolver.sets.lookup name with
      | none => rfl
      | some ruleSet =>
          have named := resolver.named stored
          have listed : ruleSet ∈ resolver.list := mem_list.mpr (named ▸ stored)
          have other := List.find?_eq_none.mp found ruleSet (List.mem_reverse.mpr listed)
          exact absurd (decide_eq_true named) other

theorem load_eq_empty_iff {ruleSets : List RuleSet} : load ruleSets = empty ↔ ruleSets = [] := by
  constructor
  · intro nothing
    rcases List.eq_nil_or_concat ruleSets with none | ⟨others, ruleSet, rfl⟩
    · exact none
    · have found := lookup_load (others ++ [ruleSet]) ruleSet.name
      rw [← List.concat_eq_append, nothing] at found
      simp [empty] at found
  · rintro rfl
    rfl

end RuleResolver

/-! ## The handlers -/

/-- How a value is read as a rule set; the error is the reason why it is none. -/
structure RuleSetReader where
  fromValue : Json → Except String RuleSet
  fromValue_toJson (ruleSet : RuleSet) : fromValue ruleSet.toJson = .ok ruleSet

namespace RuleSetReader

variable (reader : RuleSetReader)

/-- The items as rule sets; those that were read before the first refused one are counted. -/
def readItems : Nat → List Json → Except String (List RuleSet)
  | _, [] => .ok []
  | done, item :: items =>
      match reader.fromValue item with
      | .ok ruleSet => (readItems (done + 1) items).map (ruleSet :: ·)
      | .error reason => .error ("ruleSets[" ++ toString done ++ "] invalid: " ++ reason)

/-- The rule sets of a body, which may be a single one. -/
def submitted (body : Json) : Except String (List RuleSet) :=
  match (body.get? "ruleSets").bind Json.asArray? with
  | some items => reader.readItems 0 items
  | none =>
      match reader.fromValue body with
      | .ok ruleSet => .ok [ruleSet]
      | .error _ => .error "body must be \x7bruleSets:[...]\x7d or a single ruleset"

/-- The rule sets of a body that is accepted: each of them has a name. -/
def accepted (body : Json) : Except String (List RuleSet) :=
  match reader.submitted body with
  | .error message => .error message
  | .ok ruleSets =>
      if ruleSets.any fun ruleSet => Text.trim ruleSet.name = "" then
        .error "each ruleset requires a non-empty name (user-facing model alias)"
      else .ok ruleSets

theorem readItems_toJson (done : Nat) (ruleSets : List RuleSet) :
    reader.readItems done (ruleSets.map RuleSet.toJson) = .ok ruleSets := by
  induction ruleSets generalizing done with
  | nil => rfl
  | cons ruleSet ruleSets ih =>
      rw [List.map_cons, readItems, reader.fromValue_toJson]
      simp only [ih]
      rfl

/-- The reader of compact JSON; it gives no reason. -/
def compact : RuleSetReader where
  fromValue value :=
    match RuleSet.ofJson? value with
    | some ruleSet => .ok ruleSet
    | none => .error "invalid rule set"
  fromValue_toJson ruleSet := by rw [RuleSet.ofJson?_toJson]

end RuleSetReader

namespace RulesFile

/-- The body of `GET /api/rules`. -/
def listing (resolver : RuleResolver) : Json :=
  .obj [("ruleSets", Json.ofList RuleSet.toJson resolver.list),
    ("ruleNames", Json.ofList .str resolver.ruleNames),
    ("count", Json.ofNat resolver.list.length)]

def apiRulesList (host : Host) (rules : RulesFile) : Reply :=
  jsonReply host 200 (listing rules.resolver)

variable (host : Host) (reader : RuleSetReader) (serde : SerdeRuleSets)

/-- `POST /api/rules`; the reply does not tell whether the file was replaced. -/
def apiRulesSet (body : Json) (results : FileReplace.Results) (rules : RulesFile) :
    Reply × RulesFile :=
  match reader.accepted body with
  | .error message => (errorReply host 400 message, rules)
  | .ok ruleSets =>
      let after := rules.set serde ruleSets results
      let names := after.resolver.ruleNames
      (jsonReply host 200 (.obj [("ok", .bool true), ("count", Json.ofNat names.length),
          ("ruleNames", Json.ofList .str names)]), after)

/-- A new process over the disk. -/
def start (disk : FileReplace.Disk String) : RulesFile := ⟨reopen serde disk, disk⟩

end RulesFile

/-! ## Runs -/

inductive RulesEvent where
  | post (body : Json) (results : FileReplace.Results)
  /-- The process ends in a save, after some of its file steps, and a new one starts. -/
  | cut (body : Json) (results : FileReplace.Results) (count : Nat)
  | restarted

namespace RulesFile

variable (host : Host) (reader : RuleSetReader) (serde : SerdeRuleSets)

def step : RulesEvent → RulesFile → RulesFile
  | .post body results, rules => (apiRulesSet host reader serde body results rules).2
  | .cut body results count, rules =>
      start serde
        (match reader.accepted body with
        | .ok ruleSets => rules.crashedSet serde ruleSets results count
        | .error _ => rules.disk)
  | .restarted, rules => start serde rules.disk

/-- A new process would load what is loaded now. -/
def Durable (rules : RulesFile) : Prop := reopen serde rules.disk = rules.resolver

/-- An accepted post replaces the file; or it changes nothing and leaves the file; or it
posts nothing and loses the file. -/
def Kept : RulesEvent → RulesFile → Prop
  | .post body results, rules => ∀ ruleSets, reader.accepted body = .ok ruleSets →
      results.replaced = true ∨
        if FileReplace.Interrupted 3 results ∧ rules.disk.target ≠ none then ruleSets = []
        else RuleResolver.load ruleSets = rules.resolver
  | _, _ => True

variable {host reader serde}

theorem durable_start (disk : FileReplace.Disk String) : (start serde disk).Durable serde := rfl

/-- One accepted post, exactly. -/
theorem durable_set_iff {rules : RulesFile} (durable : rules.Durable serde)
    (ruleSets : List RuleSet) (results : FileReplace.Results) :
    (rules.set serde ruleSets results).Durable serde ↔
      results.replaced = true ∨
        if FileReplace.Interrupted 3 results ∧ rules.disk.target ≠ none then ruleSets = []
        else RuleResolver.load ruleSets = rules.resolver := by
  rw [Durable, reopen, set]
  cases replaced : results.replaced with
  | true =>
      rw [FileReplace.replace_of_replaced replaced, RuleResolver.loadFromFile_toString]
      simp
  | false =>
      have old := FileReplace.target_of_failed replaced (serde.toString ruleSets) rules.disk
      split
      next lost =>
        have gone : (FileReplace.replace (serde.toString ruleSets) results rules.disk).target =
            none := by
          rw [← FileReplace.crashedAfter_of_three_le (Nat.le_refl 3)]
          exact FileReplace.target_of_interrupted lost.1 _ _
        rw [gone, ← RuleResolver.load_eq_empty_iff]
        simp [RuleResolver.loadFromFile, eq_comm]
      next left =>
        rw [old.mpr left, ← reopen, durable]
        simp [eq_comm]

theorem durable_step_iff (event : RulesEvent) {rules : RulesFile}
    (durable : rules.Durable serde) :
    (step host reader serde event rules).Durable serde ↔ Kept reader event rules := by
  cases event with
  | post body results =>
      rw [step, apiRulesSet, Kept]
      cases accepted : reader.accepted body with
      | error message => simp [durable]
      | ok ruleSets =>
          simp only [Except.ok.injEq, forall_eq']
          exact durable_set_iff durable ruleSets results
  | cut | restarted => exact iff_of_true (durable_start _) trivial

end RulesFile

/--
From any disk, in every run of posts with any bodies and any ends of their file steps, of
crashes in the middle of a save and of restarts: a new process would at every time load the
rule sets that are in force, exactly when every accepted post replaces the file, or else
posts what is loaded and leaves the file, or posts nothing and loses it.
-/
theorem rules_durable_iff (host : Host) (reader : RuleSetReader) (serde : SerdeRuleSets)
    (disk : FileReplace.Disk String) (events : List RulesEvent) :
    EventRuns.Throughout (RulesFile.step host reader serde) (RulesFile.Durable serde) events
        (RulesFile.start serde disk) ↔
      EventRuns.Fitting (RulesFile.step host reader serde) (RulesFile.Kept reader) events
        (RulesFile.start serde disk) :=
  EventRuns.throughout_iff_fitting
    (fun event _ durable => RulesFile.durable_step_iff event durable)
    (RulesFile.durable_start disk) events

/-! ## The listing posted back -/

namespace RulesFile

theorem listing_congr {first second : RuleResolver} (same : first.list = second.list) :
    listing first = listing second := by
  rw [listing, listing, RuleResolver.ruleNames_eq, RuleResolver.ruleNames_eq, same]

theorem submitted_listing (reader : RuleSetReader) (resolver : RuleResolver) :
    reader.submitted (listing resolver) = .ok resolver.list := by
  have items : ((listing resolver).get? "ruleSets").bind Json.asArray? =
      some (resolver.list.map RuleSet.toJson) := by
    simp [listing, Json.ofList]
  rw [RuleSetReader.submitted, items]
  exact reader.readItems_toJson 0 resolver.list

/-- Every loaded rule set has a name that is not blank. -/
def Nameable (resolver : RuleResolver) : Prop :=
  ∀ ruleSet ∈ resolver.list, Text.trim ruleSet.name ≠ ""

theorem accepted_listing (reader : RuleSetReader) {resolver : RuleResolver}
    (nameable : Nameable resolver) : reader.accepted (listing resolver) = .ok resolver.list := by
  rw [RuleSetReader.accepted, submitted_listing]
  refine if_neg fun blank => ?_
  obtain ⟨ruleSet, listed, isBlank⟩ := List.any_eq_true.mp blank
  exact nameable ruleSet listed (of_decide_eq_true isBlank)

theorem accepted_listing_of_not (reader : RuleSetReader) {resolver : RuleResolver}
    (unnameable : ¬ Nameable resolver) : ∃ message,
    reader.accepted (listing resolver) = .error message := by
  simp only [Nameable, not_forall, not_not] at unnameable
  obtain ⟨ruleSet, listed, isBlank⟩ := unnameable
  rw [RuleSetReader.accepted, submitted_listing]
  exact ⟨_, if_pos (List.any_eq_true.mpr ⟨ruleSet, listed, decide_eq_true isBlank⟩)⟩

end RulesFile

/--
What the panel lists can be posted back exactly when no loaded rule set has a blank name.
Then and otherwise the listing and every resolution stay as they are; and when the file was
replaced, a new process resolves every name in the same way.
-/
theorem rules_post_back_iff (host : Host) (reader : RuleSetReader) (serde : SerdeRuleSets)
    (results : FileReplace.Results) (rules : RulesFile) :
    let posted := RulesFile.apiRulesSet host reader serde (RulesFile.listing rules.resolver)
      results rules
    (posted.1.status = 200 ↔ RulesFile.Nameable rules.resolver) ∧
      RulesFile.listing posted.2.resolver = RulesFile.listing rules.resolver ∧
      (∀ requestedModel estTokens, posted.2.resolver.resolve requestedModel estTokens =
        rules.resolver.resolve requestedModel estTokens) ∧
      (posted.1.status = 200 → results.replaced = true → ∀ requestedModel estTokens,
        (RulesFile.reopen serde posted.2.disk).resolve requestedModel estTokens =
          rules.resolver.resolve requestedModel estTokens) := by
  intro posted
  by_cases nameable : RulesFile.Nameable rules.resolver
  · have same := RuleResolver.lookup_load_list rules.resolver
    have stored : posted.2 = rules.set serde rules.resolver.list results := by
      simp only [posted, RulesFile.apiRulesSet, RulesFile.accepted_listing reader nameable]
    have ok : posted.1.status = 200 := by
      simp only [posted, RulesFile.apiRulesSet, RulesFile.accepted_listing reader nameable]
      rfl
    refine ⟨iff_of_true ok nameable, ?_, ?_, ?_⟩
    · rw [stored]
      exact RulesFile.listing_congr (RuleResolver.list_congr same)
    · rw [stored]
      exact RuleResolver.resolve_congr same
    · intro _ replaced
      rw [stored, RulesFile.reopen, RulesFile.set, FileReplace.replace_of_replaced replaced,
        RuleResolver.loadFromFile_toString]
      exact RuleResolver.resolve_congr same
  · obtain ⟨message, refused⟩ := RulesFile.accepted_listing_of_not reader nameable
    have bad : posted.1.status = 400 := by
      simp only [posted, RulesFile.apiRulesSet, refused]
      rfl
    have kept : posted.2 = rules := by
      simp only [posted, RulesFile.apiRulesSet, refused]
    rw [bad, kept]
    exact ⟨iff_of_false (by decide) nameable, rfl, fun _ _ => rfl, fun ok => by cases ok⟩

end AiPowerGateway.Share

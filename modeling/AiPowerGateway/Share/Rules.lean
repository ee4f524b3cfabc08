import AiPowerGateway.Collections.HashMap
import Mathlib.Algebra.Ring.Nat
import Mathlib.Data.List.MinMax
import Mathlib.Data.List.Sort

/-!
# The rule engine

A requested model may be the name of a rule set; resolving it gives the sequence
of real models to try.
-/

namespace AiPowerGateway.Share

/-- A real model with the largest prompt it takes, in tokens. -/
structure Candidate where
  model : String
  maxPromptTokens : Option UInt64 := none
  deriving DecidableEq, Repr

structure Rule where
  matchModel : String := "*"
  order : UInt32 := 0
  strategy : String := "token_tier"
  candidates : List Candidate
  fallback : List String := []
  deriving DecidableEq, Repr

structure RuleSet where
  id : String
  name : String
  version : UInt64
  rules : List Rule := []
  deriving DecidableEq, Repr

/-- The models to try, and the rule set that named them. -/
structure Resolution where
  ruleSet : String
  candidates : List String
  deriving DecidableEq, Repr

def Resolution.first (resolution : Resolution) : Option String := resolution.candidates.head?

/-- The loaded rule sets, each under its own name. -/
structure RuleResolver where
  sets : HashMap RuleSet
  named {name : String} {ruleSet : RuleSet} :
    sets.lookup name = some ruleSet → ruleSet.name = name

namespace RuleResolver

def empty : RuleResolver where
  sets := ∅
  named found := by simp at found

def upsert (resolver : RuleResolver) (ruleSet : RuleSet) : RuleResolver where
  sets := resolver.sets.insert ruleSet.name ruleSet
  named := by
    intro name stored found
    by_cases same : name = ruleSet.name
    · subst same
      rw [AList.lookup_insert] at found
      rw [← Option.some.inj found]
    · exact resolver.named (by simpa [AList.lookup_insert_ne same] using found)

/-- Replace what is loaded; the last of several sets of one name stays. -/
def load (ruleSets : List RuleSet) : RuleResolver := ruleSets.foldl upsert empty

end RuleResolver

/-! ## Choosing a rule and its candidates -/

/-- The wildcard rule, else the rule for the requested name, else the first of least order. -/
def selectRule (requested : String) (rules : List Rule) : Option Rule :=
  ((rules.find? fun rule => rule.matchModel = "*").or
    (rules.find? fun rule => rule.matchModel = requested)).or
      (rules.argmin fun rule => rule.order.toNat)

namespace Candidate

def fits (estTokens : UInt64) (candidate : Candidate) : Bool :=
  match candidate.maxPromptTokens with
  | some limit => estTokens ≤ limit
  | none => true

/-- A candidate without a limit sorts behind the others. -/
def sortKey (candidate : Candidate) : UInt64 :=
  candidate.maxPromptTokens.getD (UInt64.ofNat (2 ^ 64 - 1))

end Candidate

/-- The candidates of a rule in the order in which its strategy tries them. -/
def Rule.ordered (rule : Rule) (estTokens : UInt64) : List Candidate :=
  if rule.strategy = "fixed" then rule.candidates
  else (rule.candidates.filter (Candidate.fits estTokens)).insertionSort
    fun first second => first.sortKey ≤ second.sortKey

/-- The models to try under a rule, its fallback last; empty names are dropped. -/
def Rule.models (rule : Rule) (estTokens : UInt64) : List String :=
  ((rule.ordered estTokens).map Candidate.model).filter (· ≠ "") ++
    rule.fallback.filter (· ≠ "")

def RuleResolver.resolve (resolver : RuleResolver) (requestedModel : String)
    (estTokens : UInt64) : Option Resolution :=
  (resolver.sets.lookup requestedModel).bind fun ruleSet =>
    (selectRule requestedModel ruleSet.rules).bind fun rule =>
      let candidates := rule.models estTokens
      if candidates = [] then none else some ⟨ruleSet.name, candidates⟩

/-- A quarter of the characters of a text, and at least one. -/
def estimateTokens (text : String) : UInt64 := UInt64.ofNat (max (text.length / 4) 1)

/-! ## What a resolution is -/

namespace RuleResolver

theorem resolve_eq_some {resolver : RuleResolver} {requested : String} {estTokens : UInt64}
    {resolution : Resolution} (resolved : resolver.resolve requested estTokens = some resolution) :
    resolution.ruleSet = requested ∧ resolution.candidates ≠ [] ∧
      ∃ ruleSet rule, resolver.sets.lookup requested = some ruleSet ∧
        selectRule requested ruleSet.rules = some rule ∧
        resolution.candidates = rule.models estTokens := by
  unfold resolve at resolved
  obtain ⟨ruleSet, found, selects⟩ := Option.bind_eq_some_iff.mp resolved
  obtain ⟨rule, selected, built⟩ := Option.bind_eq_some_iff.mp selects
  by_cases none : rule.models estTokens = []
  · simp [none] at built
  · simp only [none, ↓reduceIte, Option.some.injEq] at built
    subst built
    exact ⟨resolver.named found, none, ruleSet, rule, found, selected, rfl⟩

/-- A resolution carries the requested name. -/
theorem ruleSet_of_resolve {resolver : RuleResolver} {requested : String} {estTokens : UInt64}
    {resolution : Resolution} (resolved : resolver.resolve requested estTokens = some resolution) :
    resolution.ruleSet = requested :=
  (resolve_eq_some resolved).1

theorem candidates_ne_nil {resolver : RuleResolver} {requested : String} {estTokens : UInt64}
    {resolution : Resolution} (resolved : resolver.resolve requested estTokens = some resolution) :
    resolution.candidates ≠ [] :=
  (resolve_eq_some resolved).2.1

/-- No candidate of a resolution is the empty name. -/
theorem candidate_ne_empty {resolver : RuleResolver} {requested : String} {estTokens : UInt64}
    {resolution : Resolution} (resolved : resolver.resolve requested estTokens = some resolution)
    {model : String} (mem : model ∈ resolution.candidates) : model ≠ "" := by
  obtain ⟨-, -, ruleSet, rule, -, -, candidates⟩ := resolve_eq_some resolved
  rw [candidates, Rule.models, List.mem_append] at mem
  rcases mem with mem | mem
  · simpa using (List.mem_filter.mp mem).2
  · simpa using (List.mem_filter.mp mem).2

end RuleResolver

end AiPowerGateway.Share

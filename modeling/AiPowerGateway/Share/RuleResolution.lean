import AiPowerGateway.Collections.StableOrder
import AiPowerGateway.Share.Rules

/-!
# What a name resolves to

The rule that answers for a name, the order of its candidates, and what a larger
prompt leaves of them.
-/

namespace AiPowerGateway.Share

open StableOrder

/-! ## What the engine is to do -/

namespace Candidate

/-- The largest prompt a candidate takes; without a limit it is the greatest number. -/
def bound (candidate : Candidate) : Nat := candidate.maxPromptTokens.elim (2 ^ 64 - 1) UInt64.toNat

/-- A named candidate whose bound is absent or not below the prompt. -/
def takes (estTokens : UInt64) (candidate : Candidate) : Bool :=
  candidate.model ≠ "" ∧ candidate.maxPromptTokens.all (estTokens ≤ ·)

end Candidate

namespace Rule

/-- The first wildcard rule, else the first for the name, else the first of least order. -/
def IsSelected (requested : String) (rules : List Rule) (rule : Rule) : Prop :=
  IsFirst (fun rule => rule.matchModel = "*") rules rule ∨
    (∀ other ∈ rules, other.matchModel ≠ "*") ∧
      (IsFirst (fun rule => rule.matchModel = requested) rules rule ∨
        (∀ other ∈ rules, other.matchModel ≠ requested) ∧
          IsFirst (fun least => ∀ other ∈ rules, least.order.toNat ≤ other.order.toNat) rules rule)

/-- The candidates to try: in their own order, or those that take the prompt by their bounds. -/
structure Tries (rule : Rule) (estTokens : UInt64) (tried : List Candidate) : Prop where
  fixed : rule.strategy = "fixed" →
    tried = rule.candidates.filter fun candidate => candidate.model ≠ ""
  tiered : rule.strategy ≠ "fixed" →
    IsStableOrder Candidate.bound (rule.candidates.filter (Candidate.takes estTokens)) tried

end Rule

/-! ## The rule -/

theorem isSelected_of_selectRule {requested : String} {rules : List Rule} {rule : Rule}
    (selected : selectRule requested rules = some rule) : rule.IsSelected requested rules := by
  rcases Option.or_eq_some_iff.mp selected with named | ⟨unnamed, least⟩
  · rcases Option.or_eq_some_iff.mp named with star | ⟨noStar, exact⟩
    · exact .inl (isFirst_of_find? star)
    · exact .inr ⟨not_of_find?_none noStar, .inl (isFirst_of_find? exact)⟩
  · obtain ⟨noStar, noExact⟩ := Option.or_eq_none_iff.mp unnamed
    exact .inr ⟨not_of_find?_none noStar,
      .inr ⟨not_of_find?_none noExact, isFirst_of_argmin least⟩⟩

/-! ## Its candidates -/

namespace Candidate

theorem sortKey_toNat (candidate : Candidate) : candidate.sortKey.toNat = candidate.bound := by
  unfold sortKey bound
  cases candidate.maxPromptTokens <;> rfl

theorem sortKey_le_iff (first second : Candidate) :
    first.sortKey ≤ second.sortKey ↔ first.bound ≤ second.bound := by
  rw [← sortKey_toNat, ← sortKey_toNat]
  exact UInt64.le_iff_toNat_le

theorem fits_eq_all (estTokens : UInt64) (candidate : Candidate) :
    candidate.fits estTokens = candidate.maxPromptTokens.all (estTokens ≤ ·) := by
  unfold fits
  cases candidate.maxPromptTokens <;> rfl

/-- What takes the larger prompt takes the smaller one. -/
theorem fits_mono {estTokens larger : UInt64} (le : estTokens ≤ larger) {candidate : Candidate}
    (fits : candidate.fits larger = true) : candidate.fits estTokens = true := by
  rw [fits_eq_all, Option.all_eq_true] at fits ⊢
  intro limit limited
  exact decide_eq_true (UInt64.le_trans le (of_decide_eq_true (fits limit limited)))

theorem takes_eq (estTokens : UInt64) (candidate : Candidate) :
    candidate.takes estTokens =
      (decide (candidate.model ≠ "") && candidate.fits estTokens) := by
  rw [takes, fits_eq_all, Bool.decide_and, Bool.decide_eq_true]

end Candidate

namespace Rule

theorem isStableOrder_ordered {rule : Rule} (tiered : rule.strategy ≠ "fixed")
    (estTokens : UInt64) :
    IsStableOrder Candidate.bound (rule.candidates.filter (Candidate.fits estTokens))
      (rule.ordered estTokens) := by
  rw [ordered, if_neg tiered]
  exact isStableOrder_insertionSort Candidate.sortKey_le_iff _

/-- The named candidates, in the order of the strategy. -/
def tried (rule : Rule) (estTokens : UInt64) : List Candidate :=
  (rule.ordered estTokens).filter fun candidate => candidate.model ≠ ""

theorem tries_tried (rule : Rule) (estTokens : UInt64) :
    rule.Tries estTokens (rule.tried estTokens) where
  fixed fixed := by rw [tried, ordered, if_pos fixed]
  tiered tiered := by
    have sorts := (isStableOrder_ordered tiered estTokens).filter
      fun candidate => candidate.model ≠ ""
    rw [List.filter_filter] at sorts
    have same : Candidate.takes estTokens = fun candidate =>
        decide (candidate.model ≠ "") && candidate.fits estTokens :=
      funext (Candidate.takes_eq estTokens)
    rw [same]
    exact sorts

theorem models_eq (rule : Rule) (estTokens : UInt64) :
    rule.models estTokens = (rule.tried estTokens).map Candidate.model ++
      rule.fallback.filter (· ≠ "") := by
  rw [models, tried, List.filter_map]
  rfl

/-- A larger prompt only loses candidates. -/
theorem ordered_sublist (rule : Rule) {estTokens larger : UInt64} (le : estTokens ≤ larger) :
    (rule.ordered larger).Sublist (rule.ordered estTokens) := by
  by_cases fixed : rule.strategy = "fixed"
  · rw [ordered, ordered, if_pos fixed, if_pos fixed]
  · have kept := isStableOrder_ordered fixed larger
    have twice : rule.candidates.filter (Candidate.fits larger) =
        (rule.candidates.filter (Candidate.fits estTokens)).filter (Candidate.fits larger) := by
      rw [List.filter_filter]
      refine List.filter_congr fun candidate _ => ?_
      cases fits : candidate.fits larger with
      | false => rfl
      | true => rw [Candidate.fits_mono le fits, Bool.and_self]
    rw [twice] at kept
    exact (isStableOrder_ordered fixed estTokens).sublist kept

theorem models_sublist (rule : Rule) {estTokens larger : UInt64} (le : estTokens ≤ larger) :
    (rule.models larger).Sublist (rule.models estTokens) :=
  (((rule.ordered_sublist le).map Candidate.model).filter _).append (List.Sublist.refl _)

end Rule

/-! ## The resolution -/

namespace RuleResolver

/-- The models of a resolution; a name that is not resolved has none. -/
def models (resolver : RuleResolver) (requested : String) (estTokens : UInt64) : List String :=
  ((resolver.resolve requested estTokens).map Resolution.candidates).getD []

/-- The rule that answers for a name, whatever the prompt. -/
def ruleFor (resolver : RuleResolver) (requested : String) : Option Rule :=
  (resolver.sets.lookup requested).bind fun ruleSet => selectRule requested ruleSet.rules

theorem models_eq (resolver : RuleResolver) (requested : String) (estTokens : UInt64) :
    resolver.models requested estTokens =
      ((resolver.ruleFor requested).map fun rule => rule.models estTokens).getD [] := by
  unfold models ruleFor resolve
  cases resolver.sets.lookup requested with
  | none => rfl
  | some ruleSet =>
      simp only [Option.bind_some]
      cases selectRule requested ruleSet.rules with
      | none => rfl
      | some rule =>
          simp only [Option.bind_some, Option.map_some, Option.getD_some]
          by_cases none : rule.models estTokens = []
          · rw [if_pos none, none]
            rfl
          · rw [if_neg none]
            rfl

theorem models_sublist (resolver : RuleResolver) (requested : String) {estTokens larger : UInt64}
    (le : estTokens ≤ larger) :
    (resolver.models requested larger).Sublist (resolver.models requested estTokens) := by
  rw [models_eq, models_eq]
  cases resolver.ruleFor requested with
  | none => exact List.Sublist.refl _
  | some rule => exact rule.models_sublist le

/-- A resolution tries the named candidates of the selected rule in the order of its strategy
and its named fallback models after them; a larger prompt leaves a part of it. -/
theorem resolve_correct (resolver : RuleResolver) (requested : String) {estTokens larger : UInt64}
    (le : estTokens ≤ larger) :
    (∀ resolution, resolver.resolve requested estTokens = some resolution →
      ∃ (ruleSet : RuleSet) (rule : Rule) (tried : List Candidate),
        resolver.sets.lookup requested = some ruleSet ∧
          rule.IsSelected requested ruleSet.rules ∧ rule.Tries estTokens tried ∧
            resolution.candidates =
              tried.map Candidate.model ++ rule.fallback.filter (· ≠ "")) ∧
      (resolver.models requested larger).Sublist (resolver.models requested estTokens) := by
  refine ⟨fun resolution resolved => ?_, resolver.models_sublist requested le⟩
  obtain ⟨-, -, ruleSet, rule, found, selected, candidates⟩ := resolve_eq_some resolved
  exact ⟨ruleSet, rule, rule.tried estTokens, found, isSelected_of_selectRule selected,
    rule.tries_tried estTokens, candidates.trans (rule.models_eq estTokens)⟩

/-- Two sizes of one model and one without a limit, with a fallback. -/
def tierRules : RuleSet where
  id := "rs_01H"
  name := "default-cost"
  version := 2
  rules := [{
    candidates := [⟨"model-8k", some 6000⟩, ⟨"model-32k", some 28000⟩, ⟨"model-128k", none⟩]
    fallback := ["model-mini"] }]

theorem resolve_correct_tiers :
    ((load [tierRules]).resolve "default-cost" 7000).isSome ∧
      (∀ resolution, (load [tierRules]).resolve "default-cost" 7000 = some resolution →
        ∃ (ruleSet : RuleSet) (rule : Rule) (tried : List Candidate),
          (load [tierRules]).sets.lookup "default-cost" = some ruleSet ∧
            rule.IsSelected "default-cost" ruleSet.rules ∧ rule.Tries 7000 tried ∧
              resolution.candidates =
                tried.map Candidate.model ++ rule.fallback.filter (· ≠ "")) ∧
        ((load [tierRules]).models "default-cost" 30000).Sublist
          ((load [tierRules]).models "default-cost" 7000) :=
  ⟨by decide, resolve_correct (load [tierRules]) "default-cost" (by decide)⟩

end RuleResolver

end AiPowerGateway.Share

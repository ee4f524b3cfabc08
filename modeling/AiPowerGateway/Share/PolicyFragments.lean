import AiPowerGateway.Share.PolicyCoverage
import Mathlib.Data.List.Find

/-!
# Detection, fragment by fragment

The policy scans the fragments of a request joined with line breaks.  No term goes over a
line break, so what it detects is what it would detect in the single fragments, and the
category is that of the first rule that one of them hits.
-/

namespace AiPowerGateway.Share

/-- Every character is lowered by itself. -/
structure LowersByChar (host : Host) (lower : Char → List Char) : Prop where
  newline : lower '\n' = ['\n']
  chars (text : String) : (host.toLowercase text).toList = text.toList.flatMap lower

theorem LowersByChar.byLine {host : Host} {lower : Char → List Char}
    (lowers : LowersByChar host lower) : LowersByLine host where
  empty := by
    apply String.toList_injective
    rw [lowers.chars]
    rfl
  append first rest := by
    apply String.toList_injective
    simp [lowers.chars, lowers.newline]

theorem lowersByChar_compact : LowersByChar Host.compact fun c => [c.toLower] where
  newline := rfl
  chars text := by
    rw [toLowercase_compact, String.toList_ofList]
    exact List.map_eq_flatMap

section Fragments

variable {host : Host} (lowers : LowersByLine host)

include lowers

theorem detect_joinLines (fragments : List String) :
    detect host (Text.joinLines fragments) =
      (policyRules.find? fun rule => fragments.any (rule.hits host)).map
        PolicyRule.category := by
  rw [detect_eq lowers]
  exact congrArg _ (List.find?_congr fun rule inRules =>
    PolicyRule.hits_joinLines lowers inRules fragments)

/-- What is detected in a request is what is detected in one of its fragments. -/
theorem detect_extractRequestText (body : Json) :
    detect host (extractRequestText body) =
      (policyRules.find? fun rule => (scannedTexts body).any (rule.hits host)).map
        PolicyRule.category :=
  detect_joinLines lowers (scannedTexts body)

end Fragments

/--
Joining fragments neither creates a hit nor hides one, and the category is that of the
first rule with a term in one of the fragments.
-/
theorem detection_distributes {host : Host} (lowers : LowersByLine host)
    (fragments : List String) :
    ((detect host (Text.joinLines fragments)).isSome ↔
      ∃ fragment ∈ fragments, (detect host fragment).isSome) ∧
    detect host (Text.joinLines fragments) =
      (policyRules.find? fun rule => fragments.any fun fragment =>
        rule.terms.any fun term => Text.contains (host.toLowercase fragment) term).map
          PolicyRule.category :=
  ⟨banned_joinLines lowers fragments, detect_joinLines lowers fragments⟩

/-- A later fragment can decide the category, when an earlier rule hits it. -/
theorem detection_distributes_two :
    detect Host.compact "make a deepfake\nrun XMRig" = some .mining := by
  have joined :=
    (detection_distributes lowersByChar_compact.byLine ["make a deepfake", "run XMRig"]).2
  have text : Text.joinLines ["make a deepfake", "run XMRig"] = "make a deepfake\nrun XMRig" := rfl
  rw [text] at joined
  rw [joined]
  simp only [toLowercase_compact]
  decide

end AiPowerGateway.Share

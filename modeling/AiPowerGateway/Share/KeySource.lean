import AiPowerGateway.Collections.StableOrder
import AiPowerGateway.Share.OneKey

/-!
# Where a key comes from

The key of a backend is looked for in one place after the other.  The panel names the
place with two chains of its own, one of which leaves out a variable, while the other
takes variables for set that hold no key.
-/

namespace AiPowerGateway.Share

open StableOrder

/-- Where a key can stand: in the configuration file, or in an environment variable. -/
inductive KeyPlace where
  | file
  | var (name : String)
  deriving DecidableEq, Repr

namespace BackendEntry

section Places

variable (env : ProcessEnv) (entry : BackendEntry)

/-- The places that are looked at, the first one first. -/
def keyPlaces : List KeyPlace :=
  [.file] ++ (nonEmpty entry.apiKeyEnv).toList.map .var ++ [.var (entry.officialVar env)] ++
    (if entry.provider = "codebuddy" then [.var "CODEBUDDY_API_KEY"] else []) ++
    [.var "AIPOWERLINK_API_KEY"]

/-- The key at a place; an empty text is none. -/
def keyAt : KeyPlace → Option String
  | .file => nonEmpty entry.apiKey
  | .var name => nonEmpty (env.var name)

/-- The place that the key is taken from. -/
def keyOrigin : Option KeyPlace :=
  (entry.keyPlaces env).find? fun place => (entry.keyAt env place).isSome

/-- The key that is used is the one at the first place that has one. -/
theorem resolveApiKey_eq :
    entry.resolveApiKey env = (entry.keyOrigin env).bind (entry.keyAt env) := by
  have named : ((nonEmpty entry.apiKeyEnv).toList.map .var).findSome? (entry.keyAt env) =
      (nonEmpty entry.apiKeyEnv).bind fun name => nonEmpty (env.var name) := by
    cases nonEmpty entry.apiKeyEnv with
    | none => rfl
    | some name => simp [keyAt]
  have codeBuddy : (if entry.provider = "codebuddy" then [KeyPlace.var "CODEBUDDY_API_KEY"]
      else []).findSome? (entry.keyAt env) =
        if entry.provider = "codebuddy" then nonEmpty (env.var "CODEBUDDY_API_KEY") else none := by
    split
    · simp [keyAt]
    · rfl
  rw [keyOrigin, find?_bind_eq_findSome?, keyPlaces]
  simp only [List.findSome?_append, List.findSome?_singleton, named, codeBuddy, Option.or_assoc]
  rfl

end Places

/-- The panel tells where the key comes from that the backend is built with. -/
structure ShowsKey (env : ProcessEnv) (entry : BackendEntry) : Prop where
  none : entry.keySource env = "none" ↔ entry.resolveApiKey env = none
  file : entry.keySource env = "file" ↔
    ∃ key, entry.apiKey = some key ∧ key ≠ "" ∧ entry.resolveApiKey env = some key
  masked : ∀ name, entry.maskedKey env = "env:" ++ name → entry.keyOrigin env = some (.var name)

/--
The key stands in the file; or in the variable that the entry names; or, if it names none,
the variable of the provider is set to a key, or it is not set and neither the second
variable of the provider has a key nor is the common variable set to an empty text.
-/
def KeyIsPlain (env : ProcessEnv) (entry : BackendEntry) : Prop :=
  (nonEmpty entry.apiKey).isSome ∨
    match nonEmpty entry.apiKeyEnv with
    | some name => (nonEmpty (env.var name)).isSome
    | none =>
        match env.var (entry.officialVar env) with
        | some value => value ≠ ""
        | none =>
            (entry.provider = "codebuddy" → nonEmpty (env.var "CODEBUDDY_API_KEY") = none) ∧
              env.var "AIPOWERLINK_API_KEY" ≠ some ""

section Shown

variable {env : ProcessEnv} {entry : BackendEntry}

theorem nonEmpty_eq_some {text : Option String} {value : String} :
    nonEmpty text = some value ↔ text = some value ∧ value ≠ "" := by
  simp [nonEmpty, Option.filter_eq_some_iff]

theorem isSome_nonEmpty {value : String} : (nonEmpty (some value)).isSome ↔ value ≠ "" := by
  rw [Option.isSome_iff_exists]
  simp [nonEmpty_eq_some]

/-- With a key in the file the chains agree. -/
theorem showsKey_of_file {key : String} (file : nonEmpty entry.apiKey = some key) :
    ShowsKey env entry := by
  have resolved : entry.resolveApiKey env = some key := by rw [resolveApiKey, file]; rfl
  have source : entry.keySource env = "file" := by simp [keySource, file]
  obtain ⟨given, nonempty⟩ := nonEmpty_eq_some.mp file
  refine ⟨?_, ?_, fun name masked => ?_⟩
  · simp [source, resolved]
  · exact iff_of_true source ⟨key, given, nonempty, resolved⟩
  · have shown : ∃ rest, entry.maskedKey env = "***" ++ rest := by
      simp only [maskedKey, file]
      split
      · exact ⟨_, rfl⟩
      · exact ⟨"", rfl⟩
    obtain ⟨rest, shown⟩ := shown
    have chars := congrArg String.toList (shown.symm.trans masked)
    simp at chars

section Keyless

variable (keyless : nonEmpty entry.apiKey = none)

include keyless

/-- Without a key in the file nothing says that there is one. -/
theorem showsKey_keyless_iff :
    ShowsKey env entry ↔
      (entry.keySource env = "none" ↔ entry.resolveApiKey env = none) ∧
        ∀ name, entry.maskedKey env = "env:" ++ name →
          entry.keyOrigin env = some (.var name) := by
  refine ⟨fun shows => ⟨shows.none, shows.masked⟩, fun ⟨unset, masked⟩ => ⟨unset, ?_, masked⟩⟩
  refine iff_of_false ?_ ?_
  · simp only [keySource, keyless, Option.isSome_none, Bool.false_eq_true, ↓reduceIte]
    split_ifs <;> decide
  · rintro ⟨key, given, nonempty, -⟩
    rw [nonEmpty_eq_some.mpr ⟨given, nonempty⟩] at keyless
    cases keyless

/-- A variable that is shown is the right one if it is used whenever it has a key. -/
theorem showsKey_shown_iff {name : String} (masked : entry.maskedKey env = "env:" ++ name)
    (used : ∀ key, nonEmpty (env.var name) = some key →
      entry.keyOrigin env = some (.var name) ∧ entry.keySource env ≠ "none") :
    ShowsKey env entry ↔ (nonEmpty (env.var name)).isSome := by
  rw [showsKey_keyless_iff keyless]
  cases value : nonEmpty (env.var name) with
  | none =>
      refine iff_of_false (fun ⟨_, shown⟩ => ?_) Bool.false_ne_true
      have origin := List.find?_some (shown name masked)
      rw [keyAt, value] at origin
      cases origin
  | some key =>
      obtain ⟨origin, source⟩ := used key value
      refine iff_of_true ⟨iff_of_false source ?_, fun other same => ?_⟩ rfl
      · rw [resolveApiKey_eq, origin, Option.bind_some, keyAt, value]
        exact Option.some_ne_none key
      · rw [masked] at same
        rw [origin, (String.append_right_inj _).mp same]

/-- The variable that the entry names is shown, and it is used when it has a key. -/
theorem showsKey_named_iff {name : String} (named : nonEmpty entry.apiKeyEnv = some name) :
    ShowsKey env entry ↔ (nonEmpty (env.var name)).isSome := by
  have masked : entry.maskedKey env = "env:" ++ name := by simp only [maskedKey, keyless, named]
  refine showsKey_shown_iff keyless masked fun key value => ⟨?_, ?_⟩
  · simp [keyOrigin, keyPlaces, keyAt, keyless, named, value]
  · simp [keySource, keyless, named, value]

section Unnamed

variable (unnamed : nonEmpty entry.apiKeyEnv = none)

include unnamed

/-- The variable of the provider is shown when it is set, whether it has a key or not. -/
theorem showsKey_official_iff {value : String}
    (set : env.var (entry.officialVar env) = some value) :
    ShowsKey env entry ↔ value ≠ "" := by
  have masked : entry.maskedKey env = "env:" ++ entry.officialVar env := by
    simp only [maskedKey, keyless, unnamed, set, Option.isSome_some, ↓reduceIte]
  rw [← isSome_nonEmpty, ← set]
  refine showsKey_shown_iff keyless masked fun key value => ⟨?_, ?_⟩
  · simp [keyOrigin, keyPlaces, keyAt, keyless, unnamed, value]
  · simp [keySource, keyless, unnamed, value]

section Unset

variable (unset : env.var (entry.officialVar env) = none)

include unset

/-- The second variable of a provider is never shown. -/
theorem not_showsKey_codeBuddy (codeBuddy : entry.provider = "codebuddy") {key : String}
    (has : nonEmpty (env.var "CODEBUDDY_API_KEY") = some key) : ¬ ShowsKey env entry := by
  have keylessVar : nonEmpty (env.var (entry.officialVar env)) = none := by rw [unset]; rfl
  have origin : entry.keyOrigin env = some (.var "CODEBUDDY_API_KEY") := by
    simp [keyOrigin, keyPlaces, keyAt, keyless, unnamed, keylessVar, codeBuddy, has]
  intro shows
  cases common : env.var "AIPOWERLINK_API_KEY" with
  | none =>
      have keylessCommon : nonEmpty (env.var "AIPOWERLINK_API_KEY") = none := by rw [common]; rfl
      have source : entry.keySource env = "none" := by
        simp [keySource, keyless, unnamed, keylessVar, keylessCommon]
      have resolved := shows.none.mp source
      rw [resolveApiKey_eq, origin] at resolved
      simp [keyAt, has] at resolved
  | some value =>
      have masked : entry.maskedKey env = "env:" ++ "AIPOWERLINK_API_KEY" := by
        simp [maskedKey, keyless, unnamed, unset, common]
      have other := shows.masked _ masked
      rw [origin] at other
      simp at other

/-- The common variable comes last; it is shown when it is set. -/
theorem showsKey_common_iff
    (other : entry.provider = "codebuddy" → nonEmpty (env.var "CODEBUDDY_API_KEY") = none) :
    ShowsKey env entry ↔ env.var "AIPOWERLINK_API_KEY" ≠ some "" := by
  have keylessVar : nonEmpty (env.var (entry.officialVar env)) = none := by rw [unset]; rfl
  have origin : entry.keyOrigin env =
      [KeyPlace.var "AIPOWERLINK_API_KEY"].find? fun place => (entry.keyAt env place).isSome := by
    by_cases codeBuddy : entry.provider = "codebuddy"
    · simp [keyOrigin, keyPlaces, keyAt, keyless, unnamed, keylessVar, codeBuddy, other codeBuddy]
    · simp [keyOrigin, keyPlaces, keyAt, keyless, unnamed, keylessVar, codeBuddy]
  have source : entry.keySource env =
      if (nonEmpty (env.var "AIPOWERLINK_API_KEY")).isSome then "env" else "none" := by
    simp [keySource, keyless, unnamed, keylessVar]
  have masked : entry.maskedKey env =
      if (env.var "AIPOWERLINK_API_KEY").isSome then "env:AIPOWERLINK_API_KEY" else "" := by
    simp only [maskedKey, keyless, unnamed, unset, Option.isSome_none, Bool.false_eq_true,
      ↓reduceIte]
  cases common : env.var "AIPOWERLINK_API_KEY" with
  | none =>
      have nothing : nonEmpty (env.var "AIPOWERLINK_API_KEY") = none := by rw [common]; rfl
      simp only [keyAt, List.find?_singleton, nothing] at origin
      rw [nothing] at source
      rw [common] at masked
      rw [showsKey_keyless_iff keyless, resolveApiKey_eq, origin, source, masked]
      refine iff_of_true ⟨iff_of_true rfl rfl, fun name same => ?_⟩ (Option.some_ne_none _).symm
      have chars := congrArg String.toList same
      simp at chars
  | some value =>
      have shown : entry.maskedKey env = "env:" ++ "AIPOWERLINK_API_KEY" := by
        rw [masked, common, Option.isSome_some, if_pos rfl]
        decide
      rw [Ne, Option.some_inj, ← Ne, ← isSome_nonEmpty, ← common]
      refine showsKey_shown_iff keyless shown fun key value => ⟨?_, ?_⟩
      · simp [origin, keyAt, value]
      · simp [source, value]

end Unset

end Unnamed

end Keyless

end Shown

/--
What the panel tells of the key of an entry is right exactly if the key stands in one of
the places where both of its chains look for it in the way the backend does.
-/
theorem shows_key_iff (env : ProcessEnv) (entry : BackendEntry) :
    ShowsKey env entry ↔ KeyIsPlain env entry := by
  rw [KeyIsPlain]
  cases keyless : nonEmpty entry.apiKey with
  | some key => exact iff_of_true (showsKey_of_file keyless) (.inl rfl)
  | none =>
      rw [Option.isSome_none, or_iff_right Bool.false_ne_true]
      cases unnamed : nonEmpty entry.apiKeyEnv with
      | some name => exact showsKey_named_iff keyless unnamed
      | none =>
          cases official : env.var (entry.officialVar env) with
          | some value => exact showsKey_official_iff keyless unnamed official
          | none =>
              by_cases other : entry.provider = "codebuddy" →
                  nonEmpty (env.var "CODEBUDDY_API_KEY") = none
              · rw [showsKey_common_iff keyless unnamed official other]
                exact (and_iff_right other).symm
              · obtain ⟨codeBuddy, has⟩ := Classical.not_imp.mp other
                obtain ⟨key, has⟩ := Option.ne_none_iff_exists'.mp has
                exact iff_of_false (not_showsKey_codeBuddy keyless unnamed official codeBuddy has)
                  fun plain => other plain.1

/-- An environment with one variable. -/
def oneVar (name value : String) : ProcessEnv :=
  { var := fun asked => if asked = name then some value else none
    toUppercase := String.toUpper }

/-- A backend that works with the key of the environment is shown as one without a key. -/
theorem not_shows_key_codebuddy :
    resolveApiKey (oneVar "CODEBUDDY_API_KEY" "sk-1") { provider := "codebuddy" } = some "sk-1" ∧
      keySource (oneVar "CODEBUDDY_API_KEY" "sk-1") { provider := "codebuddy" } = "none" ∧
      ¬ ShowsKey (oneVar "CODEBUDDY_API_KEY" "sk-1") { provider := "codebuddy" } := by
  have resolved : resolveApiKey (oneVar "CODEBUDDY_API_KEY" "sk-1") { provider := "codebuddy" } =
      some "sk-1" := by decide
  have source : keySource (oneVar "CODEBUDDY_API_KEY" "sk-1") { provider := "codebuddy" } =
      "none" := by decide
  refine ⟨resolved, source, fun shows => ?_⟩
  have unset := shows.none.mp source
  rw [resolved] at unset
  cases unset

end BackendEntry

end AiPowerGateway.Share

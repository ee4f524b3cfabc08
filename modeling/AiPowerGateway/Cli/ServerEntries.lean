import AiPowerGateway.Share.StoredEntries

/-!
# The backends of the command line

The backends that `--backend` lists, with the environment variables that hold their keys, and
how the leader sets up its backends from them and from its file.
-/

namespace AiPowerGateway.Cli

open Share Systems
open BackendEntry (nonEmpty)

variable (env : ProcessEnv)

/-! ## Entries of the command line -/

/-- The names between the commas, trimmed, without blank ones. -/
def backendNames (backendArg : String) : List String :=
  ((backendArg.toList.splitOn ',').map fun part => Text.trim (String.ofList part)).filter (· ≠ "")

def officialProviders : List String := ["deepseek", "kimi", "zhipu", "codebuddy"]

def envKey (name : String) : String := "AIPOWERLINK_" ++ env.toUppercase name ++ "_API_KEY"

def isSet (name : String) : Bool := (nonEmpty (env.var name)).isSome

/-- CodeBuddy also takes the variable of another tool. -/
def cbAlias (name : String) : Bool := name = "codebuddy" && isSet env "CODEBUDDY_API_KEY"

/-- The entry of a provider; its key stays in the environment. -/
def officialEntry (name : String) : BackendEntry where
  provider := name
  apiKeyEnv := some
    (if isSet env (envKey env name) then envKey env name
    else if cbAlias env name then "CODEBUDDY_API_KEY" else "AIPOWERLINK_API_KEY")
  models := (env.var ("AIPOWERLINK_" ++ env.toUppercase name ++ "_MODEL")).toList
  baseUrl := env.var "AIPOWERLINK_BASE_URL"

def entryFromEnv (name : String) : Except String BackendEntry :=
  if name = "mock" then .ok { provider := "mock" }
  else if name ∈ officialProviders then
    if !isSet env (envKey env name) && !isSet env "AIPOWERLINK_API_KEY" && !cbAlias env name then
      .error (name ++ " backend requires " ++ envKey env name ++
        " (or AIPOWERLINK_API_KEY) env var")
    else .ok (officialEntry env name)
  else .error ("unknown backend: " ++ name ++ " (mock/deepseek/kimi/zhipu/codebuddy)")

def entriesFromEnv (backendArg : String) : Except String (List BackendEntry) :=
  match (backendNames backendArg).mapM (entryFromEnv env) with
  | .error message => .error message
  | .ok [] =>
      .error "no backend configured (use --backend mock/deepseek/kimi/zhipu/codebuddy)"
  | .ok entries => .ok entries

/-- The lines of the source's `run_server` that set up the backends of a command line.  The
ports of the configuration are read before them, and opened after them. -/
def setUpBackends (host : Host) (yaml : SerdeYaml) (disk : FileReplace.Disk String)
    (backendArg : String) : Except String ConfigState :=
  match entriesFromEnv env backendArg with
  | .error message => .error message
  | .ok entries => ConfigState.withEntries host env yaml disk entries

/-! ## Which names are accepted -/

/-- The key of a provider without any configuration. -/
def plainKey (name : String) : Option String :=
  BackendEntry.resolveApiKey env { provider := name }

/-- The name is known, and its key is found. -/
def Available (name : String) : Prop :=
  name = "mock" ∨ name ∈ officialProviders ∧ (plainKey env name).isSome

variable {env} {name : String} {entry : BackendEntry}

theorem plainKey_eq (env : ProcessEnv) (name : String) :
    plainKey env name = (nonEmpty (env.var (envKey env name))).or
      ((if name = "codebuddy" then nonEmpty (env.var "CODEBUDDY_API_KEY") else none).or
        (nonEmpty (env.var "AIPOWERLINK_API_KEY"))) := by
  simp [plainKey, BackendEntry.resolveApiKey, BackendEntry.officialVar, BackendEntry.nonEmpty,
    envKey]

theorem isSome_plainKey : (plainKey env name).isSome =
    (isSet env (envKey env name) || isSet env "AIPOWERLINK_API_KEY" || cbAlias env name) := by
  rw [plainKey_eq, Option.isSome_or, Option.isSome_or, cbAlias, Bool.or_assoc]
  by_cases codeBuddy : name = "codebuddy"
  · simp only [codeBuddy, isSet, ↓reduceIte, decide_true, Bool.true_and]
    rw [Bool.or_comm (nonEmpty (env.var "CODEBUDDY_API_KEY")).isSome]
  · simp [codeBuddy, isSet]

/-- All that an accepted name can be. -/
theorem entryFromEnv_ok_iff : entryFromEnv env name = .ok entry ↔
    name = "mock" ∧ entry = { provider := "mock" } ∨
      name ≠ "mock" ∧ name ∈ officialProviders ∧ (plainKey env name).isSome ∧
        entry = officialEntry env name := by
  constructor
  · intro ok
    unfold entryFromEnv at ok
    split_ifs at ok with mock official keyless
    · exact Or.inl ⟨mock, (Except.ok.inj ok).symm⟩
    · refine Or.inr ⟨mock, official, ?_, (Except.ok.inj ok).symm⟩
      rw [isSome_plainKey]
      by_contra unset
      simp only [Bool.or_eq_true, not_or, Bool.not_eq_true] at unset
      simp [unset] at keyless
  · rintro (⟨mock, rfl⟩ | ⟨real, official, key, rfl⟩)
    · exact if_pos mock
    · rw [isSome_plainKey] at key
      rw [entryFromEnv, if_neg real, if_pos official]
      refine if_neg fun keyless => ?_
      simp_all

theorem exists_entryFromEnv_iff :
    (∃ entry, entryFromEnv env name = .ok entry) ↔ Available env name := by
  simp only [entryFromEnv_ok_iff, Available]
  by_cases mock : name = "mock" <;> simp [mock]

/-- The routing key of the entry is its name. -/
theorem provider_entryFromEnv (ok : entryFromEnv env name = .ok entry) :
    entry.provider = name ∧ entry.backendId = name := by
  rcases entryFromEnv_ok_iff.mp ok with ⟨rfl, rfl⟩ | ⟨-, -, -, rfl⟩ <;> exact ⟨rfl, rfl⟩

theorem builds_entryFromEnv (host : Host) (otherEnv : ProcessEnv)
    (ok : entryFromEnv env name = .ok entry) : entry.Builds host otherEnv := by
  rw [BackendEntry.builds_iff, BackendEntry.complete, (provider_entryFromEnv ok).1]
  have builtin : ∀ name ∈ "mock" :: officialProviders,
      (Provider.fromStr name).isBuiltin = true := by decide
  have known : name ∈ "mock" :: officialProviders := by
    rcases entryFromEnv_ok_iff.mp ok with ⟨mock, -⟩ | ⟨-, official, -⟩
    · exact mock ▸ List.mem_cons_self ..
    · exact List.mem_cons_of_mem _ official
  rw [builtin name known, Bool.true_or]

/-- The variable that the entry names holds the key that is found without it. -/
theorem resolveApiKey_officialEntry (env : ProcessEnv) (name : String) :
    (officialEntry env name).resolveApiKey env = plainKey env name := by
  have whole : (officialEntry env name).resolveApiKey env =
      ((nonEmpty (officialEntry env name).apiKeyEnv).bind fun name => nonEmpty (env.var name)).or
        (plainKey env name) := by
    rw [plainKey_eq]
    rfl
  have named (ref : String) (real : ref ≠ "") :
      ((nonEmpty (some ref)).bind fun name => nonEmpty (env.var name)) =
        nonEmpty (env.var ref) := by
    have kept : nonEmpty (some ref) = some ref := by simp [nonEmpty, Option.filter, real]
    rw [kept, Option.bind_some]
  have real : envKey env name ≠ "" := by
    intro empty
    have none := congrArg String.toList empty
    simp [envKey] at none
  rw [whole, plainKey_eq, officialEntry]
  simp only
  cases own : nonEmpty (env.var (envKey env name)) with
  | some =>
      rw [if_pos (by rw [isSet, own]; rfl), named _ real, own]
      rfl
  | none =>
      rw [if_neg (by rw [isSet, own]; decide), Option.none_or]
      cases aliased : cbAlias env name with
      | true =>
          obtain ⟨codeBuddy, set⟩ : name = "codebuddy" ∧ isSet env "CODEBUDDY_API_KEY" = true := by
            simpa [cbAlias] using aliased
          obtain ⟨key, found⟩ := Option.isSome_iff_exists.mp set
          rw [if_pos rfl, named _ (by decide), if_pos codeBuddy, found]
          rfl
      | false =>
          have missing : (if name = "codebuddy" then nonEmpty (env.var "CODEBUDDY_API_KEY")
              else none) = none := by
            by_cases codeBuddy : name = "codebuddy"
            · simpa [cbAlias, codeBuddy, isSet] using aliased
            · exact if_neg codeBuddy
          rw [if_neg Bool.false_ne_true, named _ (by decide), missing, Option.none_or,
            Option.or_self]

/-! ## The backends that are set up -/

/-- The entries are those of the names, in their order. -/
theorem entriesFromEnv_ok_iff {backendArg : String} {entries : List BackendEntry} :
    entriesFromEnv env backendArg = .ok entries ↔ backendNames backendArg ≠ [] ∧
      List.Forall₂ (fun name entry => entryFromEnv env name = .ok entry)
        (backendNames backendArg) entries := by
  rw [← Accumulators.mapM_ok_iff, entriesFromEnv]
  cases read : (backendNames backendArg).mapM (entryFromEnv env) with
  | error message => simp
  | ok found =>
      have lengths := (Accumulators.mapM_ok_iff.mp read).length_eq
      cases found with
      | nil => simp [List.eq_nil_of_length_eq_zero lengths]
      | cons entry rest =>
          have named : backendNames backendArg ≠ [] := by
            intro none
            simp [none] at lengths
          simp [named]

theorem exists_entriesFromEnv_iff {backendArg : String} :
    (∃ entries, entriesFromEnv env backendArg = .ok entries) ↔
      backendNames backendArg ≠ [] ∧ ∀ name ∈ backendNames backendArg, Available env name := by
  simp only [entriesFromEnv_ok_iff, exists_and_left, ← exists_entryFromEnv_iff]
  refine and_congr_right fun _ => ?_
  induction backendNames backendArg with
  | nil => simp
  | cons name names ih =>
      rw [List.forall_mem_cons, ← ih]
      simp only [List.forall₂_cons_left_iff]
      constructor
      · rintro ⟨_, entry, rest, first, others, -⟩
        exact ⟨⟨entry, first⟩, rest, others⟩
      · rintro ⟨⟨entry, first⟩, rest, others⟩
        exact ⟨_, entry, rest, first, others, rfl⟩

theorem builds_entriesFromEnv (host : Host) (otherEnv : ProcessEnv) {names : List String}
    {entries : List BackendEntry}
    (read : List.Forall₂ (fun name entry => entryFromEnv env name = .ok entry) names entries) :
    ∀ entry ∈ entries, entry.Builds host otherEnv := by
  induction read with
  | nil => simp
  | cons ok _ ih => exact List.forall_mem_cons.mpr ⟨builds_entryFromEnv host otherEnv ok, ih⟩

/-- A name that is listed twice has the same entry both times. -/
theorem find?_entriesFromEnv {names : List String} {entries : List BackendEntry}
    (read : List.Forall₂ (fun name entry => entryFromEnv env name = .ok entry) names entries)
    (listed : name ∈ names) :
    ∃ entry, BackendStore.find? entries name = some entry ∧
      entryFromEnv env name = .ok entry := by
  induction read with
  | nil => simp at listed
  | @cons first entry names entries ok _ ih =>
      rw [BackendStore.find?_cons, (provider_entryFromEnv ok).2]
      by_cases here : first = name
      · exact ⟨entry, if_pos here, here ▸ ok⟩
      · rw [if_neg here]
        exact ih ((List.mem_cons.mp listed).resolve_left (Ne.symm here))

/-- Nothing of the key is in the entry, and yet its backend gets it. -/
theorem secret_entryFromEnv (ok : entryFromEnv env name = .ok entry) :
    entry.apiKey = none ∧ (name ≠ "mock" →
      (entry.resolveApiKey env).isSome ∧ entry.resolveApiKey env = plainKey env name) := by
  rcases entryFromEnv_ok_iff.mp ok with ⟨mock, rfl⟩ | ⟨-, -, key, rfl⟩
  · exact ⟨rfl, fun real => absurd mock real⟩
  · rw [resolveApiKey_officialEntry]
    exact ⟨rfl, fun _ => ⟨key, rfl⟩⟩

/--
The backends can be set up exactly when the command line lists one, all that it lists are known
and have their keys in the environment, and all entries of the file can be built.  Then every
listed name is a backend: the file's, where the file has one of that name; else a new one whose
entry does not hold the key, but resolves to a key, the one the provider has without any entry.
-/
theorem backends_set_up_iff (host : Host) (env : ProcessEnv) (yaml : SerdeYaml)
    (disk : FileReplace.Disk String) (backendArg : String) :
    ((∃ config, setUpBackends env host yaml disk backendArg = .ok config) ↔
      backendNames backendArg ≠ [] ∧ (∀ name ∈ backendNames backendArg, Available env name) ∧
        ∀ entry ∈ BackendStore.loadEntries yaml disk.target, entry.Builds host env) ∧
    ∀ config, setUpBackends env host yaml disk backendArg = .ok config →
      ∀ name ∈ backendNames backendArg, ∃ entry,
        BackendStore.find? config.backendsConfig.entries name = some entry ∧
          (BackendStore.find? (BackendStore.loadEntries yaml disk.target) name = some entry ∨
            BackendStore.find? (BackendStore.loadEntries yaml disk.target) name = none ∧
              entry.apiKey = none ∧ (name ≠ "mock" → (entry.resolveApiKey env).isSome ∧
                entry.resolveApiKey env = plainKey env name)) := by
  rw [← and_assoc, ← exists_entriesFromEnv_iff, setUpBackends]
  cases read : entriesFromEnv env backendArg with
  | error message => simp
  | ok entries =>
      have all := (entriesFromEnv_ok_iff.mp read).2
      have builds := builds_entriesFromEnv host env all
      constructor
      · simp only [Except.ok.injEq, exists_eq', true_and, withEntries_ok_iff]
        constructor
        · exact fun every entry mem => every entry (file_subset_new disk entries entry mem)
        · exact fun file entry mem => (BackendStore.mem_new mem).elim (file entry) (builds entry)
      · intro config started name listed
        obtain ⟨entry, found, ok⟩ := find?_entriesFromEnv all listed
        rw [store_withEntries started, BackendStore.find?_new, BackendStore.Table.opened, found]
        cases filed : BackendStore.find? (BackendStore.loadEntries yaml disk.target) name with
        | some own => exact ⟨own, rfl, Or.inl rfl⟩
        | none => exact ⟨entry, rfl, Or.inr ⟨rfl, secret_entryFromEnv ok⟩⟩

end AiPowerGateway.Cli

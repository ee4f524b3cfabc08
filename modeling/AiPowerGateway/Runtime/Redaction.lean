import AiPowerGateway.Runtime.Config

/-!
# Redaction of secrets

A redacted configuration shows of a secret only whether it is set.  Redaction finds a
field by its whole key, so a secret under a dotted key stays readable.
-/

namespace AiPowerGateway.Runtime

open Json

/-- The dotted paths of the secrets. -/
def secretPaths (fields : List ConfigField) : List (List String) :=
  (fields.filter fun field => field.sensitivity = .secret).map ConfigField.path

/-- Both values are set. -/
def BothSet (old item : Json) : Prop := old ≠ .null ∧ item ≠ .null

/-- Redaction hides the secrets, and hides nothing else. -/
structure Redacts (fields : List ConfigField) : Prop where
  /-- What a secret is set to does not show. -/
  noninterfering : ∀ first second, EqualExcept (secretPaths fields) BothSet first second →
    redact fields first = redact fields second
  unchanged : ∀ value, EqualExcept (secretPaths fields) (fun _ _ => True) value
    (redact fields value)
  beside : ∀ value path, (∀ secret ∈ secretPaths fields, ¬ Comparable secret path) →
    (redact fields value).at? path = value.at? path

theorem mem_secretPaths {fields : List ConfigField} {path : List String} :
    path ∈ secretPaths fields ↔
      ∃ field ∈ fields, field.sensitivity = .secret ∧ field.path = path := by
  simp only [secretPaths, List.mem_map, List.mem_filter, decide_eq_true_eq, and_assoc]

theorem masked_of_ne_null {value : Json} (set : value ≠ .null) : masked value = .bool true := by
  cases value with
  | null => exact absurd rfl set
  | bool | num | str | arr | obj => rfl

theorem masked_masked (value : Json) : masked (masked value) = masked value := by
  cases value <;> rfl

/-! ## One field -/

section Field

variable {field : ConfigField} {out : Json}

theorem redactField_of_normal (normal : field.sensitivity ≠ .secret) (out : Json) :
    redactField out field = out := by
  cases mark : field.sensitivity with
  | normal => rw [redactField, mark]
  | secret => exact absurd mark normal

theorem redactField_of_none (absent : out.get? field.key = none) : redactField out field = out := by
  rw [redactField]
  cases field.sensitivity with
  | normal => rfl
  | secret => rw [absent]

theorem redactField_of_some (isSecret : field.sensitivity = .secret) {value : Json}
    (found : out.get? field.key = some value) :
    redactField out field = out.setField field.key (masked value) := by
  rw [redactField, isSecret, found]

/-- Redacting a field forgets what its value was, but for whether it was set. -/
theorem redactField_setField_self (isSecret : field.sensitivity = .secret) {old item : Json}
    (found : out.get? field.key = some old) (alike : masked item = masked old) :
    redactField (out.setField field.key item) field = redactField out field := by
  have written := get?_setField_self (isObject_of_get? found) field.key item
  rw [redactField_of_some isSecret written, redactField_of_some isSecret found,
    setField_setField_self, alike]

/-- Redacting another field does not touch the value. -/
theorem redactField_setField_ne {key : String} (differ : field.key ≠ key) {old : Json}
    (found : out.get? key = some old) (item : Json) :
    redactField (out.setField key item) field = (redactField out field).setField key item ∧
      (redactField out field).get? key = some old := by
  have same : (out.setField key item).get? field.key = out.get? field.key :=
    get?_setField_ne differ.symm out item
  cases mark : field.sensitivity with
  | normal =>
      rw [redactField, redactField, mark]
      exact ⟨rfl, found⟩
  | secret =>
      cases other : out.get? field.key with
      | none =>
          rw [redactField_of_none other, redactField_of_none (same.trans other)]
          exact ⟨rfl, found⟩
      | some value =>
          rw [redactField_of_some mark other, redactField_of_some mark (same.trans other),
            get?_setField_ne differ]
          exact ⟨setField_setField_comm differ other found _ _, found⟩

theorem get?_redactField (out : Json) (field : ConfigField) (key : String) :
    (redactField out field).get? key =
      if field.sensitivity = .secret ∧ field.key = key then (out.get? key).map masked
      else out.get? key := by
  by_cases isSecret : field.sensitivity = .secret
  · cases found : out.get? field.key with
    | none =>
        rw [redactField_of_none found]
        by_cases same : field.key = key
        · subst same
          rw [if_pos ⟨isSecret, rfl⟩, found]
          rfl
        · rw [if_neg (fun both => same both.2)]
    | some value =>
        rw [redactField_of_some isSecret found]
        by_cases same : field.key = key
        · subst same
          rw [if_pos ⟨isSecret, rfl⟩, get?_setField_self (isObject_of_get? found), found]
          rfl
        · rw [if_neg (fun both => same both.2), get?_setField_ne same]
  · rw [redactField_of_normal isSecret, if_neg (fun both => isSecret both.1)]

end Field

/-! ## All fields -/

/-- A field of the configuration is masked when a secret is declared under its key. -/
theorem get?_redact (fields : List ConfigField) (value : Json) (key : String) :
    (redact fields value).get? key =
      if ∃ field ∈ fields, field.sensitivity = .secret ∧ field.key = key then
        (value.get? key).map masked
      else value.get? key := by
  rw [redact]
  induction fields generalizing value with
  | nil => simp
  | cons field rest ih =>
      rw [List.foldl_cons, ih, get?_redactField]
      simp only [List.exists_mem_cons_iff]
      by_cases here : field.sensitivity = .secret ∧ field.key = key
      · rw [if_pos here, if_pos (Or.inl here)]
        split
        · rw [Option.map_map]
          congr 1
          funext found
          exact masked_masked found
        · rfl
      · simp only [if_neg here, or_iff_right here]

/-- What a secret was does not show after all fields are redacted. -/
theorem redact_setField {fields : List ConfigField} {key : String}
    (declared : ∃ field ∈ fields, field.sensitivity = .secret ∧ field.key = key)
    {value old item : Json} (found : value.get? key = some old)
    (alike : masked item = masked old) :
    redact fields (value.setField key item) = redact fields value := by
  rw [redact, redact]
  induction fields generalizing value with
  | nil =>
      obtain ⟨field, mem, -⟩ := declared
      exact absurd mem List.not_mem_nil
  | cons field rest ih =>
      rw [List.foldl_cons, List.foldl_cons]
      by_cases here : field.sensitivity = .secret ∧ field.key = key
      · obtain ⟨isSecret, rfl⟩ := here
        rw [redactField_setField_self isSecret found alike]
      · have later : ∃ field ∈ rest, field.sensitivity = .secret ∧ field.key = key := by
          obtain ⟨other, mem, isSecret⟩ := declared
          rcases List.mem_cons.mp mem with rfl | mem
          · exact absurd isSecret here
          · exact ⟨other, mem, isSecret⟩
        by_cases same : field.key = key
        · have normal : field.sensitivity ≠ .secret := fun isSecret => here ⟨isSecret, same⟩
          rw [redactField_of_normal normal, redactField_of_normal normal]
          exact ih later found
        · obtain ⟨apart, kept⟩ := redactField_setField_ne same found item
          rw [apart]
          exact ih later kept

/-! ## Keys without dots -/

/-- No secret is declared under a dotted key. -/
def PlainSecrets (fields : List ConfigField) : Prop :=
  ∀ field ∈ fields, field.sensitivity = .secret → '.' ∉ field.key.toList

section Plain

variable {fields : List ConfigField}

theorem PlainSecrets.exists_field (plain : PlainSecrets fields) {path : List String}
    (mem : path ∈ secretPaths fields) :
    ∃ field ∈ fields, field.sensitivity = .secret ∧ path = [field.key] := by
  obtain ⟨field, fieldMem, isSecret, rfl⟩ := mem_secretPaths.mp mem
  exact ⟨field, fieldMem, isSecret, segments_of_dot_not_mem (plain field fieldMem isSecret)⟩

theorem PlainSecrets.redact_replacedAt (plain : PlainSecrets fields) {first second : Json}
    (step : ReplacedAt (secretPaths fields) BothSet first second) :
    redact fields second = redact fields first := by
  obtain ⟨path, mem, old, item, found, ⟨oldSet, itemSet⟩, rfl⟩ := step
  obtain ⟨field, fieldMem, isSecret, rfl⟩ := plain.exists_field mem
  rw [at?_singleton] at found
  exact redact_setField ⟨field, fieldMem, isSecret, rfl⟩ found
    ((masked_of_ne_null itemSet).trans (masked_of_ne_null oldSet).symm)

theorem PlainSecrets.noninterfering (plain : PlainSecrets fields) {first second : Json}
    (equal : EqualExcept (secretPaths fields) BothSet first second) :
    redact fields first = redact fields second := by
  induction equal with
  | refl => rfl
  | tail _ step ih => rw [ih, plain.redact_replacedAt step]

/-- Redacting some of the fields replaces values at the paths of all of them. -/
theorem PlainSecrets.equalExcept_foldl (plain : PlainSecrets fields) {some : List ConfigField}
    (part : ∀ field ∈ some, field ∈ fields) (value : Json) :
    EqualExcept (secretPaths fields) (fun _ _ => True) value (some.foldl redactField value) := by
  induction some generalizing value with
  | nil => exact Relation.ReflTransGen.refl
  | cons field rest ih =>
      have later := ih (fun other mem => part other (List.mem_cons_of_mem _ mem))
        (redactField value field)
      rw [List.foldl_cons]
      by_cases isSecret : field.sensitivity = .secret
      · cases found : value.get? field.key with
        | none =>
            rw [redactField_of_none found] at later ⊢
            exact later
        | some old =>
            rw [redactField_of_some isSecret found] at later ⊢
            have mem := part field List.mem_cons_self
            have path : field.path = [field.key] :=
              segments_of_dot_not_mem (plain field mem isSecret)
            refine Relation.ReflTransGen.head
              ⟨[field.key], ?_, old, masked old, ?_, trivial, rfl⟩ later
            · exact mem_secretPaths.mpr ⟨field, mem, isSecret, path⟩
            · rw [at?_singleton, found]
      · rw [redactField_of_normal isSecret] at later ⊢
        exact later

end Plain

/-- Redaction reaches a field that is named by a dotted key, off every dotted path. -/
theorem plainSecrets_of_redacts {fields : List ConfigField} (redacts : Redacts fields) :
    PlainSecrets fields := by
  intro field mem isSecret dotted
  have beside : ∀ secret ∈ secretPaths fields, ¬ Comparable secret [field.key] := by
    intro secret secretMem
    obtain ⟨other, -, -, rfl⟩ := mem_secretPaths.mp secretMem
    exact not_comparable_of_dot dotted other.key
  have same := redacts.beside (.obj [(field.key, .bool false)]) [field.key] beside
  rw [at?_singleton, at?_singleton, get?_redact, if_pos ⟨field, mem, isSecret, rfl⟩] at same
  simp [masked] at same

/--
Redaction hides what secrets are set to, and nothing else, exactly when no secret is
declared under a dotted key.
-/
theorem redacts_iff (fields : List ConfigField) : Redacts fields ↔ PlainSecrets fields := by
  refine ⟨plainSecrets_of_redacts, fun plain => ?_⟩
  have unchanged (value : Json) : EqualExcept (secretPaths fields) (fun _ _ => True) value
      (redact fields value) := plain.equalExcept_foldl (fun _ mem => mem) value
  exact ⟨fun _ _ => plain.noninterfering, unchanged,
    fun value path beside => (unchanged value).at?_eq beside⟩

/-- A nested secret. -/
def nestedSecret : List ConfigField :=
  [{ key := "admin.password", default := .null, sensitivity := .secret }]

def adminPassword (password : String) : Json :=
  .obj [("admin", .obj [("password", .str password)])]

/-- The redacted configurations tell the passwords apart. -/
theorem nested_secret_shows :
    EqualExcept (secretPaths nestedSecret) BothSet (adminPassword "hunter2")
        (adminPassword "letmein") ∧
      redact nestedSecret (adminPassword "hunter2") = adminPassword "hunter2" ∧
      redact nestedSecret (adminPassword "letmein") = adminPassword "letmein" ∧
      ¬ Redacts nestedSecret := by
  have equal : EqualExcept (secretPaths nestedSecret) BothSet (adminPassword "hunter2")
      (adminPassword "letmein") := by
    refine Relation.ReflTransGen.single ⟨["admin", "password"], ?_, .str "hunter2",
      .str "letmein", rfl, ⟨Json.noConfusion, Json.noConfusion⟩, rfl⟩
    exact mem_secretPaths.mpr ⟨_, List.mem_singleton_self _, rfl, by decide⟩
  refine ⟨equal, rfl, rfl, fun redacts => ?_⟩
  have same : adminPassword "hunter2" = adminPassword "letmein" :=
    redacts.noninterfering _ _ equal
  simp [adminPassword] at same

end AiPowerGateway.Runtime

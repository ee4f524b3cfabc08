import AiPowerGateway.Punch.Socket
import AiPowerGateway.Systems.EventRuns

/-!
# The certificate of the leader

A leader makes a certificate and its key once, writes the one file and then the other, and
loads both whenever it starts again, so that its fingerprint stays what the members know.  A
process may end at any point of this.
-/

namespace AiPowerGateway.Punch

open Systems EventRuns

/-! ## Fingerprints -/

def hexDigit (value : Nat) : Char := "0123456789abcdef".toList.getD value '0'

/-- Two digits for each byte. -/
def hexText (bytes : Bytes) : String :=
  String.ofList (bytes.flatMap fun byte => [hexDigit (byte.toNat / 16), hexDigit (byte.toNat % 16)])

section Fingerprint

variable (sha256 : Bytes → Bytes)

def fingerprintOfDer (der : Bytes) : String := hexText (sha256 der)

/-- The check of a member's connection. -/
def verifyServerCert (expected : String) (endEntity : Bytes) : Bool :=
  fingerprintOfDer sha256 endEntity = expected

end Fingerprint

theorem hexDigit_inj : ∀ first < 16, ∀ second < 16,
    hexDigit first = hexDigit second → first = second := by
  decide

theorem hexText_injective : Function.Injective hexText := by
  intro first second same
  have digits := congrArg String.toList same
  simp only [hexText, String.toList_ofList] at digits
  clear same
  induction first generalizing second with
  | nil =>
      cases second with
      | nil => rfl
      | cons byte rest => simp at digits
  | cons byte rest ih =>
      cases second with
      | nil => simp at digits
      | cons other others =>
          simp only [List.flatMap_cons, List.cons_append, List.nil_append, List.cons.injEq]
            at digits
          obtain ⟨high, low, tails⟩ := digits
          have bound := byte.toNat_lt
          have otherBound := other.toNat_lt
          have highs := hexDigit_inj _ (by omega) _ (by omega) high
          have lows := hexDigit_inj _ (by omega) _ (by omega) low
          have bytes : byte = other := UInt8.toNat.inj (by omega)
          rw [bytes, ih tails]

/-! ## The two files -/

/-- A certificate and its key, neither of which is empty. -/
structure CertPair where
  der : Bytes
  keyDer : Bytes
  der_ne : der ≠ []
  keyDer_ne : keyDer ≠ []
  deriving DecidableEq, Repr

structure PunchCert where
  der : Bytes
  keyDer : Bytes
  fingerprint : String
  deriving DecidableEq, Repr

def PunchCert.ofPair (sha256 : Bytes → Bytes) (pair : CertPair) : PunchCert :=
  ⟨pair.der, pair.keyDer, fingerprintOfDer sha256 pair.der⟩

structure CertFiles where
  cert : Option Bytes := none
  key : Option Bytes := none
  deriving DecidableEq, Repr

/-- What is loaded: two files with some content. -/
def CertFiles.load? (files : CertFiles) : Option CertPair :=
  match files.cert, files.key with
  | some der, some key =>
      if filled : der ≠ [] ∧ key ≠ [] then some ⟨der, key, filled.1, filled.2⟩ else none
  | _, _ => none

/-- Where a process ends; a file that is being written has a front part of its content. -/
inductive Stage where
  | unwritten
  | inCert (length : Nat)
  | between
  | inKey (length : Nat)
  | completed
  deriving DecidableEq, Repr

/-- The files that the writing of a pair leaves. -/
def Stage.write (stage : Stage) (pair : CertPair) (files : CertFiles) : CertFiles :=
  match stage with
  | .unwritten => files
  | .inCert length => { files with cert := some (pair.der.take length) }
  | .between => { files with cert := some pair.der }
  | .inKey length => ⟨some pair.der, some (pair.keyDer.take length)⟩
  | .completed => ⟨some pair.der, some pair.keyDer⟩

/-- A start of the leader, with the pair that it would make. -/
structure CertStart where
  generated : Except String CertPair
  stage : Stage

/-- The source's `load_or_generate`; the answer is that of a process which gets so far. -/
def CertStart.loadOrGenerate (sha256 : Bytes → Bytes) (start : CertStart) (files : CertFiles) :
    Except String PunchCert × CertFiles :=
  match files.load? with
  | some pair => (.ok (.ofPair sha256 pair), files)
  | none =>
      match start.generated with
      | .error message => (.error message, files)
      | .ok pair => (.ok (.ofPair sha256 pair), start.stage.write pair files)

/-! ## Starts one after the other -/

/-- The files, and the pair that was made last. -/
structure CertWorld where
  files : CertFiles := {}
  made : Option CertPair := none

namespace CertWorld

/-- The pair that the start makes. -/
def makes? (start : CertStart) (world : CertWorld) : Option CertPair :=
  if world.files.load?.isSome then none else start.generated.toOption

def step (sha256 : Bytes → Bytes) (start : CertStart) (world : CertWorld) : CertWorld where
  files := (start.loadOrGenerate sha256 world.files).2
  made := (world.makes? start).or world.made

/-- Every start that answers does so with the pair that was made last. -/
def Answers (sha256 : Bytes → Bytes) (world : CertWorld) : Prop :=
  ∀ start cert, (start.loadOrGenerate sha256 world.files).1 = .ok cert →
    (world.step sha256 start).made.map (PunchCert.ofPair sha256) = some cert

/-- What can be loaded is what was made last. -/
def Sound (world : CertWorld) : Prop :=
  ∀ pair, world.files.load? = some pair → world.made = some pair

/-- A key is there only beside its certificate. -/
def KeyLast (world : CertWorld) : Prop :=
  ∀ key, world.files.key = some key → key ≠ [] → world.files.load?.isSome

end CertWorld

/-- The start makes a pair, and its process ends with a part of the key in the file. -/
def CertStart.Torn (start : CertStart) (world : CertWorld) : Prop :=
  ∃ pair length, world.makes? start = some pair ∧ start.stage = .inKey length ∧ 0 < length ∧
    length < pair.keyDer.length

section Files

variable {sha256 : Bytes → Bytes} {start : CertStart} {files : CertFiles} {world : CertWorld}
  {pair : CertPair}

theorem ofPair_injective : Function.Injective (PunchCert.ofPair sha256) := by
  rintro ⟨der, key, _, _⟩ ⟨otherDer, otherKey, _, _⟩ same
  simp only [PunchCert.ofPair, PunchCert.mk.injEq] at same
  obtain ⟨rfl, rfl, -⟩ := same
  rfl

theorem load?_eq_some : files.load? = some pair ↔
    files.cert = some pair.der ∧ files.key = some pair.keyDer := by
  obtain ⟨cert, key⟩ := files
  cases cert with
  | none => simp [CertFiles.load?]
  | some der =>
      cases key with
      | none => simp [CertFiles.load?]
      | some key =>
          simp only [CertFiles.load?, Option.some.injEq]
          constructor
          · intro loaded
            split at loaded
            · cases loaded
              exact ⟨rfl, rfl⟩
            · cases loaded
          · rintro ⟨rfl, rfl⟩
            rw [dif_pos ⟨pair.der_ne, pair.keyDer_ne⟩]

theorem loadOrGenerate_of_load? (loaded : files.load? = some pair) :
    start.loadOrGenerate sha256 files = (.ok (.ofPair sha256 pair), files) := by
  rw [CertStart.loadOrGenerate, loaded]

/-- A start over files that can be loaded changes nothing. -/
theorem step_of_load? (loaded : world.files.load? = some pair) :
    world.step sha256 start = world := by
  obtain ⟨files, made⟩ := world
  rw [CertWorld.step, loadOrGenerate_of_load? loaded, CertWorld.makes?, loaded]
  rfl

theorem final_of_load? (loaded : world.files.load? = some pair) (starts : List CertStart) :
    final (CertWorld.step sha256) starts world = world := by
  induction starts with
  | nil => rfl
  | cons start starts ih => rw [final_cons, step_of_load? loaded, ih]

theorem step_of_error (missing : world.files.load? = none) {message : String}
    (failed : start.generated = .error message) : world.step sha256 start = world := by
  obtain ⟨files, made⟩ := world
  rw [CertWorld.step, CertStart.loadOrGenerate, CertWorld.makes?, missing, failed]
  rfl

theorem step_of_made (missing : world.files.load? = none) (made : start.generated = .ok pair) :
    world.step sha256 start = ⟨start.stage.write pair world.files, some pair⟩ := by
  rw [CertWorld.step, CertStart.loadOrGenerate, CertWorld.makes?, missing, made]
  rfl

theorem answers_iff_sound : world.Answers sha256 ↔ world.Sound := by
  constructor
  · intro answers pair loaded
    have made := answers ⟨.error "", .unwritten⟩ _
      (congrArg Prod.fst (loadOrGenerate_of_load? loaded))
    rw [step_of_load? loaded, Option.map_eq_some_iff] at made
    obtain ⟨other, isMade, same⟩ := made
    rw [isMade, ofPair_injective same]
  · intro sound start cert answered
    cases loaded : world.files.load? with
    | some pair =>
        rw [loadOrGenerate_of_load? loaded] at answered
        rw [step_of_load? loaded, sound pair loaded, ← Except.ok.inj answered]
        rfl
    | none =>
        rw [CertStart.loadOrGenerate, loaded] at answered
        cases made : start.generated with
        | error message =>
            rw [made] at answered
            cases answered
        | ok pair =>
            rw [made] at answered
            rw [step_of_made loaded made]
            exact congrArg some (Except.ok.inj answered)

/-- As long as there is no key, nothing can be loaded. -/
theorem load?_write_of_no_key (keyless : ∀ key, files.key = some key → key = [])
    {stage : Stage} (same : (stage.write pair files).key = files.key) :
    (stage.write pair files).load? = none := by
  cases loaded : (stage.write pair files).load? with
  | none => rfl
  | some other =>
      have key := (load?_eq_some.mp loaded).2
      rw [same] at key
      exact absurd (keyless _ key) other.keyDer_ne

theorem load?_write_completed (pair : CertPair) (files : CertFiles) :
    (Stage.completed.write pair files).load? = some pair :=
  load?_eq_some.mpr ⟨rfl, rfl⟩

theorem load?_write_inKey {length : Nat} {loaded : CertPair} :
    ((Stage.inKey length).write pair files).load? = some loaded ↔
      loaded.der = pair.der ∧ loaded.keyDer = pair.keyDer.take length := by
  rw [load?_eq_some]
  simp [Stage.write, eq_comm]

theorem keyless_of_keyLast (keyLast : world.KeyLast) (missing : world.files.load? = none) :
    ∀ key, world.files.key = some key → key = [] := by
  intro key isKey
  by_contra filled
  have loads := keyLast key isKey filled
  rw [missing] at loads
  cases loads

theorem keyLast_step (keyLast : world.KeyLast) : (world.step sha256 start).KeyLast := by
  cases loaded : world.files.load? with
  | some pair =>
      rw [step_of_load? loaded]
      exact keyLast
  | none =>
      cases made : start.generated with
      | error message =>
          rw [step_of_error loaded made]
          exact keyLast
      | ok pair =>
          rw [step_of_made loaded made]
          intro key isKey filled
          generalize start.stage = stage at isKey
          cases stage with
          | unwritten => exact keyLast key isKey filled
          | inCert length => exact absurd (keyless_of_keyLast keyLast loaded key isKey) filled
          | between => exact absurd (keyless_of_keyLast keyLast loaded key isKey) filled
          | inKey length =>
              have loads : ((Stage.inKey length).write pair world.files).load? =
                  some ⟨pair.der, key, pair.der_ne, filled⟩ :=
                load?_eq_some.mpr ⟨rfl, isKey⟩
              exact Option.isSome_of_eq_some loads
          | completed => exact Option.isSome_of_eq_some (load?_write_completed pair world.files)

/-- The pair made last is what is loaded, unless the start tears the key. -/
theorem sound_step_iff (sound : world.Sound) (keyLast : world.KeyLast) :
    (world.step sha256 start).Sound ↔ ¬ start.Torn world := by
  cases loaded : world.files.load? with
  | some pair =>
      rw [step_of_load? loaded]
      refine iff_of_true sound ?_
      rintro ⟨other, length, made, -⟩
      simp [CertWorld.makes?, loaded] at made
  | none =>
      cases generated : start.generated with
      | error message =>
          rw [step_of_error loaded generated]
          refine iff_of_true sound ?_
          rintro ⟨other, length, made, -⟩
          simp [CertWorld.makes?, loaded, generated, Except.toOption] at made
      | ok pair =>
          have makes : world.makes? start = some pair := by
            simp [CertWorld.makes?, loaded, generated, Except.toOption]
          have keyless := keyless_of_keyLast keyLast loaded
          rw [step_of_made loaded generated]
          cases stage : start.stage with
          | inKey length =>
              constructor
              · rintro sound ⟨other, cut, made, torn, positive, short⟩
                obtain rfl : pair = other := Option.some.inj (makes.symm.trans made)
                obtain rfl : length = cut := Stage.inKey.inj (stage.symm.trans torn)
                have partly : (pair.keyDer.take length).length = length := by
                  rw [List.length_take, Nat.min_eq_left (Nat.le_of_lt short)]
                have part : pair.keyDer.take length ≠ [] := List.ne_nil_of_length_pos (by omega)
                have loads : ((Stage.inKey length).write pair world.files).load? =
                    some ⟨pair.der, pair.keyDer.take length, pair.der_ne, part⟩ :=
                  load?_write_inKey.mpr ⟨rfl, rfl⟩
                have same := Option.some.inj (sound _ loads)
                have whole := congrArg (List.length ∘ CertPair.keyDer) same
                simp only [Function.comp_apply] at whole
                omega
              · intro whole other isLoaded
                simp only at isLoaded
                obtain ⟨der, key⟩ := load?_write_inKey.mp isLoaded
                have positive : 0 < length := by
                  by_contra none
                  have nothing := other.keyDer_ne
                  rw [key, Nat.eq_zero_of_not_pos none] at nothing
                  exact nothing rfl
                have long : pair.keyDer.length ≤ length := by
                  by_contra short
                  exact whole ⟨pair, length, makes, stage, positive, Nat.lt_of_not_le short⟩
                rw [List.take_of_length_le long] at key
                obtain ⟨otherDer, otherKey, _, _⟩ := other
                obtain ⟨pairDer, pairKey, _, _⟩ := pair
                obtain rfl : otherDer = pairDer := der
                obtain rfl : otherKey = pairKey := key
                rfl
          | completed =>
              refine iff_of_true (fun other isLoaded => ?_) ?_
              · exact (load?_write_completed pair world.files).symm.trans isLoaded
              · rintro ⟨_, _, -, torn, -⟩
                rw [stage] at torn
                cases torn
          | _ =>
              refine iff_of_true (fun other isLoaded => ?_) ?_
              · simp only at isLoaded
                rw [load?_write_of_no_key keyless] at isLoaded
                · cases isLoaded
                · rfl
              · rintro ⟨_, _, -, torn, -⟩
                rw [stage] at torn
                cases torn

end Files

/-! ## Every run -/

theorem verifyServerCert_ofPair_iff (sha256 : Bytes → Bytes) (pair : CertPair) (der : Bytes) :
    verifyServerCert sha256 (PunchCert.ofPair sha256 pair).fingerprint der = true ↔
      sha256 der = sha256 pair.der := by
  rw [verifyServerCert, decide_eq_true_eq]
  exact hexText_injective.eq_iff

/--
From a directory without the files, and wherever the processes end: every start that answers
does so with the certificate and the key that were made together last, exactly when no process
ends with a part of the key in the file.  Once both can be loaded, all later starts answer with
them, and a member who pins their fingerprint accepts a certificate exactly when it has the
same hash.
-/
theorem punch_identity_lasts_iff (sha256 : Bytes → Bytes) (starts : List CertStart) :
    (Throughout (CertWorld.step sha256) (CertWorld.Answers sha256) starts {} ↔
      Fitting (CertWorld.step sha256) (fun start world => ¬ start.Torn world) starts {}) ∧
    ∀ pair, (final (CertWorld.step sha256) starts {}).files.load? = some pair →
      ∀ (later : List CertStart) (start : CertStart),
        (start.loadOrGenerate sha256 (final (CertWorld.step sha256) (starts ++ later) {}).files).1 =
            .ok (.ofPair sha256 pair) ∧
          ∀ der, verifyServerCert sha256 (PunchCert.ofPair sha256 pair).fingerprint der = true ↔
            sha256 der = sha256 pair.der := by
  constructor
  · have sound : CertWorld.Sound {} := fun _ loaded => by cases loaded
    have keyLast : CertWorld.KeyLast {} := fun _ isKey => by cases isKey
    have answers : CertWorld.Answers sha256 = CertWorld.Sound :=
      funext fun _ => propext answers_iff_sound
    rw [answers]
    exact throughout_iff_fitting_of CertWorld.KeyLast (fun _ _ => keyLast_step)
      (fun _ _ sound keyLast => sound_step_iff sound keyLast) sound keyLast starts
  · intro pair loaded later start
    rw [final_append, final_of_load? loaded, loadOrGenerate_of_load? loaded]
    exact ⟨rfl, verifyServerCert_ofPair_iff sha256 pair⟩

end AiPowerGateway.Punch

import AiPowerGateway.Collections.Accumulators
import AiPowerGateway.Collections.HashMap
import AiPowerGateway.Config.Vault
import AiPowerGateway.Systems.EventRuns
import Mathlib.Logic.Function.Basic

/-!
# The configuration store

One table for each role, in which a key has a value and a mark whether the value is secret.
A secret is stored as the vault encrypts it, and is listed only as set or unset.  What a
store is meant to be is a table of plain settings for each role.
-/

namespace AiPowerGateway.Config

inductive RoleView where
  | global
  | server
  | client
  deriving DecidableEq, Repr

/-- A row, under its key; the mark of a secret is `1`. -/
structure Row where
  value : String
  secret : Int
  deriving DecidableEq, Repr

/-- The tables by their names. -/
abbrev Database := String → HashMap Row

structure ConfigEntry where
  key : String
  value : String
  role : String
  secret : Bool
  deriving DecidableEq, Repr

namespace ConfigService

def tableFor : RoleView → String
  | .global => "settings"
  | .server => "server_config"
  | .client => "client_config"

theorem tableFor_inj {first second : RoleView} :
    tableFor first = tableFor second ↔ first = second := by
  cases first <;> cases second <;> decide

variable (crates : VaultCrates) (vault : Vault)

/-- The source's `set`, with the nonce that the random generator draws for a secret. -/
def set (nonce : Nonce) (role : RoleView) (key value : String) (secret : Bool) (db : Database) :
    Database :=
  let stored := if secret then vault.encrypt crates nonce value else value
  Function.update db (tableFor role)
    ((db (tableFor role)).insert key ⟨stored, if secret then 1 else 0⟩)

/-- The source's `get`; a stored secret can make the vault panic. -/
def get (role : RoleView) (key : String) (db : Database) : Decryption :=
  match (db (tableFor role)).lookup key with
  | none => .returned none
  | some row =>
      if row.secret = 1 then
        match vault.decrypt crates row.value with
        | .panicked => .panicked
        | .returned plain => .returned (some (plain.getD ""))
      else .returned (some row.value)

/-- A row as it is listed; none when the vault panics. -/
def listed (role : RoleView) (key : String) (row : Row) : Option ConfigEntry :=
  if row.secret = 1 then
    match vault.decrypt crates row.value with
    | .panicked => none
    | .returned plain =>
        let isSet := (plain.map fun value => decide (value ≠ "")).getD false
        some ⟨key, if isSet then "[set]" else "[unset]", tableFor role, true⟩
  else some ⟨key, row.value, tableFor role, false⟩

variable {crates} {vault} in
theorem key_of_listed {role : RoleView} {key : String} {row : Row} {entry : ConfigEntry}
    (isListed : listed crates vault role key row = some entry) : entry.key = key := by
  rw [listed] at isListed
  split at isListed
  · split at isListed
    · cases isListed
    · cases isListed
      rfl
  · cases isListed
    rfl

def list (role : RoleView) (db : Database) : Option (List ConfigEntry) :=
  (db (tableFor role)).entries.mapM fun entry => listed crates vault role entry.1 entry.2

def delete (role : RoleView) (key : String) (db : Database) : Database :=
  Function.update db (tableFor role) ((db (tableFor role)).erase key)

def setNodeIdentity (nonces : Nonce × Nonce) (machineName displayName : String)
    (db : Database) : Database :=
  set crates vault nonces.2 .global "display_name" displayName false
    (set crates vault nonces.1 .global "machine_name" machineName false db)

end ConfigService

/-! ## The settings that are meant -/

structure Setting where
  value : String
  secret : Bool
  deriving DecidableEq, Repr

abbrev Settings := RoleView → String → Option Setting

namespace Setting

variable (crates : VaultCrates)

/-- The cipher seals texts of this length. -/
def Fits (value : String) : Prop := (Text.utf8 value).length ≤ crates.aesGcm.maxLen

instance (value : String) : Decidable (Fits crates value) :=
  inferInstanceAs (Decidable (_ ≤ _))

/-- What is read back: nothing of a secret that was too long for the cipher. -/
def readable (setting : Setting) : String :=
  if setting.secret = true ∧ ¬ Fits crates setting.value then "" else setting.value

/-- What is listed. -/
def shown (setting : Setting) : String :=
  if setting.secret then if setting.readable crates = "" then "[unset]" else "[set]"
  else setting.value

/-- The row is what the vault makes of the setting. -/
structure StoredAs (vault : Vault) (setting : Setting) (row : Row) : Prop where
  secret : row.secret = if setting.secret then 1 else 0
  value : if setting.secret then ∃ nonce, row.value = vault.encrypt crates nonce setting.value
    else row.value = setting.value

end Setting

namespace Settings

def unset : Settings := fun _ _ => none

/-- What is stored under a key of a role, or that nothing is. -/
def put (role : RoleView) (key : String) (setting : Option Setting) (settings : Settings) :
    Settings :=
  Function.update settings role (Function.update (settings role) key setting)

variable {settings : Settings} {role other : RoleView} {key name : String}
  {setting : Option Setting}

theorem put_self : settings.put role key setting role key = setting := by
  rw [put, Function.update_self, Function.update_self]

theorem put_of_ne (differ : ¬ (other = role ∧ name = key)) :
    settings.put role key setting other name = settings other name := by
  by_cases same : other = role
  · subst same
    rw [put, Function.update_self, Function.update_of_ne fun same => differ ⟨rfl, same⟩]
  · rw [put, Function.update_of_ne same]

end Settings

/-! ## The store keeps the settings -/

section Keeps

variable (crates : VaultCrates) (vault : Vault)

/-- The row of a key, if there is one, is what the vault makes of the setting. -/
def Holds (row : Option Row) (setting : Option Setting) : Prop :=
  Option.Rel (fun row setting => Setting.StoredAs crates vault setting row) row setting

/-- Every table holds the settings of its role, and no others. -/
def Keeps (db : Database) (settings : Settings) : Prop :=
  ∀ role key,
    Holds crates vault ((db (ConfigService.tableFor role)).lookup key) (settings role key)

variable {crates} {vault} {db : Database} {settings : Settings}

theorem keeps_unset : Keeps crates vault (fun _ => ∅) .unset := fun _ _ => .none

/-- A table that changes at one key. -/
theorem Keeps.put (keeps : Keeps crates vault db settings) {role : RoleView} {key : String}
    {table : HashMap Row} {setting : Option Setting}
    (holds : Holds crates vault (table.lookup key) setting)
    (others : ∀ name, name ≠ key →
      table.lookup name = (db (ConfigService.tableFor role)).lookup name) :
    Keeps crates vault (Function.update db (ConfigService.tableFor role) table)
      (settings.put role key setting) := by
  intro other name
  by_cases sameRole : other = role
  · subst sameRole
    rw [Function.update_self]
    by_cases sameKey : name = key
    · subst sameKey
      rw [Settings.put_self]
      exact holds
    · rw [Settings.put_of_ne fun both => sameKey both.2, others name sameKey]
      exact keeps other name
  · rw [Settings.put_of_ne fun both => sameRole both.1,
      Function.update_of_ne fun same => sameRole (ConfigService.tableFor_inj.mp same)]
    exact keeps other name

theorem Keeps.set (keeps : Keeps crates vault db settings) (nonce : Nonce) (role : RoleView)
    (key value : String) (secret : Bool) :
    Keeps crates vault (ConfigService.set crates vault nonce role key value secret db)
      (settings.put role key (some ⟨value, secret⟩)) := by
  refine keeps.put ?_ fun name differ => AList.lookup_insert_ne differ
  rw [AList.lookup_insert]
  refine .some ⟨rfl, ?_⟩
  cases secret with
  | false => rfl
  | true => exact ⟨nonce, rfl⟩

theorem Keeps.delete (keeps : Keeps crates vault db settings) (role : RoleView) (key : String) :
    Keeps crates vault (ConfigService.delete role key db) (settings.put role key none) := by
  refine keeps.put ?_ fun name differ => AList.lookup_erase_ne differ
  rw [AList.lookup_erase]
  exact .none

/-! ## Reading -/

/-- A sealed secret decrypts to itself, and an unsealed one to nothing. -/
theorem decrypt_encrypt (nonce : Nonce) (value : String) :
    vault.decrypt crates (vault.encrypt crates nonce value) =
      .returned (if Setting.Fits crates value then some value else none) := by
  by_cases fits : Setting.Fits crates value
  · rw [if_pos fits]
    exact Vault.decrypt_encrypt_iff.mpr fits
  · rw [if_neg fits, Vault.decrypt_of_parts Vault.decodeParts_encrypt]
    have unsealed : crates.aesGcm.seal? vault.key nonce (Text.utf8 value) = none := by
      rw [← Option.not_isSome_iff_eq_none, crates.aesGcm.isSome_seal?]
      exact fits
    rw [unsealed, Option.getD_none, crates.aesGcm.open?_of_short (by decide)]
    rfl

/-- What the program makes of a row that keeps a setting. -/
theorem Setting.StoredAs.decrypted {setting : Setting} {row : Row}
    (stored : setting.StoredAs crates vault row) (secret : setting.secret = true) :
    row.secret = 1 ∧ vault.decrypt crates row.value =
      .returned (if Fits crates setting.value then some setting.value else none) := by
  obtain ⟨marked, holds⟩ := stored
  rw [if_pos secret] at marked holds
  obtain ⟨nonce, encrypted⟩ := holds
  exact ⟨marked, encrypted ▸ decrypt_encrypt nonce setting.value⟩

theorem Setting.StoredAs.plain {setting : Setting} {row : Row}
    (stored : setting.StoredAs crates vault row) (plain : setting.secret = false) :
    row.secret ≠ 1 ∧ row.value = setting.value := by
  obtain ⟨marked, holds⟩ := stored
  rw [plain] at marked holds
  exact ⟨by simp [marked], holds⟩

/-- What is read is the setting; reading does not panic. -/
theorem Keeps.get_eq (keeps : Keeps crates vault db settings) (role : RoleView) (key : String) :
    ConfigService.get crates vault role key db =
      .returned ((settings role key).map (Setting.readable crates)) := by
  have holds := keeps role key
  rw [ConfigService.get]
  generalize (db (ConfigService.tableFor role)).lookup key = found at holds
  generalize settings role key = stored at holds
  cases holds with
  | none => rfl
  | @some row setting stored =>
      cases secret : setting.secret with
      | false =>
          obtain ⟨unmarked, value⟩ := stored.plain secret
          simp [unmarked, value, Setting.readable, secret]
      | true =>
          obtain ⟨marked, decrypted⟩ := stored.decrypted secret
          by_cases fits : Setting.Fits crates setting.value <;>
            simp [marked, decrypted, Setting.readable, secret, fits]

/-- The entry that a setting is listed as. -/
def Setting.entry (crates : VaultCrates) (role : RoleView) (key : String) (setting : Setting) :
    ConfigEntry :=
  ⟨key, setting.shown crates, ConfigService.tableFor role, setting.secret⟩

theorem Setting.StoredAs.listed {setting : Setting} {row : Row}
    (stored : setting.StoredAs crates vault row) (role : RoleView) (key : String) :
    ConfigService.listed crates vault role key row = some (setting.entry crates role key) := by
  rw [ConfigService.listed]
  cases secret : setting.secret with
  | false =>
      obtain ⟨unmarked, value⟩ := stored.plain secret
      simp [unmarked, value, shown, entry, secret]
  | true =>
      obtain ⟨marked, decrypted⟩ := stored.decrypted secret
      rw [if_pos marked, decrypted]
      by_cases fits : Fits crates setting.value
      · by_cases empty : setting.value = ""
        · rw [if_pos fits]
          simp [entry, shown, readable, secret, empty]
        · simp [entry, shown, readable, secret, fits, empty]
      · simp [entry, shown, readable, secret, fits]

/-- Every setting of the role is listed, and nothing else is; listing does not panic. -/
theorem Keeps.list_eq (keeps : Keeps crates vault db settings) (role : RoleView) :
    ∃ entries, ConfigService.list crates vault role db = some entries ∧
      (entries.map ConfigEntry.key).Nodup ∧
      ∀ entry, entry ∈ entries ↔
        ∃ key setting, settings role key = some setting ∧
          setting.entry crates role key = entry := by
  set table := db (ConfigService.tableFor role) with ofRole
  have holds : ∀ item ∈ table.entries, ∃ setting, settings role item.1 = some setting ∧
      ConfigService.listed crates vault role item.1 item.2 =
        some (setting.entry crates role item.1) := by
    intro item mem
    have kept := keeps role item.1
    rw [← ofRole, AList.mem_lookup_iff.mpr mem] at kept
    generalize settings role item.1 = stored at kept
    cases kept with
    | some stored => exact ⟨_, rfl, stored.listed role item.1⟩
  refine ⟨_, Accumulators.mapM_of_isSome fun item mem => ?_, ?_, fun entry => ?_⟩
  · obtain ⟨setting, -, listed⟩ := holds item mem
    rw [listed]
    rfl
  · rw [List.Nodup, List.pairwise_map, List.pairwise_filterMap]
    refine (List.nodupKeys_iff_pairwise.mp table.nodupKeys).imp ?_
    intro first second differ entry isFirst other isSecond
    rw [ConfigService.key_of_listed isFirst, ConfigService.key_of_listed isSecond]
    exact differ
  · rw [List.mem_filterMap]
    constructor
    · rintro ⟨item, mem, listed⟩
      obtain ⟨setting, stored, same⟩ := holds item mem
      exact ⟨item.1, setting, stored, Option.some.inj (same.symm.trans listed)⟩
    · rintro ⟨key, setting, stored, rfl⟩
      have kept := keeps role key
      rw [← ofRole, stored] at kept
      cases found : table.lookup key with
      | none =>
          rw [found] at kept
          cases kept
      | some row =>
          have mem := AList.mem_lookup_iff.mp found
          obtain ⟨other, same, listed⟩ := holds _ mem
          rw [stored] at same
          cases same
          exact ⟨_, mem, listed⟩

end Keeps

end AiPowerGateway.Config

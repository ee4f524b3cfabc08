import AiPowerGateway.Config.Store

/-!
# Services over one data directory

Every process that needs the configuration opens a service of its own.  It takes the key of
its vault from the key file, or draws one and writes the file when there is none.  As long
as every key that was drawn is written whole, and is read where there is one, all services
have the same key, and what one of them sets is what each of them reads.
-/

namespace AiPowerGateway.Config

/-- What opening a vault meets: the key that the random generator draws, whether a key file
can be read, and what the attempt to write one leaves. -/
structure Opening where
  drawn : Key
  readable : Bool := true
  left : Option Bytes := some drawn.val

/-- The source's `Vault::new`: the vault, and the key file behind it. -/
def Vault.new (opening : Opening) : Option Bytes → Vault × Option Bytes
  | some keyFile =>
      (Vault.ofKeyFile (if opening.readable then keyFile else []), some keyFile)
  | none => (Vault.ofKeyFile opening.drawn.val, opening.left)

/-- The data directory, and the vaults of the services that are open over it. -/
structure Machine where
  keyFile : Option Bytes := none
  db : Database := fun _ => ∅
  vaults : Nat → Option Vault := fun _ => none

inductive ServiceEvent where
  | opened (service : Nat) (opening : Opening)
  | set (service : Nat) (nonce : Nonce) (role : RoleView) (key value : String) (secret : Bool)
  | delete (service : Nat) (role : RoleView) (key : String)
  | setNodeIdentity (service : Nat) (nonces : Nonce × Nonce) (machineName displayName : String)

namespace Machine

variable (crates : VaultCrates)

def step : ServiceEvent → Machine → Machine
  | .opened service opening, machine =>
      let (vault, keyFile) := Vault.new opening machine.keyFile
      { machine with
        keyFile := keyFile
        vaults := Function.update machine.vaults service (some vault) }
  | .set service nonce role key value secret, machine =>
      match machine.vaults service with
      | none => machine
      | some vault =>
          { machine with
            db := ConfigService.set crates vault nonce role key value secret machine.db }
  | .delete service role key, machine =>
      match machine.vaults service with
      | none => machine
      | some _ => { machine with db := ConfigService.delete role key machine.db }
  | .setNodeIdentity service nonces machineName displayName, machine =>
      match machine.vaults service with
      | none => machine
      | some vault =>
          { machine with
            db := ConfigService.setNodeIdentity crates vault nonces machineName displayName
              machine.db }

def after (events : List ServiceEvent) (machine : Machine) : Machine :=
  Systems.EventRuns.final (step crates) events machine

end Machine

/-- A drawn key is written whole, a key file is read, and who acts is open. -/
def ServiceEvent.Sound : ServiceEvent → Machine → Prop
  | .opened _ opening, machine =>
      match machine.keyFile with
      | none => opening.left = some opening.drawn.val
      | some _ => opening.readable = true
  | .set service .., machine => (machine.vaults service).isSome
  | .delete service .., machine => (machine.vaults service).isSome
  | .setNodeIdentity service .., machine => (machine.vaults service).isSome

/-- The settings that an event means. -/
def Settings.step : ServiceEvent → Settings → Settings
  | .opened .., settings => settings
  | .set _ _ role key value secret, settings => settings.put role key (some ⟨value, secret⟩)
  | .delete _ role key, settings => settings.put role key none
  | .setNodeIdentity _ _ machineName displayName, settings =>
      (settings.put .global "machine_name" (some ⟨machineName, false⟩)).put .global
        "display_name" (some ⟨displayName, false⟩)

def Settings.after (events : List ServiceEvent) (settings : Settings) : Settings :=
  Systems.EventRuns.final Settings.step events settings

/-! ## One key for all -/

section Shares

variable (crates : VaultCrates)

/-- The key file holds the key of every vault, or nothing has happened yet. -/
def Machine.Shares (machine : Machine) (settings : Settings) : Prop :=
  (∃ vault : Vault, machine.keyFile = some vault.key.val ∧
      (∀ service other, machine.vaults service = some other → other = vault) ∧
      Keeps crates vault machine.db settings) ∨
    machine.keyFile = none ∧ (∀ service, machine.vaults service = none) ∧
      ∀ vault, Keeps crates vault machine.db settings

variable {crates} {machine : Machine} {settings : Settings}

theorem Machine.shares_new : Machine.Shares crates {} .unset :=
  .inr ⟨rfl, fun _ => rfl, fun _ => keeps_unset⟩

/-- An opened service is the only change to the vaults. -/
theorem vaults_update {vaults : Nat → Option Vault} {vault : Vault}
    (all : ∀ service other, vaults service = some other → other = vault) (opened : Nat) :
    ∀ service other, Function.update vaults opened (some vault) service = some other →
      other = vault := by
  intro service other isOpen
  by_cases same : service = opened
  · subst same
    rw [Function.update_self] at isOpen
    exact (Option.some.inj isOpen).symm
  · rw [Function.update_of_ne same] at isOpen
    exact all service other isOpen

theorem Machine.Shares.step (shares : machine.Shares crates settings) {event : ServiceEvent}
    (sound : event.Sound machine) :
    (Machine.step crates event machine).Shares crates (Settings.step event settings) := by
  cases event with
  | opened service opening =>
      obtain ⟨vault, file, all, keeps⟩ | ⟨file, closed, keeps⟩ := shares
      · have readable : opening.readable = true := by
          rw [ServiceEvent.Sound, file] at sound
          exact sound
        refine .inl ⟨vault, ?_, ?_, keeps⟩
        · simp [Machine.step, Vault.new, file]
        · have same : (Vault.new opening machine.keyFile).1 = vault := by
            rw [file, Vault.new, if_pos readable, Vault.ofKeyFile_key]
          rw [Machine.step, ← same]
          exact vaults_update (same ▸ all) service
      · have written : opening.left = some opening.drawn.val := by
          rw [ServiceEvent.Sound, file] at sound
          exact sound
        have same : (Vault.new opening machine.keyFile).1 = ⟨opening.drawn⟩ := by
          rw [file, Vault.new]
          exact Vault.ofKeyFile_key ⟨opening.drawn⟩
        refine .inl ⟨⟨opening.drawn⟩, ?_, ?_, keeps _⟩
        · simp [Machine.step, Vault.new, file, written]
        · rw [Machine.step, ← same]
          refine vaults_update (fun other vault isOpen => ?_) service
          rw [closed other] at isOpen
          cases isOpen
  | set service nonce role key value secret =>
      obtain ⟨actor, isOpen⟩ := Option.isSome_iff_exists.mp sound
      obtain ⟨vault, file, all, keeps⟩ | ⟨-, closed, -⟩ := shares
      · obtain rfl := all service actor isOpen
        rw [Machine.step, isOpen]
        exact .inl ⟨actor, file, all, keeps.set nonce role key value secret⟩
      · rw [closed service] at isOpen
        cases isOpen
  | delete service role key =>
      obtain ⟨actor, isOpen⟩ := Option.isSome_iff_exists.mp sound
      obtain ⟨vault, file, all, keeps⟩ | ⟨-, closed, -⟩ := shares
      · rw [Machine.step, isOpen]
        exact .inl ⟨vault, file, all, keeps.delete role key⟩
      · rw [closed service] at isOpen
        cases isOpen
  | setNodeIdentity service nonces machineName displayName =>
      obtain ⟨actor, isOpen⟩ := Option.isSome_iff_exists.mp sound
      obtain ⟨vault, file, all, keeps⟩ | ⟨-, closed, -⟩ := shares
      · obtain rfl := all service actor isOpen
        rw [Machine.step, isOpen]
        exact .inl ⟨actor, file, all, (keeps.set _ _ _ _ _).set _ _ _ _ _⟩
      · rw [closed service] at isOpen
        cases isOpen

theorem Machine.Shares.after (shares : machine.Shares crates settings)
    {events : List ServiceEvent}
    (sound : Systems.EventRuns.Fitting (Machine.step crates) ServiceEvent.Sound events machine) :
    (machine.after crates events).Shares crates (settings.after events) := by
  induction events generalizing machine settings with
  | nil => exact shares
  | cons event events ih => exact ih (shares.step sound.1) sound.2

/-- The database keeps the settings under the key of whoever is open. -/
theorem Machine.Shares.keeps (shares : machine.Shares crates settings) {service : Nat}
    {vault : Vault} (isOpen : machine.vaults service = some vault) :
    Keeps crates vault machine.db settings := by
  obtain ⟨shared, -, all, keeps⟩ | ⟨-, closed, -⟩ := shares
  · exact all service vault isOpen ▸ keeps
  · rw [closed service] at isOpen
    cases isOpen

end Shares

/-! ## What services read and list -/

section Runs

variable {crates : VaultCrates} {events : List ServiceEvent} {service : Nat} {vault : Vault}

/--
After any run over a fresh directory, whichever service reads a key gets the value that was
set last by any of them, unless it was deleted since; and no reading panics.  A secret longer than
what the cipher seals is the exception, and reads back empty.
-/
theorem get_after
    (sound : Systems.EventRuns.Fitting (Machine.step crates) ServiceEvent.Sound events {})
    (isOpen : (Machine.after crates events {}).vaults service = some vault) (role : RoleView)
    (key : String) :
    ConfigService.get crates vault role key (Machine.after crates events {}).db =
      .returned ((Settings.after events .unset role key).map (Setting.readable crates)) :=
  ((Machine.shares_new.after sound).keeps isOpen).get_eq role key

end Runs

def sampleKey : Key := ⟨List.replicate keyLen 0, by decide⟩

def sampleNonce : Nonce := ⟨List.replicate nonceLen 0, by decide⟩

/-- One process sets a secret, and another one opens the directory after it. -/
def sampleEvents (secret : String) : List ServiceEvent :=
  [.opened 0 { drawn := sampleKey },
    .set 0 sampleNonce .server "password" secret true,
    .opened 1 { drawn := sampleKey }]

theorem sound_sampleEvents (secret : String) :
    Systems.EventRuns.Fitting (Machine.step Vault.sampleCrates) ServiceEvent.Sound
      (sampleEvents secret) {} :=
  ⟨rfl, rfl, rfl, trivial⟩

theorem vaults_sampleEvents (secret : String) :
    (Machine.after Vault.sampleCrates (sampleEvents secret) {}).vaults 1 =
      some (Vault.ofKeyFile sampleKey.val) := rfl

theorem get_after_sampleEvents :
    ConfigService.get Vault.sampleCrates (Vault.ofKeyFile sampleKey.val) .server "password"
        (Machine.after Vault.sampleCrates (sampleEvents "hunter2") {}).db =
      .returned (some "hunter2") :=
  (get_after (sound_sampleEvents "hunter2") (vaults_sampleEvents "hunter2") .server
    "password").trans (by decide)

/-! ## Whatever becomes of the key -/

section Lost

variable {crates : VaultCrates}

/-- What is marked as secret was encrypted, under some key. -/
def Row.IsEncrypted (crates : VaultCrates) (row : Row) : Prop :=
  row.secret = 1 → ∃ (vault : Vault) (nonce : Nonce) (plain : String),
    row.value = vault.encrypt crates nonce plain

def Encrypted (crates : VaultCrates) (db : Database) : Prop :=
  ∀ table key row, (db table).lookup key = some row → row.IsEncrypted crates

theorem Encrypted.update {db : Database} (encrypted : Encrypted crates db) (table : String)
    {rows : HashMap Row} (each : ∀ key row, rows.lookup key = some row →
      (db table).lookup key = some row ∨ row.IsEncrypted crates) :
    Encrypted crates (Function.update db table rows) := by
  intro other key row found
  by_cases same : other = table
  · subst same
    rw [Function.update_self] at found
    exact (each key row found).elim (encrypted other key row) id
  · rw [Function.update_of_ne same] at found
    exact encrypted other key row found

theorem Encrypted.set {db : Database} (encrypted : Encrypted crates db) (vault : Vault)
    (nonce : Nonce) (role : RoleView) (key value : String) (secret : Bool) :
    Encrypted crates (ConfigService.set crates vault nonce role key value secret db) := by
  refine encrypted.update _ fun name row found => ?_
  by_cases same : name = key
  · subst same
    rw [AList.lookup_insert] at found
    cases found
    cases secret with
    | false => exact .inr fun marked => by cases marked
    | true => exact .inr fun _ => ⟨vault, nonce, value, rfl⟩
  · rw [AList.lookup_insert_ne same] at found
    exact .inl found

theorem Encrypted.delete {db : Database} (encrypted : Encrypted crates db) (role : RoleView)
    (key : String) : Encrypted crates (ConfigService.delete role key db) := by
  refine encrypted.update _ fun name row found => .inl ?_
  by_cases same : name = key
  · subst same
    rw [AList.lookup_erase] at found
    cases found
  · rwa [AList.lookup_erase_ne same] at found

theorem Encrypted.step {machine : Machine} (encrypted : Encrypted crates machine.db)
    (event : ServiceEvent) : Encrypted crates (Machine.step crates event machine).db := by
  cases event with
  | opened => exact encrypted
  | set service nonce role key value secret =>
      rw [Machine.step]
      split
      · exact encrypted
      · exact encrypted.set _ nonce role key value secret
  | delete service role key =>
      rw [Machine.step]
      split
      · exact encrypted
      · exact encrypted.delete role key
  | setNodeIdentity service nonces machineName displayName =>
      rw [Machine.step]
      split
      · exact encrypted
      · exact (encrypted.set _ _ _ _ _ _).set _ _ _ _ _ _

theorem Encrypted.after {machine : Machine} (encrypted : Encrypted crates machine.db)
    (events : List ServiceEvent) : Encrypted crates (machine.after crates events).db := by
  induction events generalizing machine with
  | nil => exact encrypted
  | cons event events ih => exact ih (encrypted.step event)

/-- What was encrypted under any key has a nonce of the right length. -/
theorem decrypt_encrypt_returns (vault other : Vault) (nonce : Nonce) (plain : String) :
    ∃ result, vault.decrypt crates (other.encrypt crates nonce plain) = .returned result :=
  ⟨_, Vault.decrypt_of_parts Vault.decodeParts_encrypt⟩

/--
No run of services makes the vault panic afterwards, even if the key file was torn, lost or
replaced on the way: reading and listing return, under whichever key.
-/
theorem reads_return (events : List ServiceEvent) (vault : Vault) (role : RoleView) :
    (∀ key, ConfigService.get crates vault role key (Machine.after crates events {}).db ≠
        .panicked) ∧
      (ConfigService.list crates vault role (Machine.after crates events {}).db).isSome := by
  have fresh : Encrypted crates ({} : Machine).db := by
    intro table key row found
    cases found
  have encrypted := fresh.after events
  constructor
  · intro key panicked
    rw [ConfigService.get] at panicked
    split at panicked
    · cases panicked
    · next row found =>
      split at panicked
      · next marked =>
        obtain ⟨other, nonce, plain, stored⟩ := encrypted _ key row found marked
        obtain ⟨result, returned⟩ := decrypt_encrypt_returns vault other nonce plain
        rw [stored, returned] at panicked
        cases panicked
      · cases panicked
  · rw [ConfigService.list, Accumulators.mapM_of_isSome]
    · rfl
    · intro item mem
      rw [ConfigService.listed]
      split
      · next marked =>
        obtain ⟨other, nonce, plain, stored⟩ :=
          encrypted _ item.1 item.2 (AList.mem_lookup_iff.mpr mem) marked
        obtain ⟨result, returned⟩ := decrypt_encrypt_returns vault other nonce plain
        rw [stored, returned]
        rfl
      · rfl

end Lost

/-! ## What lists do not tell -/

/-- The events differ at most in what is drawn at random and in the secrets, of which none
is listed as unset where the other one is listed as set. -/
inductive ServiceEvent.Alike (crates : VaultCrates) : ServiceEvent → ServiceEvent → Prop where
  | opened (service : Nat) (first second : Opening) :
      Alike crates (.opened service first) (.opened service second)
  | plain (service : Nat) (first second : Nonce) (role : RoleView) (key value : String) :
      Alike crates (.set service first role key value false)
        (.set service second role key value false)
  | secret (service : Nat) (first second : Nonce) (role : RoleView) (key : String)
      {value other : String}
      (shown : Setting.shown crates ⟨value, true⟩ = Setting.shown crates ⟨other, true⟩) :
      Alike crates (.set service first role key value true)
        (.set service second role key other true)
  | delete (service : Nat) (role : RoleView) (key : String) :
      Alike crates (.delete service role key) (.delete service role key)
  | setNodeIdentity (service : Nat) (first second : Nonce × Nonce)
      (machineName displayName : String) :
      Alike crates (.setNodeIdentity service first machineName displayName)
        (.setNodeIdentity service second machineName displayName)

section Alike

variable {crates : VaultCrates}

/-- The settings are listed alike. -/
def Settings.Alike (crates : VaultCrates) (first second : Settings) : Prop :=
  ∀ role key, (first role key).map (Setting.entry crates role key) =
    (second role key).map (Setting.entry crates role key)

theorem Settings.Alike.put {first second : Settings} (alike : first.Alike crates second)
    {role : RoleView} {key : String} {setting other : Option Setting}
    (same : setting.map (Setting.entry crates role key) =
      other.map (Setting.entry crates role key)) :
    (first.put role key setting).Alike crates (second.put role key other) := by
  intro otherRole name
  by_cases here : otherRole = role ∧ name = key
  · obtain ⟨rfl, rfl⟩ := here
    rw [put_self, put_self]
    exact same
  · rw [put_of_ne here, put_of_ne here]
    exact alike otherRole name

theorem Settings.Alike.step {first second : Settings} (alike : first.Alike crates second)
    {event other : ServiceEvent} (same : event.Alike crates other) :
    (Settings.step event first).Alike crates (Settings.step other second) := by
  cases same with
  | opened => exact alike
  | plain => exact alike.put rfl
  | secret _ _ _ _ _ shown => exact alike.put (by simp [Setting.entry, shown])
  | delete => exact alike.put rfl
  | setNodeIdentity => exact (alike.put rfl).put rfl

theorem Settings.Alike.after {first second : Settings} (alike : first.Alike crates second)
    {events others : List ServiceEvent}
    (same : List.Forall₂ (ServiceEvent.Alike crates) events others) :
    (first.after events).Alike crates (second.after others) := by
  induction same generalizing first second with
  | nil => exact alike
  | cons event _ ih => exact ih (alike.step event)

/-- What a database lists is determined by how its settings are shown. -/
theorem Keeps.list_perm {vault other : Vault} {db otherDb : Database} {first second : Settings}
    (keeps : Keeps crates vault db first) (otherKeeps : Keeps crates other otherDb second)
    (alike : first.Alike crates second) (role : RoleView) :
    ∃ entries others, ConfigService.list crates vault role db = some entries ∧
      ConfigService.list crates other role otherDb = some others ∧ entries.Perm others := by
  obtain ⟨entries, listed, nodup, mem⟩ := keeps.list_eq role
  obtain ⟨others, otherListed, otherNodup, otherMem⟩ := otherKeeps.list_eq role
  refine ⟨entries, others, listed, otherListed, ?_⟩
  refine (List.perm_ext_iff_of_nodup (.of_map _ nodup) (.of_map _ otherNodup)).mpr fun entry => ?_
  rw [mem, otherMem]
  refine exists_congr fun key => ?_
  rw [← Option.map_eq_some_iff, ← Option.map_eq_some_iff, alike role key]

/--
What is listed after a run does not depend on the secrets that were set in it, except on
whether there is one: two runs that differ in their secrets list the same entries.
-/
theorem list_after_alike {events others : List ServiceEvent} {service otherService : Nat}
    {vault other : Vault}
    (sound : Systems.EventRuns.Fitting (Machine.step crates) ServiceEvent.Sound events {})
    (otherSound : Systems.EventRuns.Fitting (Machine.step crates) ServiceEvent.Sound others {})
    (alike : List.Forall₂ (ServiceEvent.Alike crates) events others)
    (isOpen : (Machine.after crates events {}).vaults service = some vault)
    (otherOpen : (Machine.after crates others {}).vaults otherService = some other)
    (role : RoleView) :
    ∃ entries otherEntries,
      ConfigService.list crates vault role (Machine.after crates events {}).db = some entries ∧
      ConfigService.list crates other role (Machine.after crates others {}).db =
        some otherEntries ∧
      entries.Perm otherEntries := by
  have same : Settings.Alike crates .unset .unset := fun _ _ => rfl
  exact ((Machine.shares_new.after sound).keeps isOpen).list_perm
    ((Machine.shares_new.after otherSound).keeps otherOpen) (same.after alike) role

end Alike

theorem list_after_sampleEvents : ∃ entries otherEntries,
    ConfigService.list Vault.sampleCrates (Vault.ofKeyFile sampleKey.val) .server
        (Machine.after Vault.sampleCrates (sampleEvents "hunter2") {}).db = some entries ∧
      ConfigService.list Vault.sampleCrates (Vault.ofKeyFile sampleKey.val) .server
        (Machine.after Vault.sampleCrates (sampleEvents "letmein") {}).db = some otherEntries ∧
      entries.Perm otherEntries :=
  list_after_alike (sound_sampleEvents _) (sound_sampleEvents _)
    (.cons (.opened 0 _ _) (.cons (.secret 0 _ _ .server "password" (by decide))
      (.cons (.opened 1 _ _) .nil)))
    (vaults_sampleEvents _) (vaults_sampleEvents _) .server

end AiPowerGateway.Config

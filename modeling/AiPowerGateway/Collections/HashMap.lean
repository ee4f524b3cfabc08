import Mathlib.Data.List.AList

/-!
# String-keyed tables

A hash map with string keys: a list of entries with distinct keys.  Its order is
the order in which one run happens to enumerate the table; lookups, and every
statement that only uses lookups and membership, do not depend on it.
-/

namespace AiPowerGateway

abbrev HashMap (ν : Type) := AList fun _ : String => ν

namespace HashMap

variable {ν : Type}

def values (table : HashMap ν) : List ν := table.entries.map Sigma.snd

/-- Keep the entries whose value passes a test. -/
def retain (keep : ν → Bool) (table : HashMap ν) : HashMap ν :=
  ⟨table.entries.filter fun entry => keep entry.snd,
    table.nodupKeys.sublist List.filter_sublist⟩

/-- Change every value. -/
def mapValues (change : ν → ν) (table : HashMap ν) : HashMap ν :=
  ⟨table.entries.map fun entry => ⟨entry.fst, change entry.snd⟩, by
    rw [List.NodupKeys, List.keys, List.map_map]
    exact table.nodupKeys⟩

/-- Store the image of the value of a key, or of a fresh value when there is none. -/
def upsert (key : String) (fresh : ν) (change : ν → ν) (table : HashMap ν) : HashMap ν :=
  table.insert key (change ((table.lookup key).getD fresh))

/-- The same entries in another enumeration order. -/
def Reordered (first second : HashMap ν) : Prop := first.entries.Perm second.entries

theorem mem_values {table : HashMap ν} {value : ν} :
    value ∈ table.values ↔ ∃ key, table.lookup key = some value := by
  simp only [values, List.mem_map]
  constructor
  · rintro ⟨⟨key, stored⟩, mem, rfl⟩
    exact ⟨key, AList.mem_lookup_iff.mpr mem⟩
  · rintro ⟨key, found⟩
    exact ⟨⟨key, value⟩, AList.mem_lookup_iff.mp found, rfl⟩

theorem lookup_retain (keep : ν → Bool) (table : HashMap ν) (key : String) :
    (table.retain keep).lookup key = (table.lookup key).filter keep := by
  apply Option.ext
  intro value
  rw [Option.filter_eq_some_iff, ← Option.mem_def, ← Option.mem_def, AList.mem_lookup_iff,
    AList.mem_lookup_iff]
  exact List.mem_filter

theorem lookup_mapValues (change : ν → ν) (table : HashMap ν) (key : String) :
    (table.mapValues change).lookup key = (table.lookup key).map change := by
  apply Option.ext
  intro value
  rw [Option.map_eq_some_iff, ← Option.mem_def, AList.mem_lookup_iff]
  constructor
  · intro mem
    obtain ⟨⟨other, stored⟩, storedMem, same⟩ := List.mem_map.mp mem
    cases same
    exact ⟨stored, AList.mem_lookup_iff.mpr storedMem, rfl⟩
  · rintro ⟨stored, found, rfl⟩
    exact List.mem_map.mpr ⟨⟨key, stored⟩, AList.mem_lookup_iff.mp found, rfl⟩

theorem lookup_reordered {first second : HashMap ν} (same : first.Reordered second)
    (key : String) : first.lookup key = second.lookup key :=
  AList.perm_lookup same

theorem mem_values_retain {keep : ν → Bool} {table : HashMap ν} {value : ν}
    (mem : value ∈ (table.retain keep).values) : value ∈ table.values ∧ keep value = true := by
  obtain ⟨key, found⟩ := mem_values.mp mem
  rw [lookup_retain, Option.filter_eq_some_iff] at found
  exact ⟨mem_values.mpr ⟨key, found.1⟩, found.2⟩

theorem mem_values_insert {key : String} {value stored : ν} {table : HashMap ν}
    (mem : stored ∈ values (table.insert key value)) :
    stored = value ∨ stored ∈ table.values := by
  obtain ⟨other, found⟩ := mem_values.mp mem
  by_cases same : other = key
  · subst same
    rw [AList.lookup_insert] at found
    exact Or.inl (Option.some.inj found).symm
  · rw [AList.lookup_insert_ne same] at found
    exact Or.inr (mem_values.mpr ⟨other, found⟩)

@[simp] theorem lookup_upsert_self (key : String) (fresh : ν) (change : ν → ν)
    (table : HashMap ν) :
    (table.upsert key fresh change).lookup key =
      some (change ((table.lookup key).getD fresh)) := by
  simp [upsert]

theorem lookup_upsert_ne {key other : String} (differ : other ≠ key) (fresh : ν)
    (change : ν → ν) (table : HashMap ν) :
    (table.upsert key fresh change).lookup other = table.lookup other := by
  simp [upsert, AList.lookup_insert_ne differ]

/-! ## Folds that write a table -/

/--
A fold whose steps either overwrite what is read or leave it alone reads as its
last writing step.
-/
theorem foldl_lastWriter {σ α β : Type} {step : σ → α → σ} (read : σ → Option β)
    (write : α → Option β) (reads : ∀ state item,
      read (step state item) = (write item).or (read state))
    (items : List α) (state : σ) :
    read (items.foldl step state) = (items.reverse.findSome? write).or (read state) := by
  induction items generalizing state with
  | nil => simp
  | cons item items ih =>
      rw [List.foldl_cons, ih, reads, List.reverse_cons, List.findSome?_append,
        Option.or_assoc]
      simp

/-- Storing one value under every key of a list. -/
theorem lookup_foldl_insert (keys : List String) (value : ν) (table : HashMap ν)
    (key : String) :
    (keys.foldl (fun stored name => stored.insert name value) table).lookup key =
      if key ∈ keys then some value else table.lookup key := by
  induction keys generalizing table with
  | nil => simp
  | cons name keys ih =>
      rw [List.foldl_cons, ih]
      by_cases later : key ∈ keys
      · simp [later]
      · by_cases same : key = name
        · subst same
          simp [AList.lookup_insert]
        · simp [later, same, AList.lookup_insert_ne same]

end HashMap

end AiPowerGateway

import Mathlib.Data.List.Destutter
import Mathlib.Order.Lattice

/-!
# Runs of equal items

Cutting every run of equal items down to its first item leaves no item twice exactly
when equal items stand next to each other.  Two sorted lists, one after the other,
have that property when what they share stands where they meet.
-/

namespace AiPowerGateway.Runs

variable {α β : Type*}

/-- Equal items stand next to each other. -/
def Contiguous : List α → Prop
  | [] => True
  | item :: rest => (item ∈ rest → rest.head? = some item) ∧ Contiguous rest

theorem contiguous_cons {item : α} {rest : List α} :
    Contiguous (item :: rest) ↔ (item ∈ rest → rest.head? = some item) ∧ Contiguous rest := .rfl

section Equal

variable [DecidableEq α]

theorem destutter_same (item : α) (rest : List α) :
    (item :: item :: rest).destutter (· ≠ ·) = (item :: rest).destutter (· ≠ ·) := by
  rw [List.destutter_cons', List.destutter_cons', List.destutter'_cons_neg _ (by simp)]

theorem destutter_ne {item next : α} (differ : item ≠ next) (rest : List α) :
    (item :: next :: rest).destutter (· ≠ ·) = item :: (next :: rest).destutter (· ≠ ·) := by
  rw [List.destutter_cons', List.destutter_cons', List.destutter'_cons_pos _ differ]

@[simp] theorem mem_destutter {item : α} {items : List α} :
    item ∈ items.destutter (· ≠ ·) ↔ item ∈ items := by
  induction items with
  | nil => simp
  | cons first rest ih =>
      cases rest with
      | nil => simp
      | cons next rest =>
          by_cases same : first = next
          · subst same
            rw [destutter_same, ih]
            simp
          · rw [destutter_ne same, List.mem_cons, ih, ← List.mem_cons]

theorem nodup_destutter_iff {items : List α} :
    (items.destutter (· ≠ ·)).Nodup ↔ Contiguous items := by
  induction items with
  | nil => simp [Contiguous]
  | cons first rest ih =>
      cases rest with
      | nil => simp [Contiguous]
      | cons next rest =>
          by_cases same : first = next
          · subst same
            rw [destutter_same, ih]
            exact ⟨fun rest => ⟨fun _ => rfl, rest⟩, fun both => both.2⟩
          · have apart : (next :: rest).head? ≠ some first := by simpa using Ne.symm same
            rw [destutter_ne same, List.nodup_cons, ih, mem_destutter]
            exact and_congr_left'
              ⟨fun new mem => absurd mem new, fun stands mem => apart (stands mem)⟩

end Equal

section Sorted

variable [LinearOrder α]

/-- What two lists share is the greatest of the first and the least of the second. -/
def MeetOnly (first second : List α) : Prop :=
  ∀ item ∈ first, item ∈ second →
    (∀ other ∈ first, other ≤ item) ∧ ∀ other ∈ second, item ≤ other

theorem head?_of_mem {item : α} {items : List α} (sorted : items.Pairwise (· ≤ ·))
    (least : ∀ other ∈ items, item ≤ other) (mem : item ∈ items) : items.head? = some item := by
  cases items with
  | nil => cases mem
  | cons first rest =>
      have firstLe : first ≤ item := by
        rcases List.mem_cons.mp mem with same | inRest
        · exact same.ge
        · exact List.rel_of_pairwise_cons sorted inRest
      rw [List.head?_cons, le_antisymm firstLe (least first List.mem_cons_self)]

theorem le_of_head? {item : α} {items : List α} (sorted : items.Pairwise (· ≤ ·))
    (front : items.head? = some item) : ∀ other ∈ items, item ≤ other := by
  cases items with
  | nil => cases front
  | cons first rest =>
      cases front
      intro other mem
      rcases List.mem_cons.mp mem with rfl | inRest
      · exact le_rfl
      · exact List.rel_of_pairwise_cons sorted inRest

theorem contiguous_of_sorted {items : List α} (sorted : items.Pairwise (· ≤ ·)) :
    Contiguous items := by
  induction items with
  | nil => trivial
  | cons first rest ih =>
      obtain ⟨least, rest⟩ := List.pairwise_cons.mp sorted
      exact ⟨fun mem => head?_of_mem rest least mem, ih rest⟩

theorem contiguous_append_iff {first second : List α} (sorted : first.Pairwise (· ≤ ·))
    (sortedSecond : second.Pairwise (· ≤ ·)) :
    Contiguous (first ++ second) ↔ MeetOnly first second := by
  induction first with
  | nil => exact iff_of_true (contiguous_of_sorted sortedSecond) fun _ mem => nomatch mem
  | cons item rest ih =>
      obtain ⟨least, sortedRest⟩ := List.pairwise_cons.mp sorted
      rw [List.cons_append, contiguous_cons, ih sortedRest]
      constructor
      · rintro ⟨stands, meet⟩ shared mem memSecond
        rcases List.mem_cons.mp mem with rfl | inRest
        · have front := stands (List.mem_append_right rest memSecond)
          cases rest with
          | nil =>
              exact ⟨by simp, le_of_head? sortedSecond front⟩
          | cons next rest =>
              rw [List.cons_append, List.head?_cons, Option.some.injEq] at front
              subst front
              obtain ⟨greatest, least⟩ := meet next List.mem_cons_self memSecond
              refine ⟨fun other otherMem => ?_, least⟩
              rcases List.mem_cons.mp otherMem with rfl | otherRest
              · exact le_rfl
              · exact greatest other otherRest
        · obtain ⟨greatest, leastSecond⟩ := meet shared inRest memSecond
          refine ⟨fun other otherMem => ?_, leastSecond⟩
          rcases List.mem_cons.mp otherMem with rfl | otherRest
          · exact least shared inRest
          · exact greatest other otherRest
      · intro meet
        refine ⟨fun mem => ?_, fun shared inRest => ?_⟩
        · cases rest with
          | nil =>
              have memSecond : item ∈ second := mem
              exact head?_of_mem sortedSecond (meet item List.mem_cons_self memSecond).2 memSecond
          | cons next rest =>
              have below : next ≤ item := by
                rcases List.mem_append.mp mem with inRest | memSecond
                · exact le_of_head? sortedRest rfl item inRest
                · exact (meet item List.mem_cons_self memSecond).1 next (by simp)
              have above : item ≤ next := least next List.mem_cons_self
              rw [List.cons_append, List.head?_cons, le_antisymm below above]
        · intro memSecond
          obtain ⟨greatest, leastSecond⟩ := meet shared (List.mem_cons_of_mem _ inRest) memSecond
          exact ⟨fun other otherMem => greatest other (List.mem_cons_of_mem _ otherMem),
            leastSecond⟩

end Sorted

section Keyed

variable [DecidableEq β] {name : α → β} {R : α → α → Prop}

/-- In a sorted list, the item that stays of a run comes before all items of its name. -/
theorem rel_of_destutter (refl : ∀ item, R item item)
    (trans : ∀ first second third, R first second → R second third → R first third)
    {items : List α} (sorted : items.Pairwise R)
    (nodup : ((items.destutter fun first second => name first ≠ name second).map name).Nodup)
    {kept item : α} (mem : kept ∈ items.destutter fun first second => name first ≠ name second)
    (itemMem : item ∈ items) (same : name item = name kept) : R kept item := by
  cases items with
  | nil => cases itemMem
  | cons first rest =>
      rw [List.destutter_cons'] at nodup mem
      induction rest generalizing first item with
      | nil =>
          rw [List.destutter'_nil, List.mem_singleton] at mem
          rw [mem, List.mem_singleton.mp itemMem]
          exact refl first
      | cons next rest ih =>
          obtain ⟨least, sortedRest⟩ := List.pairwise_cons.mp sorted
          by_cases run : name first = name next
          · rw [List.destutter'_cons_neg _ (by simpa using run)] at nodup mem
            have shorter : (first :: rest).Pairwise R :=
              sorted.sublist (List.Sublist.cons_cons first (List.sublist_cons_self next rest))
            rcases List.mem_cons.mp itemMem with rfl | later
            · exact ih same _ shorter nodup mem List.mem_cons_self
            · rcases List.mem_cons.mp later with rfl | inRest
              · have before := ih (run.trans same) _ shorter nodup mem List.mem_cons_self
                exact trans _ _ _ before (least _ List.mem_cons_self)
              · exact ih same _ shorter nodup mem (List.mem_cons_of_mem _ inRest)
          · rw [List.destutter'_cons_pos _ run] at nodup mem
            rw [List.map_cons, List.nodup_cons] at nodup
            rcases List.mem_cons.mp mem with rfl | keptLater
            · rcases List.mem_cons.mp itemMem with rfl | later
              · exact refl _
              · exact least item later
            · rcases List.mem_cons.mp itemMem with rfl | later
              · exact absurd (same ▸ List.mem_map_of_mem keptLater) nodup.1
              · exact ih same next sortedRest nodup.2 keptLater later

end Keyed

/-- A list in which a property is lost for good falls into two parts. -/
theorem filter_append_filter {holds : α → Prop} [DecidablePred holds] {items : List α}
    (lost : items.Pairwise fun first second => holds second → holds first) :
    items.filter (fun item => holds item) ++ items.filter (fun item => ¬ holds item) = items := by
  induction items with
  | nil => rfl
  | cons first rest ih =>
      obtain ⟨before, later⟩ := List.pairwise_cons.mp lost
      by_cases now : holds first
      · simp only [List.filter_cons, now, decide_true, if_true, not_true_eq_false, decide_false,
          Bool.false_eq_true, if_false, List.cons_append]
        rw [ih later]
      · have never : rest.filter (fun item => holds item) = [] := by
          rw [List.filter_eq_nil_iff]
          intro item mem
          simpa using fun held => now (before item mem held)
        have always : rest.filter (fun item => ¬ holds item) = rest := by
          rw [List.filter_eq_self]
          intro item mem
          simpa using fun held => now (before item mem held)
        rw [List.filter_cons_of_neg (by simpa using now), never,
          List.filter_cons_of_pos (by simpa using now), always, List.nil_append]

end AiPowerGateway.Runs

import Mathlib.Data.List.MinMax
import Mathlib.Data.List.Sort
import Mathlib.Order.Lattice

/-!
# First items and stable orders

The first item of a list with a property, and the list in the order of a key with
items of one key in their old order.
-/

namespace AiPowerGateway.StableOrder

/-! ## The first item with a property -/

section First

variable {α : Type*}

/-- The item has the property, and no item in front of it has. -/
def IsFirst (p : α → Prop) (items : List α) (item : α) : Prop :=
  p item ∧ ∃ before after, items = before ++ item :: after ∧ ∀ other ∈ before, ¬ p other

theorem isFirst_of_find? {p : α → Prop} [DecidablePred p] {items : List α} {item : α}
    (found : items.find? (fun item => decide (p item)) = some item) : IsFirst p items item := by
  obtain ⟨holds, before, after, split, none⟩ := List.find?_eq_some_iff_append.mp found
  refine ⟨of_decide_eq_true holds, before, after, split, fun other mem => ?_⟩
  have fails := none other mem
  rw [Bool.not_eq_true'] at fails
  exact of_decide_eq_false fails

theorem not_of_find?_none {p : α → Prop} [DecidablePred p] {items : List α}
    (absent : items.find? (fun item => decide (p item)) = none) : ∀ item ∈ items, ¬ p item := by
  intro item mem holds
  exact List.find?_eq_none.mp absent item mem (decide_eq_true holds)

/-- A scan for the least key ends at the first item of least key. -/
theorem isFirst_of_argmin {κ : Type*} [LinearOrder κ] {key : α → κ} {items : List α} {item : α}
    (least : items.argmin key = some item) :
    IsFirst (fun least => ∀ other ∈ items, key least ≤ key other) items item := by
  classical
  obtain ⟨mem, minimal, first⟩ := List.mem_argmin_iff.mp least
  have bound : items.idxOf item < items.length := List.idxOf_lt_length_iff.mpr mem
  refine ⟨minimal, items.take (items.idxOf item), items.drop (items.idxOf item + 1), ?_, ?_⟩
  · have here : items[items.idxOf item] = item := List.getElem_idxOf bound
    nth_rewrite 1 [← List.take_append_drop (items.idxOf item) items]
    rw [List.drop_eq_getElem_cons bound, here]
  · intro other before otherLeast
    have later := first other (List.mem_of_mem_take before) (otherLeast item mem)
    have earlier : items.idxOf other < items.idxOf item := calc
      items.idxOf other = (items.take (items.idxOf item)).idxOf other :=
        ((List.take_prefix _ items).idxOf_eq_of_mem before).symm
      _ < (items.take (items.idxOf item)).length := List.idxOf_lt_length_iff.mpr before
      _ ≤ items.idxOf item := List.length_take_le _ items
    omega

/-- The first item with a reading gives the first reading. -/
theorem find?_bind_eq_findSome? {β : Type*} (items : List α) (read : α → Option β) :
    (items.find? fun item => (read item).isSome).bind read = items.findSome? read := by
  induction items with
  | nil => rfl
  | cons item rest ih =>
      cases found : read item with
      | none => rw [List.find?_cons, List.findSome?_cons, found, ← ih]; rfl
      | some value => rw [List.find?_cons, List.findSome?_cons, found]; exact found

section Insert

variable {r : α → α → Prop} [DecidableRel r] {p : α → Bool} {item : α} {items : List α}

/-- A search passes over an inserted item that it does not look for. -/
theorem find?_orderedInsert_of_neg (other : p item = false) :
    (items.orderedInsert r item).find? p = items.find? p := by
  induction items with
  | nil => simp [other]
  | cons head tail ih =>
      by_cases fits : r item head
      · rw [List.orderedInsert_cons_of_le r tail fits, List.find?_cons, other]
      · rw [List.orderedInsert_of_not_le r tail fits, List.find?_cons, List.find?_cons, ih]

/-- It finds an inserted item that is the only one it looks for. -/
theorem find?_orderedInsert_of_pos (wanted : p item = true) (only : items.find? p = none) :
    (items.orderedInsert r item).find? p = some item := by
  induction items with
  | nil => simp [wanted]
  | cons head tail ih =>
      rw [List.find?_cons] at only
      cases here : p head with
      | true =>
          rw [here] at only
          cases only
      | false =>
          rw [here] at only
          by_cases fits : r item head
          · rw [List.orderedInsert_cons_of_le r tail fits, List.find?_cons, wanted]
          · rw [List.orderedInsert_of_not_le r tail fits, List.find?_cons, here]
            exact ih only

end Insert

end First

/-! ## Stable orders -/

section Stable

variable {α κ : Type*} [LinearOrder κ] {key : α → κ}

/-- The items in nondecreasing order of their keys, those of one key in their old order. -/
structure IsStableOrder (key : α → κ) (items sorted : List α) : Prop where
  perm : sorted.Perm items
  nondecreasing : sorted.Pairwise fun first second => key first ≤ key second
  stable (value : κ) :
    sorted.filter (fun item => key item = value) = items.filter fun item => key item = value

/-- An item is put in front of those of its own key. -/
theorem filter_orderedInsert {r : α → α → Prop} [DecidableRel r]
    (orders : ∀ first second, r first second ↔ key first ≤ key second) (item : α) (value : κ)
    (sorted : List α) :
    (sorted.orderedInsert r item).filter (fun item => key item = value) =
      (item :: sorted).filter fun item => key item = value := by
  induction sorted with
  | nil => rfl
  | cons head tail ih =>
      by_cases fits : r item head
      · rw [List.orderedInsert_cons_of_le r tail fits]
      · rw [List.orderedInsert_of_not_le r tail fits, List.filter_cons, ih]
        have greater : key head < key item := not_le.mp fun le => fits ((orders item head).mpr le)
        by_cases ofValue : key item = value
        · have headOff : key head ≠ value := fun same => (ofValue ▸ greater).ne same
          simp only [List.filter_cons, ofValue, headOff, decide_true, decide_false, ↓reduceIte,
            Bool.false_eq_true]
        · simp only [List.filter_cons, ofValue, decide_false, ↓reduceIte, Bool.false_eq_true]

theorem isStableOrder_insertionSort {r : α → α → Prop} [DecidableRel r]
    (orders : ∀ first second, r first second ↔ key first ≤ key second) (items : List α) :
    IsStableOrder key items (items.insertionSort r) := by
  have : Std.Total r := ⟨fun first second => by
    rw [orders, orders]
    exact le_total _ _⟩
  have : IsTrans α r := ⟨fun first second third => by
    rw [orders, orders, orders]
    exact le_trans⟩
  refine ⟨List.perm_insertionSort r items,
    (List.pairwise_insertionSort r items).imp (orders _ _).mp, fun value => ?_⟩
  induction items with
  | nil => rfl
  | cons item items ih =>
      rw [List.insertionSort_cons, filter_orderedInsert orders, List.filter_cons, ih,
        List.filter_cons]

theorem mem_iff_of_filter_eq {first second : List α}
    (same : ∀ value, first.filter (fun item => key item = value) =
      second.filter fun item => key item = value) (item : α) : item ∈ first ↔ item ∈ second := by
  have here := congrArg (item ∈ ·) (same (key item))
  simpa only [List.mem_filter, decide_true, and_true, eq_iff_iff] using here

/-- Two orders of one list that keep the items of each key in one order are the same. -/
theorem eq_of_filter_eq {first second : List α}
    (firstSorted : first.Pairwise fun a b => key a ≤ key b)
    (secondSorted : second.Pairwise fun a b => key a ≤ key b)
    (same : ∀ value, first.filter (fun item => key item = value) =
      second.filter fun item => key item = value) : first = second := by
  have mem_iff : ∀ item, item ∈ first ↔ item ∈ second := mem_iff_of_filter_eq same
  induction first generalizing second with
  | nil =>
      cases second with
      | nil => rfl
      | cons head tail => exact absurd ((mem_iff head).mpr List.mem_cons_self) List.not_mem_nil
  | cons a as ih =>
      cases second with
      | nil => exact absurd ((mem_iff a).mp List.mem_cons_self) List.not_mem_nil
      | cons b bs =>
          -- Both heads carry the least key, so they head the same filtered list.
          have le : ∀ item ∈ a :: as, key a ≤ key item := by
            intro item mem
            rcases List.mem_cons.mp mem with rfl | mem
            · exact le_rfl
            · exact List.rel_of_pairwise_cons firstSorted mem
          have ge : ∀ item ∈ b :: bs, key b ≤ key item := by
            intro item mem
            rcases List.mem_cons.mp mem with rfl | mem
            · exact le_rfl
            · exact List.rel_of_pairwise_cons secondSorted mem
          have keys : key b = key a :=
            le_antisymm (ge a ((mem_iff a).mp List.mem_cons_self))
              (le b ((mem_iff b).mpr List.mem_cons_self))
          have heads := same (key a)
          simp only [List.filter_cons, keys, decide_true, ↓reduceIte, List.cons.injEq] at heads
          obtain ⟨rfl, -⟩ := heads
          have tails : ∀ value, as.filter (fun item => key item = value) =
              bs.filter fun item => key item = value := by
            intro value
            have whole := same value
            by_cases ofValue : key a = value
            · simpa only [List.filter_cons, ofValue, decide_true, ↓reduceIte, List.cons.injEq,
                true_and] using whole
            · simpa only [List.filter_cons, ofValue, decide_false, Bool.false_eq_true,
                ↓reduceIte] using whole
          rw [ih (List.Pairwise.of_cons firstSorted) (List.Pairwise.of_cons secondSorted) tails
            (mem_iff_of_filter_eq tails)]

theorem IsStableOrder.unique {items first second : List α} (one : IsStableOrder key items first)
    (other : IsStableOrder key items second) : first = second :=
  eq_of_filter_eq one.nondecreasing other.nondecreasing
    fun value => (one.stable value).trans (other.stable value).symm

/-- Dropping items before the sort or after it is the same. -/
theorem IsStableOrder.filter {items sorted : List α} (sorts : IsStableOrder key items sorted)
    (keep : α → Bool) : IsStableOrder key (items.filter keep) (sorted.filter keep) where
  perm := sorts.perm.filter keep
  nondecreasing := sorts.nondecreasing.filter keep
  stable value := by
    rw [List.filter_comm, sorts.stable value, List.filter_comm]

/-- The stable order of some of the items is what is left of the stable order of all of them. -/
theorem IsStableOrder.sublist {items sorted fewer : List α} {keep : α → Bool}
    (sorts : IsStableOrder key items sorted) (kept : IsStableOrder key (items.filter keep) fewer) :
    fewer.Sublist sorted := by
  rw [kept.unique (sorts.filter keep)]
  exact List.filter_sublist

end Stable

/-! ## The head of a stable sort -/

section Head

variable {α : Type*} {le : α → α → Bool}

/--
The head of a merge sort is least, and of several least items it is the one that came
first.
-/
theorem head_mergeSort (trans : ∀ a b c, le a b → le b c → le a c)
    (total : ∀ a b, le a b || le b a) {before : α → α → Prop} {items : List α} {head : α}
    (ordered : items.Pairwise before) (distinct : items.Nodup)
    (first : (items.mergeSort le).head? = some head) :
    head ∈ items ∧ ∀ other ∈ items, other ≠ head →
      le head other = true ∧ (le other head = true → before head other) := by
  obtain ⟨rest, sorted⟩ := List.head?_eq_some_iff.mp first
  have perm := List.mergeSort_perm items le
  have mem : head ∈ items := perm.mem_iff.mp (sorted ▸ List.mem_cons_self)
  refine ⟨mem, fun other otherMem differs => ?_⟩
  have nondecreasing := List.pairwise_mergeSort trans total items
  have sortedDistinct := perm.nodup_iff.mpr distinct
  rw [sorted] at nondecreasing sortedDistinct
  have later : other ∈ rest := by
    have listed : other ∈ items.mergeSort le := perm.mem_iff.mpr otherMem
    rw [sorted] at listed
    exact (List.mem_cons.mp listed).resolve_left differs
  refine ⟨List.rel_of_pairwise_cons nondecreasing later, fun ties => ?_⟩
  obtain ⟨front, back, rfl⟩ := List.append_of_mem mem
  rcases List.mem_append.mp otherMem with inFront | inBack
  · -- An item in front that ties would stay in front of the head.
    have pair : [other, head].Sublist (front ++ head :: back) :=
      (List.singleton_sublist.mpr inFront).append
        (List.singleton_sublist.mpr List.mem_cons_self)
    have kept := List.pair_sublist_mergeSort trans total ties pair
    rw [sorted] at kept
    cases kept with
    | cons _ tail => exact absurd (tail.subset (by simp)) (List.nodup_cons.mp sortedDistinct).1
    | cons_cons _ _ => exact absurd rfl differs
  · have tail := (List.mem_cons.mp inBack).resolve_left differs
    exact List.rel_of_pairwise_cons (List.pairwise_append.mp ordered).2.1 tail

theorem mergeSort_pair (le : α → α → Bool) (first second : α) :
    [first, second].mergeSort le =
      if le first second then [first, second] else [second, first] := by
  simp [List.mergeSort, List.merge]

end Head

end AiPowerGateway.StableOrder

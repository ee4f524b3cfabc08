import Mathlib.Data.List.Basic

/-!
# Encodings that leave a separator free

Two things that are encoded without a separator can be written one after the other with
the separator between them, and are read back from its first occurrence.
-/

namespace AiPowerGateway

/-- An encoding whose output never has the separator. -/
structure Codec (α β : Type*) (separator : β) where
  encode : List α → List β
  decode? : List β → Option (List α)
  decode?_encode : ∀ items, decode? (encode items) = some items
  separator_notMem : ∀ items, separator ∉ encode items

section SplitOnce

variable {β : Type*} [DecidableEq β] {separator : β}

/-- What stands before and after the first separator. -/
def splitOnce (separator : β) : List β → Option (List β × List β)
  | [] => none
  | item :: rest =>
      if item = separator then some ([], rest)
      else (splitOnce separator rest).map fun parts => (item :: parts.1, parts.2)

theorem splitOnce_append {front : List β} (free : separator ∉ front) (back : List β) :
    splitOnce separator (front ++ separator :: back) = some (front, back) := by
  induction front with
  | nil => exact if_pos rfl
  | cons item front ih =>
      rw [List.mem_cons, not_or] at free
      rw [List.cons_append, splitOnce, if_neg (Ne.symm free.1), ih free.2]
      rfl

theorem splitOnce_encode {α : Type*} (codec : Codec α β separator) (items : List α)
    (back : List β) : splitOnce separator (codec.encode items ++ separator :: back) =
      some (codec.encode items, back) :=
  splitOnce_append (codec.separator_notMem items) back

end SplitOnce

section Terminated

variable {α β : Type*} {encode : α → List β} {separator : β}

/-- Encoded items, the separator after each of them. -/
def terminated (encode : α → List β) (separator : β) (items : List α) : List β :=
  items.flatMap fun item => encode item ++ [separator]

/-- The items can be told from their encodings. -/
theorem terminated_injective (injective : Function.Injective encode)
    (free : ∀ item, separator ∉ encode item) :
    Function.Injective (terminated encode separator) := by
  classical
  intro first second same
  induction first generalizing second with
  | nil =>
      cases second with
      | nil => rfl
      | cons item items => simp [terminated] at same
  | cons item items ih =>
      cases second with
      | nil => simp [terminated] at same
      | cons other others =>
          simp only [terminated, List.flatMap_cons, List.append_assoc, List.singleton_append]
            at same
          have parts := congrArg (splitOnce separator) same
          rw [splitOnce_append (free item), splitOnce_append (free other)] at parts
          obtain ⟨sameItem, sameItems⟩ := Prod.mk.inj (Option.some.inj parts)
          rw [injective sameItem, ih sameItems]

end Terminated

end AiPowerGateway

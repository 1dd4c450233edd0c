import Mathlib.Data.List.Basic
import TextCursor.Text.Enumeration

/-!
# Phrases

A phrase is its items in order with a joint between any two of them: a comma, or the conjunction if
the later one is the last. Which of the two it is shows only when no other item follows, so that a
phrase that is written while its items come in has to hold one item back. `Draft` is a phrase that
is written in this way, and what it is after any items is kept by every further item. Both ways come
to the same phrase, which is the plain one: all items but the last joined by commas, then the
conjunction and the last item.
-/

namespace TextCursor.Enumeration

/-- What stands between two items of which the later one is not the last. -/
def comma : Text := ", ".toList

/-- What stands before the last item. -/
def junction (conjunction : Text) : Text := ' ' :: (conjunction ++ [' '])

/-- What stands before each of the items after the first, if there are so many of them. -/
def joints (conjunction : Text) : Nat → List Text
  | 0 => []
  | count + 1 => List.replicate count comma ++ [junction conjunction]

/-- A phrase to which items may be added. From the third one on, the last item is held back. -/
inductive Draft where
  | nothing
  | one (first : Text)
  | two (first second : Text)
  | more (written held : Text)

namespace Draft

def add : Draft → Text → Draft
  | nothing, item => one item
  | one first, item => two first item
  | two first second, item => more (first ++ (comma ++ second)) item
  | more written held, item => more (written ++ (comma ++ held)) item

/-- The phrase, if no other item is added. -/
def finish (conjunction onEmpty : Text) : Draft → Text
  | nothing => onEmpty
  | one first => first
  | two first second => first ++ (junction conjunction ++ second)
  | more written held => written ++ (junction conjunction ++ held)

/-- Whether a draft is what the items come to when they are added in order. -/
inductive Holds : Draft → List Text → Prop where
  | nothing : Holds nothing []
  | one (first : Text) : Holds (one first) [first]
  | two (first second : Text) : Holds (two first second) [first, second]
  | more (first : Text) (middle : List Text) (held : Text) :
      Holds (more (List.intercalate comma (first :: middle)) held) (first :: (middle ++ [held]))

end Draft

variable {conjunction onEmpty : Text}

theorem length_joints (conjunction : Text) (count : Nat) :
    (joints conjunction count).length = count := by
  cases count with
  | zero => rfl
  | succ count => simp [joints]

/-- An item that others follow has a comma before it. -/
theorem continuation_cons (item : Text) {rest : List Text} (followed : rest ≠ []) :
    continuation conjunction (item :: rest) =
      comma ++ (item ++ continuation conjunction rest) := by
  cases rest with
  | nil => exact absurd rfl followed
  | cons next rest => rfl

theorem continuation_singleton (last : Text) :
    continuation conjunction [last] = junction conjunction ++ last := by
  simp [continuation, junction]

/-- No item is left out, and none is written twice. -/
theorem continuation_eq_joined (items : List Text) :
    continuation conjunction items =
      (List.zipWith (· ++ ·) (joints conjunction items.length) items).flatten := by
  induction items with
  | nil => rfl
  | cons item rest ih =>
      cases rest with
      | nil => simp [continuation_singleton, joints]
      | cons next rest =>
          rw [continuation_cons item (List.cons_ne_nil next rest), ih]
          simp [joints, List.replicate_succ]

theorem intercalate_concat (separator first : Text) (middle : List Text) (last : Text) :
    List.intercalate separator (first :: (middle ++ [last])) =
      List.intercalate separator (first :: middle) ++ (separator ++ last) := by
  induction middle generalizing first with
  | nil => simp
  | cons second rest ih =>
      rw [List.cons_append, List.intercalate_cons_cons, ih, List.intercalate_cons_cons]
      simp only [List.append_assoc]

theorem phrase_concat (first : Text) (middle : List Text) (last : Text) :
    phrase conjunction onEmpty (first :: (middle ++ [last])) =
      List.intercalate comma (first :: middle) ++ (junction conjunction ++ last) := by
  induction middle generalizing first with
  | nil => rw [List.nil_append, phrase, continuation_singleton, List.intercalate_singleton]
  | cons second rest ih =>
      have later := ih second
      have followed : rest ++ [last] ≠ [] := by simp
      rw [phrase] at later ⊢
      rw [List.cons_append, continuation_cons second followed, later, List.intercalate_cons_cons]
      simp only [List.append_assoc]

namespace Draft

variable {draft : Draft} {items : List Text}

theorem Holds.add (holds : draft.Holds items) (item : Text) :
    (draft.add item).Holds (items ++ [item]) := by
  cases holds with
  | nothing => exact .one item
  | one first => exact .two first item
  | two first second =>
      have written : first ++ (comma ++ second) = List.intercalate comma [first, second] := by
        rw [List.intercalate_cons_cons, List.intercalate_singleton, List.append_assoc]
      rw [Draft.add, written]
      exact .more first [second] item
  | more first middle held =>
      rw [Draft.add, ← intercalate_concat]
      exact .more first (middle ++ [held]) item

theorem Holds.foldl_add (holds : draft.Holds items) (added : List Text) :
    (added.foldl Draft.add draft).Holds (items ++ added) := by
  induction added generalizing draft items with
  | nil => rwa [List.append_nil]
  | cons item rest ih =>
      have whole := ih (holds.add item)
      rwa [List.append_assoc, List.singleton_append] at whole

/-- A draft is finished to the phrase of its items. -/
theorem Holds.finish_eq (holds : draft.Holds items) :
    draft.finish conjunction onEmpty = phrase conjunction onEmpty items := by
  cases holds with
  | nothing => rfl
  | one first => rw [finish, phrase, continuation, List.append_nil]
  | two first second => rw [finish, phrase, continuation_singleton]
  | more first middle held => rw [finish, phrase_concat]

end Draft

/--
A list of items has a plain phrase. There is a wording for no items, and a single item stands alone.
More items are joined by commas up to the last one, which comes after the conjunction. However many
they are, each is written once, in order, and each after the first has a joint before it. Writing
the phrase while the items come in gives nothing else.
-/
theorem phrase_exact (conjunction onEmpty : Text) :
    phrase conjunction onEmpty [] = onEmpty ∧
      (∀ item, phrase conjunction onEmpty [item] = item) ∧
      (∀ (first : Text) (middle : List Text) (last : Text),
        phrase conjunction onEmpty (first :: (middle ++ [last])) =
          List.intercalate ", ".toList (first :: middle) ++ ' ' :: (conjunction ++ ' ' :: last)) ∧
      (∀ (first : Text) (rest : List Text),
        (joints conjunction rest.length).length = rest.length ∧
          phrase conjunction onEmpty (first :: rest) =
            first ++ (List.zipWith (· ++ ·) (joints conjunction rest.length) rest).flatten) ∧
      ∀ items : List Text,
        (items.foldl Draft.add .nothing).finish conjunction onEmpty =
          phrase conjunction onEmpty items := by
  refine ⟨rfl, ?_, ?_, ?_, ?_⟩
  · intro item
    rw [phrase, continuation, List.append_nil]
  · intro first middle last
    rw [phrase_concat, comma, junction, List.cons_append, List.append_assoc, List.singleton_append]
  · intro first rest
    refine ⟨length_joints conjunction rest.length, ?_⟩
    rw [phrase, continuation_eq_joined]
  · intro items
    exact (Draft.Holds.nothing.foldl_add items).finish_eq

example : phrase "or".toList "nothing".toList ["a".toList, "b".toList, "c".toList, "d".toList] =
    "a, b, c or d".toList := rfl

end TextCursor.Enumeration

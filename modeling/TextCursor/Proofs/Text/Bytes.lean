import TextCursor.Span
import TextCursor.Text.Basic

/-!
# Bytes of texts

A script is stored in UTF-8, and spans count its bytes while texts count characters. A span marks a
part of a text if the bytes of the span are the bytes of the part and both ends of the span lie
between two characters; `Span.marks_of_append` finds the span of every part, and `Span.cut` finds
the part of every span.
-/

namespace TextCursor

namespace Text

/-- The bytes of the text in UTF-8. -/
def utf8 (text : Text) : List UInt8 := text.flatMap String.utf8EncodeChar

/-- Whether no character has bytes on both sides of a place. -/
def IsBoundary (text : Text) (place : Nat) : Prop :=
  ∃ before after, text = before ++ after ∧ before.utf8Size = place

@[simp]
theorem utf8_append (left right : Text) : utf8 (left ++ right) = utf8 left ++ utf8 right := by
  simp [utf8]

@[simp]
theorem length_utf8 (text : Text) : (utf8 text).length = text.utf8Size := by
  induction text with
  | nil => rfl
  | cons c rest ih =>
      rw [utf8, List.flatMap_cons, List.length_append, String.length_utf8EncodeChar, utf8Size_cons]
      exact congrArg (c.utf8Size + ·) ih

theorem utf8Size_pos {text : Text} (nonempty : text ≠ []) : 0 < text.utf8Size := by
  cases text with
  | nil => exact absurd rfl nonempty
  | cons c rest =>
      have positive := c.utf8Size_pos
      simp only [utf8Size_cons]
      omega

theorem length_le_utf8Size (text : Text) : text.length ≤ text.utf8Size := by
  induction text with
  | nil => exact Nat.le_refl 0
  | cons c rest ih =>
      have positive := c.utf8Size_pos
      rw [List.length_cons, utf8Size_cons]
      omega

end Text

namespace Span

/-- Whether a byte is one of the bytes of the span. -/
def Contains (span : Span) (place : Nat) : Prop := span.start ≤ place ∧ place < span.stop

instance (span : Span) (place : Nat) : Decidable (span.Contains place) :=
  inferInstanceAs (Decidable (span.start ≤ place ∧ place < span.stop))

/-- The bytes of the span in a text that starts at the byte `start`. -/
def bytes (span : Span) (start : Nat) (text : Text) : List UInt8 :=
  (text.utf8.drop (span.start - start)).take span.length

/-- Whether the span has the bytes of a part of a text, which starts at the byte `start`. -/
structure Marks (span : Span) (start : Nat) (text part : Text) : Prop where
  start_le : start ≤ span.start
  start_boundary : text.IsBoundary (span.start - start)
  stop_boundary : text.IsBoundary (span.stop - start)
  bytes_eq : span.bytes start text = part.utf8

theorem marks_of_append {text before part after : Text} (split : text = before ++ (part ++ after))
    (start : Nat) : Marks ⟨start + before.utf8Size, part.utf8Size⟩ start text part where
  start_le := Nat.le_add_right ..
  start_boundary := ⟨before, part ++ after, split, (Nat.add_sub_cancel_left ..).symm⟩
  stop_boundary := by
    refine ⟨before ++ part, after, by rw [split, List.append_assoc], ?_⟩
    simp only [stop, Text.utf8Size_append]
    omega
  bytes_eq := by
    simp [bytes, split, List.drop_left', List.take_left']

/-- The characters of a text, which starts at the byte `start`, that begin in the span. -/
def cut (span : Span) (start : Nat) : Text → Text
  | [] => []
  | c :: rest =>
      if span.Contains start then
        c :: span.cut (start + c.utf8Size) rest
      else
        span.cut (start + c.utf8Size) rest

theorem cut_append (span : Span) (start : Nat) (left right : Text) :
    span.cut start (left ++ right) =
      span.cut start left ++ span.cut (start + left.utf8Size) right := by
  induction left generalizing start with
  | nil => rfl
  | cons c rest ih =>
      rw [List.cons_append, cut, cut, ih, Text.utf8Size_cons, Nat.add_assoc]
      split <;> rfl

theorem cut_of_inside {span : Span} {start : Nat} {text : Text} (starts : span.start ≤ start)
    (stops : start + text.utf8Size ≤ span.stop) : span.cut start text = text := by
  induction text generalizing start with
  | nil => rfl
  | cons c rest ih =>
      have positive := c.utf8Size_pos
      rw [Text.utf8Size_cons] at stops
      rw [cut, if_pos ⟨starts, by omega⟩, ih (by omega) (by omega)]

theorem cut_of_outside {span : Span} {start : Nat} {text : Text}
    (apart : start + text.utf8Size ≤ span.start ∨ span.stop ≤ start) :
    span.cut start text = [] := by
  induction text generalizing start with
  | nil => rfl
  | cons c rest ih =>
      have positive := c.utf8Size_pos
      rw [Text.utf8Size_cons] at apart
      rw [cut, if_neg (by rw [Contains]; omega), ih (by omega)]

/-- The span of a part of a text cuts this part out. -/
theorem cut_of_append (before part after : Text) (start : Nat) :
    cut ⟨start + before.utf8Size, part.utf8Size⟩ start (before ++ (part ++ after)) = part := by
  have stops : start + before.utf8Size + part.utf8Size ≤
      (⟨start + before.utf8Size, part.utf8Size⟩ : Span).stop := Nat.le_refl _
  rw [cut_append, cut_append, cut_of_outside (Or.inl (Nat.le_refl _)),
    cut_of_inside (Nat.le_refl _) stops, cut_of_outside (Or.inr stops), List.append_nil,
    List.nil_append]

end Span

end TextCursor

import TextCursor.Offset
import TextCursor.Text.Basic

/-!
# Cursors

A cursor is a source and a position in it. The source never changes and the position is never
confined to it: a cursor may stand before the first character or after the last, where every reader
finds no character. The type holds that the source has fewer than `2 ^ 63` characters, so that every
place in it, and the place after its end, has an offset.
-/

namespace TextCursor

@[ext]
structure Cursor where
  source : Text
  position : Offset
  source_fits : source.length < 9223372036854775808
  deriving DecidableEq

namespace Cursor

/-- A cursor on the first character of a text; what no offset can reach is left out. -/
def ofText (text : Text) : Cursor where
  source := text.take 9223372036854775807
  position := 0
  source_fits := by
    have := List.length_take_le 9223372036854775807 text
    omega

theorem source_ofText {text : Text} (fits : text.length < 9223372036854775808) :
    (ofText text).source = text :=
  List.take_of_length_le (by omega)

instance : Inhabited Cursor := ⟨ofText []⟩

def length (cursor : Cursor) : Nat := cursor.source.length

/-- The place after the last character. -/
def stop (cursor : Cursor) : Offset :=
  ⟨cursor.length, by omega, by have := cursor.source_fits; rw [length]; omega⟩

def atEnd (cursor : Cursor) : Bool := cursor.stop.value ≤ cursor.position.value

def moveTo (cursor : Cursor) (place : Offset) : Cursor := { cursor with position := place }

/-- Moves by a signed number of characters, and no further than offsets go. -/
def moveBy (cursor : Cursor) (delta : Offset) : Cursor :=
  cursor.moveTo (cursor.position + delta)

def advance (cursor : Cursor) : Cursor := cursor.moveTo (cursor.position.forward 1)

def retreat (cursor : Cursor) : Cursor := cursor.moveTo (cursor.position.backward 1)

@[simp]
theorem source_moveTo (cursor : Cursor) (place : Offset) :
    (cursor.moveTo place).source = cursor.source := rfl

@[simp]
theorem position_moveTo (cursor : Cursor) (place : Offset) :
    (cursor.moveTo place).position = place := rfl

/-- The character at a place, if the place is inside the source. -/
def charAt? (cursor : Cursor) (place : Offset) : Option Char :=
  place.toNat?.bind fun index => cursor.source[index]?

def current (cursor : Cursor) : Option Char := cursor.charAt? cursor.position

/-- The character after the one under the cursor. -/
def peek (cursor : Cursor) : Option Char := cursor.charAt? (cursor.position.forward 1)

/-- The characters from the place `start` on and before the place `stop`, if there are any. -/
def between (cursor : Cursor) (start stop : Offset) : Text :=
  (cursor.source.take (stop.clip cursor.length)).drop (start.clip cursor.length)

/-- The characters of the `count` places from `start` on, if there are any. -/
def window (cursor : Cursor) (start : Offset) (count : Nat) : Text :=
  cursor.between start (start.forward count)

/-- The characters under the cursor and after it. -/
def remaining (cursor : Cursor) : Text := cursor.between cursor.position Offset.greatest

/-- What follows the cursor, the character under it first; nothing outside the source. -/
def ahead (cursor : Cursor) : Text :=
  match cursor.position.toNat? with
  | some index => cursor.source.drop index
  | none => []

def standsHere (cursor : Cursor) (target : Text) : Bool :=
  cursor.window cursor.position target.length == target

/-- Whether the text ends right before the cursor. -/
def standsBefore (cursor : Cursor) (target : Text) : Bool :=
  cursor.window (cursor.position.backward target.length) target.length == target

/-- Whether the text begins right after the character under the cursor. -/
def standsAfter (cursor : Cursor) (target : Text) : Bool :=
  cursor.window (cursor.position.forward 1) target.length == target

end Cursor

end TextCursor

import TextCursor.Cursor.Basic
import TextCursor.Distance

/-!
# Searching

A search looks for the first occurrence of a text at the cursor or after it. From a position
outside the source it starts at the nearer end. An empty text is found where the search starts.
-/

namespace TextCursor.Cursor

/-- The first place, not before the cursor, at which the text stands. -/
def find? (cursor : Cursor) (target : Text) : Option Nat :=
  let start := cursor.position.clip cursor.length
  (Text.indexOf? target (cursor.source.drop start)).map (start + ·)

/--
The characters strictly between the cursor and a landmark. A landmark that is right after the cursor
is at distance zero, and one that is under the cursor is out of reach.
-/
def distanceTo (cursor : Cursor) : Landmark → Distance
  | .beginning => .ofOffset cursor.position
  | .ending => .ofOffset ((cursor.stop - cursor.position).backward 1)
  | .text target =>
      match cursor.find? target with
      | some index => .ofOffset ((Offset.clamp index - cursor.position).backward 1)
      | none => .unreachable

/-- Texts with their distances, the nearest first and equally near ones in the order given. -/
def closest (cursor : Cursor) (targets : List Text) : List (Text × Distance) :=
  (targets.map fun target => (target, cursor.distanceTo (.text target))).mergeSort
    fun left right => left.2 ≤ right.2

/-- Moves to the first occurrence of a text, and to the place `-1` if there is none. -/
def jumpTo (cursor : Cursor) (target : Text) : Option Nat × Cursor :=
  match cursor.find? target with
  | some index => (some index, cursor.moveTo (.clamp index))
  | none => (none, cursor.moveTo (.clamp (-1)))

end TextCursor.Cursor

import TextCursor.Cursor.Search

/-!
# Extraction

The operations here read a text at the cursor and move past it. What they return is cut from the
source, so a cursor outside the source gets no more than what lies in it, while the position may
move by more characters than were there.
-/

namespace TextCursor

/-- A slice was asked for that would end before the position. -/
structure BackwardSlice where
  position : Offset
  length : Offset
  deriving DecidableEq

namespace BackwardSlice

def code : String := "stream::invalid_argument"

def message (cause : BackwardSlice) : String :=
  "cannot slice backwards from " ++ String.ofList (Decimal.ofInt cause.position.value) ++ " by " ++
    String.ofList (Decimal.ofInt cause.length.value)

def hint : String := "slice lengths must be non-negative; use `move_by` to step backwards"

end BackwardSlice

namespace Cursor

/--
The text up to the first occurrence of a target, moving onto that occurrence. Without an occurrence
there is no text and no move. A cursor that stands beyond the occurrence stays.
-/
def getUntil (cursor : Cursor) (target : Text) : Option Text × Cursor :=
  match cursor.find? target with
  | some index =>
      let place := Offset.clamp index
      (some (cursor.between cursor.position place), cursor.moveTo (max cursor.position place))
  | none => (none, cursor)

/-- A text of the given length, moving by that length even if the source ends sooner. -/
def slice (cursor : Cursor) (length : Offset) : Except BackwardSlice (Text × Cursor) :=
  match length.toNat? with
  | some count => .ok (cursor.window cursor.position count, cursor.moveBy length)
  | none => .error ⟨cursor.position, length⟩

/-- All that remains, moving after the last character. -/
def sliceToEnd (cursor : Cursor) : Text × Cursor :=
  (cursor.remaining, cursor.moveTo cursor.stop)

/-- Skips a text that stands at the cursor. -/
def skip (cursor : Cursor) (text : Text) : Text × Cursor :=
  (text, cursor.moveTo (cursor.position.forward text.length))

/-- Skips targets as often as they stand at the cursor, each time the first one that does. -/
def consume (cursor : Cursor) (targets : List Text) : Text × Cursor :=
  cursor.skip (Text.repeats targets cursor.ahead)

/-- Skips characters as long as a test accepts them, and returns the state of the test. -/
def consumeWhile {State : Type} (cursor : Cursor) (accept : State → Char → Bool × State)
    (state : State) : Text × State × Cursor :=
  let (taken, final) := Text.takeWhileFrom accept state cursor.ahead
  let (text, moved) := cursor.skip taken
  (text, final, moved)

end Cursor

end TextCursor

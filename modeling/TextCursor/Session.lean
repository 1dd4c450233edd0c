import TextCursor.Checkpoints
import TextCursor.Cursor.Basic

/-!
# Sessions

A session is a cursor with the checkpoints that were taken on it. Taking a checkpoint does not move
the cursor, and going back to one neither forgets it nor any other.
-/

namespace TextCursor

/-- A cursor and the positions that it was told to remember. -/
structure Session where
  cursor : Cursor
  checkpoints : Checkpoints
  deriving DecidableEq

namespace Session

/-- A session without checkpoints on the first character of a text. -/
def ofText (text : Text) : Session := ⟨.ofText text, .empty⟩

instance : Inhabited Session := ⟨ofText []⟩

def withCursor (session : Session) (cursor : Cursor) : Session :=
  { session with cursor := cursor }

@[simp]
theorem cursor_withCursor (session : Session) (cursor : Cursor) :
    (session.withCursor cursor).cursor = cursor := rfl

@[simp]
theorem checkpoints_withCursor (session : Session) (cursor : Cursor) :
    (session.withCursor cursor).checkpoints = session.checkpoints := rfl

/-- Remembers the position of the cursor under a name. -/
def checkpoint (session : Session) (name : Text) : Session :=
  { session with checkpoints := session.checkpoints.set name session.cursor.position }

/-- Moves back to the position of a name, if the name is known. -/
def rollback? (session : Session) (name : Text) : Option Session :=
  (session.checkpoints.get? name).map fun place =>
    session.withCursor (session.cursor.moveTo place)

end Session

end TextCursor

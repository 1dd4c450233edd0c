import TextCursor.Cursor.Extraction
import TextCursor.Script.Command
import TextCursor.Script.Outcome
import TextCursor.Session

/-!
# Execution of commands

`Session.execute` does one command on a session. Two commands can fail, a slice of negative length
and a return to an unknown checkpoint, and both leave the session as it was.
-/

namespace TextCursor.Session

open Script

/-- What a command comes to, and the session that it leaves. -/
def execute (session : Session) (command : Command) : Except Fault Outcome × Session :=
  let cursor := session.cursor
  match command with
  | .input text => (.ok .done, .ofText text)
  | .current => (.ok (.character cursor.current), session)
  | .advance => (.ok (.character cursor.advance.current), session.withCursor cursor.advance)
  | .retreat => (.ok (.character cursor.retreat.current), session.withCursor cursor.retreat)
  | .peek => (.ok (.character cursor.peek), session)
  | .position => (.ok (.offset cursor.position), session)
  | .remaining => (.ok (.text cursor.remaining), session)
  | .standsHere target => (.ok (.flag (cursor.standsHere target)), session)
  | .standsBefore target => (.ok (.flag (cursor.standsBefore target)), session)
  | .standsAfter target => (.ok (.flag (cursor.standsAfter target)), session)
  | .distanceTo landmark => (.ok (.distance (cursor.distanceTo landmark)), session)
  | .closest targets => (.ok (.ranking (cursor.closest targets)), session)
  | .checkpoint name => (.ok .done, session.checkpoint name)
  | .rollback name =>
      match session.rollback? name with
      | some restored => (.ok .done, restored)
      | none => (.error (.unknownCheckpoint name), session)
  | .getUntil target =>
      let (content?, reached) := cursor.getUntil target
      (.ok (.textIfAny content?), session.withCursor reached)
  | .slice (some length) =>
      match cursor.slice length with
      | .ok (content, reached) => (.ok (.text content), session.withCursor reached)
      | .error cause => (.error (.backwardSlice cause), session)
  | .slice none =>
      let (content, reached) := cursor.sliceToEnd
      (.ok (.text content), session.withCursor reached)
  | .moveBy delta => (.ok .done, session.withCursor (cursor.moveBy delta))
  | .moveTo place => (.ok .done, session.withCursor (cursor.moveTo place))
  | .jumpTo target =>
      let (place?, reached) := cursor.jumpTo target
      (.ok (.index place?), session.withCursor reached)
  | .consume targets =>
      let (content, reached) := cursor.consume targets
      (.ok (.text content), session.withCursor reached)

end TextCursor.Session

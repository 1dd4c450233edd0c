import TextCursor.Cursor.Extraction
import TextCursor.Session
import TextCursor.Text.CharacterClass

/-!
# Operations

An operation asks a session something or moves its cursor, and operations nest: `speculate` runs a
list of them and takes the moves back unless they are to be kept, and `fork` runs a list of them on
a copy of the cursor. `Operation.run` gives the answer of an operation and the session after it, and
`Operation.runAll` the record of a list of them.
-/

namespace TextCursor

/-- A test on characters that may depend on how many characters it has seen. -/
inductive CharacterTest where
  | digit
  | letter
  | whiteSpace
  | anything
  | nothing
  | among (accepted : Text)
  | outside (rejected : Text)
  | first (count : Nat)

namespace CharacterTest

/-- Whether the test accepts a character after having seen `seen` others. -/
def accepts (test : CharacterTest) (seen : Nat) (c : Char) : Bool :=
  match test with
  | digit => c.isDigit
  | letter => c.isAlpha
  | whiteSpace => isWhiteSpace c
  | anything => true
  | nothing => false
  | among accepted => accepted.contains c
  | outside rejected => !rejected.contains c
  | first count => seen < count

def step (test : CharacterTest) (seen : Nat) (c : Char) : Bool × Nat :=
  (test.accepts seen c, seen + 1)

end CharacterTest

/-- When the moves of a speculation are kept. -/
inductive Commitment where
  | always
  | never
  /-- If there was an operation and the answer of the last one is a success. -/
  | onSuccess

inductive Operation where
  | current
  | advance
  | retreat
  | peek
  | position
  | length
  | isEmpty
  | atEnd
  | remaining
  | source
  | standsHere (target : Text)
  | standsBefore (target : Text)
  | standsAfter (target : Text)
  | distanceTo (landmark : Landmark)
  | closest (targets : List Text)
  | checkpoint (name : Text)
  | rollback (name : Text)
  | speculate (body : List Operation) (commitment : Commitment)
  | fork (body : List Operation)
  /-- Whether the cursor is the one on the given text at the given place. -/
  | equals (text : Text) (place : Offset)
  | getUntil (target : Text)
  | slice (extent : Offset)
  | sliceToEnd
  | moveBy (delta : Offset)
  | moveTo (place : Offset)
  | jumpTo (target : Text)
  | consume (targets : List Text)
  | consumeWhile (test : CharacterTest)

/-- An answer with the state of the cursor after it was given. -/
structure Record (Answer : Type) where
  answer : Answer
  position : Offset
  atEnd : Bool

inductive Answer where
  | nothing
  | character (c? : Option Char)
  | offset (place : Offset)
  | count (number : Nat)
  | index (place? : Option Nat)
  | flag (value : Bool)
  | text (content : Text)
  | textIfAny (content? : Option Text)
  | characters (content : Text)
  | distance (amount : Distance)
  | ranking (places : List (Text × Distance))
  | refused (cause : BackwardSlice)
  | speculation (kept : Bool) (records : List (Record Answer))
  | forked (equal : Bool) (records : List (Record Answer))

/-- An answer fails by being absent, false or an empty text. -/
def Answer.succeeds : Answer → Bool
  | nothing => false
  | character c? => c?.isSome
  | index place? => place?.isSome
  | flag value => value
  | text content => !content.isEmpty
  | textIfAny content? => content?.any fun content => !content.isEmpty
  | _ => true

/-- Whether the moves that left these records are kept. -/
def Commitment.keeps (commitment : Commitment) (records : List (Record Answer)) : Bool :=
  match commitment with
  | always => true
  | never => false
  | onSuccess => records.getLast?.any fun record => record.answer.succeeds

namespace Operation

/-- Moves the cursor and answers with the character that it lands on. -/
def landing (session : Session) (cursor : Cursor) : Answer × Session :=
  (.character cursor.current, session.withCursor cursor)

mutual

/-- The answer of an operation and the session that it leaves. -/
def run (operation : Operation) (session : Session) : Answer × Session :=
  let cursor := session.cursor
  match operation with
  | current => (.character cursor.current, session)
  | advance => landing session cursor.advance
  | retreat => landing session cursor.retreat
  | peek => (.character cursor.peek, session)
  | position => (.offset cursor.position, session)
  | length => (.count cursor.length, session)
  | isEmpty => (.flag cursor.source.isEmpty, session)
  | atEnd => (.flag cursor.atEnd, session)
  | remaining => (.text cursor.remaining, session)
  | source => (.characters cursor.source, session)
  | standsHere target => (.flag (cursor.standsHere target), session)
  | standsBefore target => (.flag (cursor.standsBefore target), session)
  | standsAfter target => (.flag (cursor.standsAfter target), session)
  | distanceTo landmark => (.distance (cursor.distanceTo landmark), session)
  | closest targets => (.ranking (cursor.closest targets), session)
  | checkpoint name => (.offset cursor.position, session.checkpoint name)
  | rollback name => (.nothing, (session.rollback? name).getD session)
  | speculate body commitment =>
      let (records, reached) := runAll body session
      let kept := commitment.keeps records
      let back := reached.withCursor (reached.cursor.moveTo cursor.position)
      (.speculation kept records, if kept then reached else back)
  | fork body =>
      let (records, reached) := runAll body session
      (.forked (reached.cursor = cursor) records, reached.withCursor cursor)
  | equals text place => (.flag (cursor = (Cursor.ofText text).moveTo place), session)
  | getUntil target =>
      let (content?, moved) := cursor.getUntil target
      (.textIfAny content?, session.withCursor moved)
  | slice extent =>
      match cursor.slice extent with
      | .ok (content, moved) => (.text content, session.withCursor moved)
      | .error cause => (.refused cause, session)
  | sliceToEnd =>
      let (content, moved) := cursor.sliceToEnd
      (.text content, session.withCursor moved)
  | moveBy delta => landing session (cursor.moveBy delta)
  | moveTo place => landing session (cursor.moveTo place)
  | jumpTo target =>
      let (place?, moved) := cursor.jumpTo target
      (.index place?, session.withCursor moved)
  | consume targets =>
      let (content, moved) := cursor.consume targets
      (.text content, session.withCursor moved)
  | consumeWhile test =>
      let (content, _, moved) := cursor.consumeWhile test.step 0
      (.text content, session.withCursor moved)

/-- The records of operations done one after the other, and the session that they leave. -/
def runAll (operations : List Operation) (session : Session) :
    List (Record Answer) × Session :=
  match operations with
  | [] => ([], session)
  | operation :: rest =>
      let (answer, reached) := run operation session
      let (records, final) := runAll rest reached
      (⟨answer, reached.cursor.position, reached.cursor.atEnd⟩ :: records, final)

end

end Operation

end TextCursor

import TextCursor.Checked
import TextCursor.Cursor.Extraction

/-!
# Checked cursors

The operations of a cursor, done by steps that can fail. A part of the source is taken between two
places that are kept inside it, a text is searched window by window, and what a loop returns is
taken from the source after the loop has moved. A turn of a loop has to get nearer to the end of the
source, so that there is a last one.
-/

namespace TextCursor

/-- The number of moves by one character after which a cursor is at the end or beyond it. -/
def Cursor.toGo (cursor : Cursor) : Nat := (cursor.length - cursor.position.value).toNat

namespace Checked

variable (cursor : Cursor)

/-! ### Places and parts of the source -/

def stop : Checked Offset := offset cursor.length

def atEnd : Checked Bool := do
  return (← stop cursor).value ≤ cursor.position.value

/-- The place of the source that is nearest to an offset, its end included. -/
def clip (place : Offset) : Checked Nat := do
  count (← confine place 0 (← stop cursor))

def window (start : Offset) (count : Nat) : Checked Text := do
  let lower ← clip cursor start
  let upper ← clip cursor (start.forward count)
  part cursor.source lower upper

/-- The characters between two offsets, none if the second one is before the first one. -/
def between (start stop : Offset) : Checked Text :=
  window cursor start ((stop - start).toNat?.getD 0)

def remaining : Checked Text := window cursor (max cursor.position 0) 18446744073709551615

def standsHere (target : Text) : Checked Bool := do
  return (← window cursor cursor.position target.length) == target

def standsBefore (target : Text) : Checked Bool := do
  return (← window cursor (cursor.position.backward target.length) target.length) == target

def standsAfter (target : Text) : Checked Bool := do
  return (← window cursor (cursor.position.forward 1) target.length) == target

/-! ### Searches -/

/-- Looks for a text in the part of the source from the cursor on, window by window. -/
def find? (target : Text) : Checked (Option Nat) := do
  let start ← clip cursor cursor.position
  if target.isEmpty then
    return some start
  else
    let rest ← part cursor.source start cursor.length
    match (← windows rest target.length).findIdx? (· == target) with
    | some index => return some (← sum start index)
    | none => return none

def distanceTo : Landmark → Checked Distance
  | .beginning => return .ofOffset cursor.position
  | .ending => do
      return .ofOffset (((← stop cursor) - cursor.position).backward 1)
  | .text target => do
      match ← find? cursor target with
      | some index => return .ofOffset (((← offset index) - cursor.position).backward 1)
      | none => return .unreachable

def closest (targets : List Text) : Checked (List (Text × Distance)) := do
  let distances ← targets.mapM fun target => do
    return (target, ← distanceTo cursor (.text target))
  return distances.mergeSort fun left right => left.2 ≤ right.2

def jumpTo (target : Text) : Checked (Option Nat × Cursor) := do
  match ← find? cursor target with
  | some index => return (some index, cursor.moveTo (← offset index))
  | none => return (none, cursor.moveTo (.clamp (-1)))

/-! ### Extraction -/

def getUntil (target : Text) : Checked (Option Text × Cursor) := do
  match ← find? cursor target with
  | some index =>
      let start := max cursor.position 0
      let content ← window cursor start (index - (← count start))
      return (some content, cursor.moveTo (max cursor.position (← offset index)))
  | none => return (none, cursor)

def slice (length : Offset) : Checked (Except BackwardSlice (Text × Cursor)) := do
  match length.toNat? with
  | some count => return .ok (← window cursor cursor.position count, cursor.moveBy length)
  | none => return .error ⟨cursor.position, length⟩

def sliceToEnd : Checked (Text × Cursor) := do
  let content ← window cursor cursor.position 18446744073709551615
  return (content, cursor.moveTo (← stop cursor))

/-- The first target that is not empty and stands at the cursor. -/
def leading? (targets : List Text) : Checked (Option Text) :=
  targets.findM? fun target => do
    if target.isEmpty then return false else standsHere cursor target

/-- Moves past targets as long as one stands at the cursor. -/
def passTargets (cursor : Cursor) (targets : List Text) : Checked Cursor := do
  match ← leading? cursor targets with
  | none => return cursor
  | some target =>
      let moved := cursor.moveBy (← offset target.length)
      if moved.toGo < cursor.toGo then
        passTargets moved targets
      else
        .error .standstill
termination_by cursor.toGo

/-- Moves past characters as long as a test accepts them. -/
def passWhile {State : Type} (cursor : Cursor) (accept : State → Char → Bool × State)
    (state : State) : Checked (State × Cursor) :=
  match cursor.current with
  | none => return (state, cursor)
  | some c =>
      match accept state c with
      | (false, final) => return (final, cursor)
      | (true, following) => do
          let moved := cursor.moveTo (← next cursor.position)
          if moved.toGo < cursor.toGo then
            passWhile moved accept following
          else
            .error .standstill
termination_by cursor.toGo

def consume (targets : List Text) : Checked (Text × Cursor) := do
  let moved ← passTargets cursor targets
  return (← between cursor cursor.position moved.position, moved)

def consumeWhile {State : Type} (cursor : Cursor) (accept : State → Char → Bool × State)
    (state : State) : Checked (Text × State × Cursor) := do
  let (final, moved) ← passWhile cursor accept state
  return (← between cursor cursor.position moved.position, final, moved)

/-- Skips the characters that a test accepts. -/
def takeWhile (test : Char → Bool) : Checked (Text × Cursor) := do
  let (taken, _, moved) ← consumeWhile cursor (fun (_ : Unit) c => (test c, ())) ()
  return (taken, moved)

end Checked

end TextCursor

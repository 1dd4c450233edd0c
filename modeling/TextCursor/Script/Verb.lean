import TextCursor.Text.Basic

/-!
# Verbs

The verb of a command says what is to be done. There are twenty, each with the word that calls it,
and `Verb.ofText?` reads exactly these words.
-/

namespace TextCursor.Script

inductive Verb where
  | input
  | current
  | advance
  | retreat
  | peek
  | position
  | remaining
  | standsHere
  | standsBefore
  | standsAfter
  | distanceTo
  | closest
  | checkpoint
  | rollback
  | getUntil
  | slice
  | moveBy
  | moveTo
  | jumpTo
  | consume
  deriving DecidableEq

namespace Verb

def all : List Verb :=
  [input, current, advance, retreat, peek, position, remaining, standsHere, standsBefore,
    standsAfter, distanceTo, closest, checkpoint, rollback, getUntil, slice, moveBy, moveTo,
    jumpTo, consume]

/-- The word that calls for it. -/
def word : Verb → Text
  | input => "input".toList
  | current => "current".toList
  | advance => "advance".toList
  | retreat => "retreat".toList
  | peek => "peek".toList
  | position => "cursor".toList
  | remaining => "remaining".toList
  | standsHere => "matches".toList
  | standsBefore => "before".toList
  | standsAfter => "after".toList
  | distanceTo => "distance-to".toList
  | closest => "closest".toList
  | checkpoint => "checkpoint".toList
  | rollback => "rollback".toList
  | getUntil => "get-until".toList
  | slice => "slice".toList
  | moveBy => "move".toList
  | moveTo => "move-to".toList
  | jumpTo => "jump-to".toList
  | consume => "consume".toList

def ofText? (text : Text) : Option Verb := all.find? fun verb => verb.word == text

theorem mem_all (verb : Verb) : verb ∈ all := by
  cases verb <;> decide

@[simp]
theorem ofText?_word (verb : Verb) : ofText? verb.word = some verb := by
  cases verb <;> decide

theorem ofText?_eq_some_iff {text : Text} {verb : Verb} :
    ofText? text = some verb ↔ text = verb.word := by
  constructor
  · intro found
    have same := List.find?_some found
    exact (beq_iff_eq.1 same).symm
  · rintro rfl
    exact ofText?_word verb

end Verb

end TextCursor.Script

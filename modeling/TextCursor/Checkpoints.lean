import TextCursor.Offset
import TextCursor.Text.Basic

/-!
# Checkpoints

A checkpoint is a position that was given a name. `Checkpoints` holds the latest position of each
name: `get?_set_self` and `get?_set_of_ne` say what a later look-up finds.
-/

namespace TextCursor

/-- Positions under names, no name twice. -/
structure Checkpoints where
  entries : List (Text × Offset)
  deriving DecidableEq

namespace Checkpoints

def empty : Checkpoints := ⟨[]⟩

def get? (checkpoints : Checkpoints) (name : Text) : Option Offset :=
  checkpoints.entries.lookup name

/-- Gives a position a name, which no other position keeps. -/
def set (checkpoints : Checkpoints) (name : Text) (position : Offset) : Checkpoints :=
  ⟨(name, position) :: checkpoints.entries.filter fun entry => entry.1 != name⟩

@[simp]
theorem get?_empty (name : Text) : empty.get? name = none := rfl

@[simp]
theorem get?_set_self (checkpoints : Checkpoints) (name : Text) (position : Offset) :
    (checkpoints.set name position).get? name = some position := by
  simp [get?, set]

theorem get?_set_of_ne {name other : Text} (differ : other ≠ name) (checkpoints : Checkpoints)
    (position : Offset) :
    (checkpoints.set name position).get? other = checkpoints.get? other := by
  have apart : (other == name) = false := by simpa using differ
  simp only [get?, set, List.lookup_cons, apart]
  induction checkpoints.entries with
  | nil => rfl
  | cons entry rest ih =>
      obtain ⟨key, value⟩ := entry
      by_cases same : key = name
      · subst same
        simpa [List.lookup_cons, apart] using ih
      · by_cases found : other = key <;> simp_all [List.lookup_cons]

end Checkpoints

end TextCursor

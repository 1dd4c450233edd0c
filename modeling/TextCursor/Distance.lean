import TextCursor.Offset
import TextCursor.Text.Decimal

/-!
# Distances

A distance counts the characters strictly between a cursor and what it looks for. What cannot be
reached by moving forward is `unreachable`, and that is further away than every count, so distances
are totally ordered.
-/

namespace TextCursor

/-- The characters between a cursor and a landmark. -/
inductive Distance where
  | chars (count : Nat)
  | unreachable
  deriving DecidableEq

/-- What a distance is measured to. -/
inductive Landmark where
  /-- The first character of the source. -/
  | beginning
  /-- The last character of the source. -/
  | ending
  /-- The first occurrence of a text at the cursor or after it. -/
  | text (target : Text)
  deriving DecidableEq

namespace Distance

/-- The distance that is the given number, where negative numbers are out of reach. -/
def ofOffset (offset : Offset) : Distance :=
  match offset.toNat? with
  | some count => chars count
  | none => unreachable

def count? : Distance → Option Nat
  | chars count => some count
  | unreachable => none

def isReachable (distance : Distance) : Bool := distance.count?.isSome

protected def le : Distance → Distance → Bool
  | _, unreachable => true
  | unreachable, chars _ => false
  | chars left, chars right => left ≤ right

instance : LE Distance := ⟨fun left right => left.le right = true⟩

instance (left right : Distance) : Decidable (left ≤ right) :=
  inferInstanceAs (Decidable (left.le right = true))

instance : Ord Distance :=
  ⟨fun left right => if left = right then .eq else if left ≤ right then .lt else .gt⟩

def render : Distance → Text
  | chars count => Decimal.ofNat count
  | unreachable => "unreachable".toList

@[simp]
theorem render_chars (count : Nat) : (chars count).render = Decimal.ofNat count := rfl

@[simp]
theorem render_unreachable : unreachable.render = "unreachable".toList := rfl

end Distance

end TextCursor

import TextCursor.Offset
import TextCursor.Span
import TextCursor.Text.Basic

/-!
# Checked steps

Steps that can fail: a part is taken of a text, a count is turned into an offset or back, a sum is
to fit in 64 bits, a number is kept between two bounds, two bounds are to enclose a span. `Breach`
tells which step has failed. A sum that does not fit fails on some machines only, which is what
`Arithmetic` is about.
-/

namespace TextCursor

/-- What cannot be done. -/
inductive Breach where
  /-- A number is converted to a type that it is not a number of. -/
  | inexact
  /-- A sum or a difference is out of range. -/
  | overflow
  /-- A number is to be kept between two bounds, and the lower one is above the upper one. -/
  | crossedBounds
  /-- A part is taken of a text, or an entry of a table, that it does not have. -/
  | outside
  /-- A text is looked at through windows that are no character wide. -/
  | noWidth
  /-- Two bounds enclose no span. -/
  | span (fault : SpanFault)
  /-- A turn of a loop has come no nearer to the end of the source. -/
  | standstill
  deriving DecidableEq

abbrev Checked := Except Breach

namespace Checked

@[simp]
theorem ok_bind {Value Result : Type} (value : Value) (next : Value → Checked Result) :
    (Except.ok value >>= next) = next value := rfl

@[simp]
theorem pure_eq_ok {Value : Type} (value : Value) : (pure value : Checked Value) = .ok value := rfl

/-- The value that is there, and the breach if there is none. -/
def require {Value : Type} (breach : Breach) : Option Value → Checked Value
  | some value => .ok value
  | none => .error breach

/-- The offset that is the given count. -/
def offset (count : Nat) : Checked Offset := require .inexact (Offset.ofInt? count)

/-- The count that is the given offset. -/
def count (place : Offset) : Checked Nat := require .inexact place.toNat?

/-- The offset after the given one. -/
def next (place : Offset) : Checked Offset := require .overflow (Offset.ofInt? (place.value + 1))

/-- A sum of counts. -/
def sum (left right : Nat) : Checked Nat :=
  if left + right < 18446744073709551616 then .ok (left + right) else .error .overflow

/-- A difference of counts. -/
def difference (left right : Nat) : Checked Nat :=
  if right ≤ left then .ok (left - right) else .error .overflow

/-- The offset itself between the bounds, and the nearer bound elsewhere. -/
def confine (place lower upper : Offset) : Checked Offset :=
  if upper.value < lower.value then .error .crossedBounds
  else if place.value < lower.value then .ok lower
  else if upper.value < place.value then .ok upper
  else .ok place

/-- The characters of a text from a place on and before another one. -/
def part (text : Text) (lower upper : Nat) : Checked Text :=
  if lower ≤ upper ∧ upper ≤ text.length then .ok ((text.take upper).drop lower)
  else .error .outside

/-- The parts of a text that have the given length, in order. -/
def windows (text : Text) (width : Nat) : Checked (List Text) :=
  if width = 0 then .error .noWidth
  else .ok ((List.range (text.length + 1 - width)).map fun first => (text.drop first).take width)

/-- The span between two bounds, which are to enclose one. -/
def spanning (start stop : Bound) : Checked Span :=
  match Span.spanning start stop with
  | .ok span => .ok span
  | .error fault => .error (.span fault)

theorem sum_eq {left right : Nat} (fits : left + right < 18446744073709551616) :
    sum left right = .ok (left + right) := by
  rw [sum, if_pos fits]

theorem sum_eq_overflow {left right : Nat} (beyond : 18446744073709551616 ≤ left + right) :
    sum left right = .error .overflow := by
  rw [sum, if_neg (Nat.not_lt.2 beyond)]

theorem part_eq {text : Text} {lower upper : Nat} (ordered : lower ≤ upper)
    (inside : upper ≤ text.length) : part text lower upper = .ok ((text.take upper).drop lower) :=
  if_pos ⟨ordered, inside⟩

example : part ['a', 'b'] 2 1 = .error .outside := rfl

theorem spanning_eq {first last : Nat} (ordered : first ≤ last) :
    spanning (.included first) (.excluded last) = .ok ⟨first, last - first⟩ := by
  have spanned : Span.spanning (.included first) (.excluded last) = .ok ⟨first, last - first⟩ :=
    if_pos ordered
  rw [spanning, spanned]

end Checked

/-- What a machine does about a sum that does not fit in 64 bits. -/
inductive Arithmetic where
  /-- It stops. -/
  | trapping
  /-- It drops the bits that are too many. -/
  | wrapping
  deriving DecidableEq

namespace Arithmetic

def sum (arithmetic : Arithmetic) (left right : Nat) : Checked Nat :=
  match arithmetic with
  | trapping => Checked.sum left right
  | wrapping => .ok ((left + right) % 18446744073709551616)

/-- A sum that fits is the same on every machine. -/
theorem sum_eq (arithmetic : Arithmetic) {left right : Nat}
    (fits : left + right < 18446744073709551616) :
    arithmetic.sum left right = .ok (left + right) := by
  cases arithmetic with
  | trapping => exact Checked.sum_eq fits
  | wrapping => rw [sum, Nat.mod_eq_of_lt fits]

end Arithmetic

end TextCursor

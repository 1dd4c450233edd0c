/-!
# Offsets

An offset is a whole number between `-2 ^ 63` and `2 ^ 63 - 1`, where `2 ^ 63` is written out as
`9223372036854775808` so that linear arithmetic sees a numeral. A cursor stands at an offset, and it
may stand before the first character or after the last, so offsets are signed and nothing ties them
to the length of a text. Sums that leave the range stop at its nearer end; `clamp` is that rule, and
every operation below is `clamp` of the exact result.
-/

namespace TextCursor

/-- A whole number that fits in 64 bits with a sign. -/
@[ext]
structure Offset where
  value : Int
  least_le : -9223372036854775808 ≤ value
  value_lt : value < 9223372036854775808
  deriving DecidableEq

namespace Offset

def least : Offset := ⟨-9223372036854775808, by decide, by decide⟩

def greatest : Offset := ⟨9223372036854775807, by decide, by decide⟩

instance : OfNat Offset 0 := ⟨⟨0, by decide, by decide⟩⟩

instance : Inhabited Offset := ⟨0⟩

@[simp]
theorem value_zero : (0 : Offset).value = 0 := rfl

/-- The number itself if it is in range, and the nearer end of the range otherwise. -/
def clamp (number : Int) : Offset :=
  ⟨max (-9223372036854775808) (min number 9223372036854775807), by omega, by omega⟩

theorem value_clamp (number : Int) :
    (clamp number).value = max (-9223372036854775808) (min number 9223372036854775807) := rfl

theorem value_clamp_of_fits {number : Int} (atLeast : -9223372036854775808 ≤ number)
    (below : number < 9223372036854775808) : (clamp number).value = number := by
  rw [value_clamp]; omega

@[simp]
theorem clamp_value (offset : Offset) : clamp offset.value = offset :=
  Offset.ext (value_clamp_of_fits offset.least_le offset.value_lt)

def ofInt? (number : Int) : Option Offset :=
  if fits : -9223372036854775808 ≤ number ∧ number < 9223372036854775808 then
    some ⟨number, fits.1, fits.2⟩
  else
    none

@[simp]
theorem ofInt?_value (offset : Offset) : ofInt? offset.value = some offset := by
  rw [ofInt?, dif_pos ⟨offset.least_le, offset.value_lt⟩]

theorem ofInt?_eq_some_iff {number : Int} {offset : Offset} :
    ofInt? number = some offset ↔ offset.value = number := by
  constructor
  · intro found
    rw [ofInt?] at found
    split at found
    · cases found; rfl
    · cases found
  · rintro rfl
    exact ofInt?_value offset

theorem ofInt?_eq_none_iff {number : Int} :
    ofInt? number = none ↔ number < -9223372036854775808 ∨ 9223372036854775808 ≤ number := by
  rw [ofInt?]
  split
  · simp only [reduceCtorEq, false_iff]
    omega
  · simp only [true_iff]
    omega

instance : Add Offset := ⟨fun left right => clamp (left.value + right.value)⟩

instance : Sub Offset := ⟨fun left right => clamp (left.value - right.value)⟩

theorem value_add (left right : Offset) :
    (left + right).value =
      max (-9223372036854775808) (min (left.value + right.value) 9223372036854775807) := rfl

theorem value_sub (left right : Offset) :
    (left - right).value =
      max (-9223372036854775808) (min (left.value - right.value) 9223372036854775807) := rfl

def forward (offset : Offset) (count : Nat) : Offset := clamp (offset.value + count)

def backward (offset : Offset) (count : Nat) : Offset := clamp (offset.value - count)

theorem value_forward (offset : Offset) (count : Nat) :
    (offset.forward count).value =
      max (-9223372036854775808) (min (offset.value + count) 9223372036854775807) := rfl

theorem value_backward (offset : Offset) (count : Nat) :
    (offset.backward count).value =
      max (-9223372036854775808) (min (offset.value - count) 9223372036854775807) := rfl

instance : Max Offset := ⟨fun left right => if left.value ≤ right.value then right else left⟩

theorem value_max (left right : Offset) : (max left right).value = max left.value right.value := by
  rw [Int.max_def]
  exact apply_ite Offset.value ..

/-- The offset as a count, if it is not negative. -/
def toNat? (offset : Offset) : Option Nat :=
  if offset.value < 0 then none else some offset.value.toNat

/-- The count between `0` and `limit` that is nearest to the offset. -/
def clip (offset : Offset) (limit : Nat) : Nat := min offset.value.toNat limit

theorem clip_le (offset : Offset) (limit : Nat) : offset.clip limit ≤ limit :=
  Nat.min_le_right ..

theorem clip_mono {left right : Offset} (ordered : left.value ≤ right.value) (limit : Nat) :
    left.clip limit ≤ right.clip limit := by
  unfold clip; omega

end Offset

end TextCursor

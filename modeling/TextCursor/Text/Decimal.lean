import TextCursor.Text.Basic

/-!
# Decimal numbers

Whole numbers are written without leading zeros and with a minus sign when negative. They are read
from any non-empty row of digits, leading zeros included.
-/

namespace TextCursor.Decimal

def ofNat (number : Nat) : Text := Nat.toDigits 10 number

def ofInt (number : Int) : Text :=
  if number < 0 then '-' :: ofNat number.natAbs else ofNat number.natAbs

/-- The number that a row of decimal digits stands for. -/
def toNat (digits : Text) : Nat := Nat.ofDigitChars 10 digits 0

@[simp]
theorem toNat_ofNat (number : Nat) : toNat (ofNat number) = number :=
  Nat.ofDigitChars_ten_toDigits

end TextCursor.Decimal

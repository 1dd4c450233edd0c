import TextCursor.Text.Basic

/-!
# Character classes

Blanks separate the words of a script, white space is what Unicode calls so and is cut from the end
of an expectation, and control characters are never written raw in a rendering.
-/

namespace TextCursor

/-- A space, a tab or a carriage return. -/
def isBlank (c : Char) : Bool := c = ' ' || c = '\t' || c = '\r'

/-- The ranges of the Unicode property `White_Space`, both ends included. -/
def whiteSpaceRanges : List (Nat × Nat) :=
  [(0x09, 0x0D), (0x20, 0x20), (0x85, 0x85), (0xA0, 0xA0), (0x1680, 0x1680), (0x2000, 0x200A),
    (0x2028, 0x2029), (0x202F, 0x202F), (0x205F, 0x205F), (0x3000, 0x3000)]

def isWhiteSpace (c : Char) : Bool :=
  whiteSpaceRanges.any fun range => range.1 ≤ c.toNat && c.toNat ≤ range.2

/-- A character of the Unicode category `Cc`. -/
def isControl (c : Char) : Bool :=
  c.toNat ≤ 0x1F || (0x7F ≤ c.toNat && c.toNat ≤ 0x9F)

theorem isWhiteSpace_of_isBlank {c : Char} (blank : isBlank c = true) : isWhiteSpace c = true := by
  simp only [isBlank, Bool.or_eq_true, decide_eq_true_eq] at blank
  rcases blank with (rfl | rfl) | rfl <;> decide

namespace Text

/-- The text without the white space at its end. -/
def trimEnd (text : Text) : Text := (text.reverse.dropWhile isWhiteSpace).reverse

end Text

end TextCursor

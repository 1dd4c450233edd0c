import TextCursor.Script.Line

/-!
# Layouts

A layout is a line of a script as it is written: its blanks, its lexemes and the way in which it
ends, each with its spelling. It tells which texts are lines without telling how they are read.
Every part carries what makes it well formed, so the one condition on a layout as a whole is
`Layout.Separated`: no word and no integer is followed by a character that would continue it.
`Layout.line` is what the tokens, the expectation and their spans of a written line have to be.
-/

namespace TextCursor

namespace Decimal

def sign : Bool → Text
  | true => ['-']
  | false => []

def signed (negative : Bool) (magnitude : Nat) : Int :=
  if negative then -magnitude else magnitude

end Decimal

namespace Script

/-- A character of a string literal as it is written, as itself or by a letter after a backslash. -/
inductive Glyph where
  | plain (c : Char) (notQuote : c ≠ '"') (notBackslash : c ≠ '\\')
  | escaped (letter c : Char) (known : unescape? letter = some c)

namespace Glyph

def text : Glyph → Text
  | plain c _ _ => [c]
  | escaped letter _ _ => ['\\', letter]

def char : Glyph → Char
  | plain c _ _ => c
  | escaped _ c _ => c

/-- The spelling of a row of glyphs. -/
def spell (glyphs : List Glyph) : Text := glyphs.flatMap text

@[simp]
theorem spell_nil : spell [] = [] := rfl

@[simp]
theorem spell_cons (glyph : Glyph) (glyphs : List Glyph) :
    spell (glyph :: glyphs) = glyph.text ++ spell glyphs := rfl

theorem eq_of_spell_eq {left right : List Glyph} (same : spell left = spell right) :
    left = right := by
  induction left generalizing right with
  | nil =>
      cases right with
      | nil => rfl
      | cons glyph rest => cases glyph <;> simp [text] at same
  | cons glyph rest ih =>
      cases right with
      | nil => cases glyph <;> simp [text] at same
      | cons other others =>
          cases glyph with
          | plain c notQuote notBackslash =>
              cases other with
              | plain d _ _ =>
                  simp only [spell_cons, text, List.cons_append, List.nil_append,
                    List.cons.injEq] at same
                  rcases same with ⟨rfl, sameRest⟩
                  rw [ih sameRest]
              | escaped letter d _ =>
                  simp only [spell_cons, text, List.cons_append, List.nil_append,
                    List.cons.injEq] at same
                  exact absurd same.1 notBackslash
          | escaped letter c known =>
              cases other with
              | plain d _ notBackslash =>
                  simp only [spell_cons, text, List.cons_append, List.nil_append,
                    List.cons.injEq] at same
                  exact absurd same.1.symm notBackslash
              | escaped otherLetter d otherKnown =>
                  simp only [spell_cons, text, List.cons_append, List.nil_append,
                    List.cons.injEq] at same
                  rcases same with ⟨-, rfl, sameRest⟩
                  rw [known] at otherKnown
                  cases otherKnown
                  rw [ih sameRest]

end Glyph

inductive Spelling where
  | word (first : Char) (rest : Text) (starts : isWordStart first = true)
      (continues : ∀ c ∈ rest, isWordPart c = true)
  | integer (negative : Bool) (digits : Text) (number : Offset) (nonempty : digits ≠ [])
      (decimal : ∀ c ∈ digits, c.isDigit = true)
      (value : number.value = Decimal.signed negative (Decimal.toNat digits))
  | string (glyphs : List Glyph)
  | marker (sign : Marker)

namespace Spelling

def text : Spelling → Text
  | word first rest _ _ => first :: rest
  | integer negative digits _ _ _ _ => Decimal.sign negative ++ digits
  | string glyphs => '"' :: (Glyph.spell glyphs ++ ['"'])
  | marker sign => [sign.sign]

def token : Spelling → Token
  | word first rest _ _ => .word (first :: rest)
  | integer _ _ number _ _ _ => .integer number
  | string glyphs => .string (glyphs.map Glyph.char)
  | marker sign => .marker sign

/-- Whether a lexeme ends where the given text begins, which does not continue it. -/
def EndsBefore : Spelling → Text → Prop
  | word .., rest => ∀ c ∈ rest.head?, isWordPart c = false
  | integer .., rest => ∀ c ∈ rest.head?, isWordPart c = false
  | string _, _ => True
  | marker _, _ => True

def lexeme (spelling : Spelling) (rest : Text) : Lexeme :=
  ⟨spelling.token, spelling.text, rest⟩

theorem endsBefore_nil (spelling : Spelling) : spelling.EndsBefore [] := by
  cases spelling <;> simp [EndsBefore]

/-- A lexeme that ends before a text ends before every shorter part at its start. -/
theorem endsBefore_of_leads {spelling : Spelling} {rest shorter : Text}
    (leads : shorter <+: rest) (ends : spelling.EndsBefore rest) : spelling.EndsBefore shorter := by
  have heads : ∀ c ∈ shorter.head?, c ∈ rest.head? := by
    rcases leads with ⟨tail, rfl⟩
    intro c first
    cases shorter with
    | nil => cases first
    | cons d more => exact first
  cases spelling with
  | word first more starts continues => exact fun c mem => ends c (heads c mem)
  | integer negative digits number nonempty decimal value => exact fun c mem => ends c (heads c mem)
  | string glyphs => trivial
  | marker sign => trivial

end Spelling

inductive Layout where
  | done
  /-- A number sign and anything after it. -/
  | comment (remark : Text)
  /-- An arrow and anything after it. -/
  | expectation (expected : Text)
  | blank (c : Char) (spacing : isBlank c = true) (rest : Layout)
  | lexeme (spelling : Spelling) (rest : Layout)

namespace Layout

def text : Layout → Text
  | done => []
  | comment remark => '#' :: remark
  | expectation expected => '=' :: '>' :: expected
  | blank c _ rest => c :: rest.text
  | lexeme spelling rest => spelling.text ++ rest.text

/-- Whether every lexeme ends where it is said to. -/
def Separated : Layout → Prop
  | done => True
  | comment _ => True
  | expectation _ => True
  | blank _ _ rest => rest.Separated
  | lexeme spelling rest => spelling.EndsBefore rest.text ∧ rest.Separated

def tokens : Layout → List Token
  | done => []
  | comment _ => []
  | expectation _ => []
  | blank _ _ rest => rest.tokens
  | lexeme spelling rest => spelling.token :: rest.tokens

/-- What comes after the arrow, without the blanks before it and the white space after it. -/
def expected? : Layout → Option Text
  | done => none
  | comment _ => none
  | expectation expected => some (Text.trimEnd (expected.dropWhile isBlank))
  | blank _ _ rest => rest.expected?
  | lexeme _ rest => rest.expected?

/-- What the line says if it starts at the given byte. -/
def line (start : Nat) : Layout → Line
  | done => ⟨[], none⟩
  | comment _ => ⟨[], none⟩
  | expectation expected => ⟨[], some (Line.readExpectation (start + 2) expected)⟩
  | blank c _ rest => rest.line (start + c.utf8Size)
  | lexeme spelling rest =>
      (rest.line (start + spelling.text.utf8Size)).cons
        ((spelling.lexeme rest.text).spanned start)

theorem value_tokens_line (layout : Layout) (start : Nat) :
    (layout.line start).tokens.map Spanned.value = layout.tokens := by
  induction layout generalizing start with
  | done => rfl
  | comment remark => rfl
  | expectation expected => rfl
  | blank c _ rest ih => exact ih (start + c.utf8Size)
  | lexeme spelling rest ih =>
      simp only [line, tokens, Line.cons, List.map_cons, ih]
      rfl

theorem value_expectation_line (layout : Layout) (start : Nat) :
    (layout.line start).expectation?.map Spanned.value = layout.expected? := by
  induction layout generalizing start with
  | done => rfl
  | comment remark => rfl
  | expectation expected => rfl
  | blank c _ rest ih => exact ih (start + c.utf8Size)
  | lexeme spelling rest ih =>
      simp only [line, expected?, Line.cons, ih]

end Layout

end Script

end TextCursor

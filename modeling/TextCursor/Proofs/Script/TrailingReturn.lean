import TextCursor.Proofs.Script.Expectation
import TextCursor.Proofs.Script.FirstOffence

/-!
# Lines with a return at the end

A carriage return at the end of a line is a blank after its last lexeme, a part of its comment, or
white space after its expectation, so it is read with the line and nothing else changes. In a string
literal that has no end, it is one more character, and there it is seen in one case: if the line
ends in a backslash that begins an escape, then it is the return that should be escaped.
-/

namespace TextCursor

namespace Text

/-- A line with a carriage return at its end. -/
def returned (line : Text) : Text := line ++ ['\r']

theorem returned_append (before rest : Text) :
    returned (before ++ rest) = before ++ returned rest :=
  List.append_assoc ..

theorem utf8Size_returned (line : Text) : (returned line).utf8Size = line.utf8Size + 1 := by
  have oneByte : '\r'.utf8Size = 1 := rfl
  simp only [returned, utf8Size_append, utf8Size_cons, utf8Size_nil, oneByte, Nat.add_zero]

theorem trimEnd_returned (text : Text) : trimEnd (returned text) = trimEnd text := by
  have space : isWhiteSpace '\r' = true := by decide
  simp only [trimEnd, returned, List.reverse_append, List.reverse_singleton,
    List.singleton_append, List.dropWhile_cons_of_pos space]

theorem trimEnd_dropWhile_returned (text : Text) :
    trimEnd ((returned text).dropWhile isBlank) = trimEnd (text.dropWhile isBlank) := by
  have blank : isBlank '\r' = true := by decide
  by_cases nothing : text.dropWhile isBlank = []
  · simp only [returned, List.dropWhile_append, nothing, List.isEmpty_nil, if_true,
      List.dropWhile_cons_of_pos blank, List.dropWhile_nil]
  · simp only [returned, List.dropWhile_append, List.isEmpty_iff, nothing, if_false]
    exact trimEnd_returned (text.dropWhile isBlank)

theorem stops_return : ∀ c ∈ (['\r'] : Text).head?, Script.isWordPart c = false := by
  intro c first
  cases first
  decide

/-- A test that rejects the return rejects the first character of what is there and a return. -/
theorem stops_returned {test : Char → Bool} {rest : Text} (noReturn : test '\r' = false)
    (stops : ∀ c ∈ rest.head?, test c = false) : ∀ c ∈ (returned rest).head?, test c = false := by
  intro c first
  cases rest with
  | nil =>
      cases first
      exact noReturn
  | cons d more => exact stops c first

end Text

namespace Script

/-! ### Lines that can be read -/

namespace Layout

/-- The layout of a line with a carriage return at its end. -/
def returned : Layout → Layout
  | done => blank '\r' rfl done
  | comment remark => comment (Text.returned remark)
  | expectation expected => expectation (Text.returned expected)
  | blank c spacing rest => blank c spacing rest.returned
  | lexeme spelling rest => lexeme spelling rest.returned

theorem text_returned (layout : Layout) : layout.returned.text = Text.returned layout.text := by
  induction layout with
  | done => rfl
  | comment remark => rfl
  | expectation expected => rfl
  | blank c spacing rest ih =>
      simp only [returned, text, ih, Text.returned, List.cons_append]
  | lexeme spelling rest ih =>
      simp only [returned, text, ih, Text.returned_append]

theorem separated_returned {layout : Layout} (separated : layout.Separated) :
    layout.returned.Separated := by
  induction layout with
  | done => trivial
  | comment remark => trivial
  | expectation expected => trivial
  | blank c spacing rest ih => exact ih separated
  | lexeme spelling rest ih =>
      rcases separated with ⟨ends, restSeparated⟩
      refine ⟨?_, ih restSeparated⟩
      rw [text_returned]
      exact Spelling.endsBefore_append ends Text.stops_return

theorem tokens_line_returned (layout : Layout) (start : Nat) :
    (layout.returned.line start).tokens = (layout.line start).tokens := by
  induction layout generalizing start with
  | done => rfl
  | comment remark => rfl
  | expectation expected => rfl
  | blank c spacing rest ih => exact ih (start + c.utf8Size)
  | lexeme spelling rest ih =>
      simp only [returned, line, Line.cons, ih]
      rfl

theorem expected?_returned (layout : Layout) : layout.returned.expected? = layout.expected? := by
  induction layout with
  | done => rfl
  | comment remark => rfl
  | expectation expected =>
      simp only [returned, expected?, Text.trimEnd_dropWhile_returned]
  | blank c spacing rest ih => exact ih
  | lexeme spelling rest ih => exact ih

theorem LeadsTo.returned {layout : Layout} {tail : Text} (leads : layout.LeadsTo tail) :
    layout.LeadsTo (Text.returned tail) := by
  induction layout with
  | done => trivial
  | comment remark => cases leads
  | expectation expected => cases leads
  | blank c spacing rest ih => exact ih leads
  | lexeme spelling rest ih =>
      rcases leads with ⟨ends, restLeads⟩
      refine ⟨?_, ih restLeads⟩
      have further := Spelling.endsBefore_append ends Text.stops_return
      rwa [List.append_assoc] at further

end Layout

namespace Line

/-- Whether two lines say the same, except where their expectations are. -/
structure Agrees (left right : Line) : Prop where
  tokens_eq : left.tokens = right.tokens
  expected_eq : left.expectation?.map Spanned.value = right.expectation?.map Spanned.value

/-- A line that can be read says the same with a return at its end. -/
theorem exists_agrees_of_read {start : Nat} {text : Text} {line : Line}
    (found : read start text = .ok line) :
    ∃ other, read start (Text.returned text) = .ok other ∧ other.Agrees line := by
  rcases exists_layout_of_read found with ⟨layout, separated, rfl⟩
  rw [read_text separated] at found
  cases found
  refine ⟨layout.returned.line start, ?_, ?_⟩
  · rw [← Layout.text_returned]
    exact read_text (Layout.separated_returned separated) start
  · constructor
    · exact layout.tokens_line_returned start
    · simp only [Layout.value_expectation_line, Layout.expected?_returned]

end Line

/-! ### Lines that cannot be read -/

namespace Offends

variable {fault : Fault} {opening part after : Text}

/-- What makes a character a beginning of nothing does not change with a return at the end. -/
theorem unexpectedCharacter_returned {c : Char} (noQuote : c ≠ '"')
    (noLexeme : ∀ (spelling : Spelling) (rest : Text), spelling.text ++ rest ≠ c :: after) :
    ∀ (spelling : Spelling) (rest : Text), spelling.text ++ rest ≠ c :: Text.returned after := by
  intro spelling rest same
  have begins : ¬∃ (spelling : Spelling) (rest : Text), spelling.text ++ rest = c :: after := by
    rintro ⟨other, tail, found⟩
    exact noLexeme other tail found
  simp only [Spelling.exists_append_eq_iff noQuote, not_or] at begins
  rcases begins with ⟨noDigit, noMinus, noWord, noMarker⟩
  rcases (Spelling.exists_append_eq_iff noQuote).1 ⟨spelling, rest, same⟩ with
    digit | ⟨minus, digit⟩ | starts | marker
  · exact noDigit digit
  · apply noMinus
    refine ⟨minus, ?_⟩
    cases after with
    | nil => exact absurd digit (by decide)
    | cons d more => exact digit
  · exact noWord starts
  · exact noMarker marker

/-- What offends does so with a return at the end, unless it is a backslash without a letter. -/
theorem exists_returned (offends : Offends fault opening part after)
    (lettered : ∀ glyphs, opening ++ (part ++ after) ≠ '"' :: (Glyph.spell glyphs ++ ['\\'])) :
    ∃ opening' part' after' : Text,
      Text.returned (opening ++ (part ++ after)) = opening' ++ (part' ++ after') ∧
      Offends fault opening' part' after' := by
  have whole : Text.returned (opening ++ (part ++ after)) =
      opening ++ (part ++ Text.returned after) := by
    simp only [Text.returned_append]
  cases offends with
  | unexpectedCharacter solid noComment noArrow noQuote noLexeme =>
      refine ⟨_, _, _, whole, .unexpectedCharacter solid noComment ?_ noQuote
        (unexpectedCharacter_returned noQuote noLexeme)⟩
      rintro ⟨equals, follows⟩
      cases after with
      | nil => exact absurd follows (by decide)
      | cons d more => exact noArrow ⟨equals, follows⟩
  | malformedInteger nonempty decimal junkNonempty junkStarts continues stops =>
      exact ⟨_, _, _, whole, .malformedInteger nonempty decimal junkNonempty junkStarts continues
        (Text.stops_returned (by decide) stops)⟩
  | integerOutOfRange nonempty decimal stops outside =>
      exact ⟨_, _, _, whole, .integerOutOfRange nonempty decimal
        (Text.stops_returned (by decide) stops) outside⟩
  | @unterminatedString glyphs tail dangling =>
      rcases dangling with rfl | rfl
      · -- The return is read as a character of the string literal.
        let more : List Glyph := glyphs ++ [.plain '\r' (by decide) (by decide)]
        refine ⟨[], '"' :: (Glyph.spell more ++ []), [], ?_,
          .unterminatedString (Or.inl rfl)⟩
        simp only [more, Text.returned, Glyph.spell, List.flatMap_append, List.flatMap_cons,
          List.flatMap_nil, Glyph.text, List.append_nil, List.nil_append, List.cons_append]
      · exact absurd (List.append_nil _) (lettered glyphs)
  | unknownEscape unknown => exact ⟨_, _, _, whole, .unknownEscape unknown⟩

end Offends

namespace Line

variable {start : Nat} {text : Text} {error : Error}

/--
Whether a line ends inside a string literal, with a backslash that begins an escape: all before the
literal are blanks and lexemes, and all in it before the backslash are characters of a string.
-/
def BreaksOffEscape (text : Text) : Prop :=
  ∃ (front : Layout) (glyphs : List Glyph),
    text = front.text ++ '"' :: (Glyph.spell glyphs ++ ['\\']) ∧
      front.LeadsTo ('"' :: (Glyph.spell glyphs ++ ['\\']))

/-- A line that breaks off in an escape goes on with the return, which is no letter. -/
theorem read_of_breaksOffEscape (breaks : BreaksOffEscape text) (start : Nat) :
    (∃ span, read start text = .error ⟨.unterminatedString, span⟩) ∧
      ∃ span, read start (Text.returned text) = .error ⟨.unknownEscape '\r', span⟩ := by
  rcases breaks with ⟨front, glyphs, rfl, leads⟩
  constructor
  · have failed := Lexeme.read_unterminated (Or.inr rfl) glyphs
    exact ⟨_, read_append_error leads
      (read_misspelling (by decide) (by decide) (by simp) failed _)⟩
  · have failed := Lexeme.read_unknownEscape (show unescape? '\r' = none from rfl) glyphs []
    have split : Text.returned ('"' :: (Glyph.spell glyphs ++ ['\\'])) =
        '"' :: (Glyph.spell glyphs ++ ['\\', '\r']) := by
      simp only [Text.returned, List.cons_append, List.append_assoc, List.nil_append]
    have leadsStill := leads.returned
    rw [split] at leadsStill
    rw [Text.returned_append, split]
    exact ⟨_, read_append_error leadsStill
      (read_misspelling (by decide) (by decide) (by simp) failed _)⟩

/-- Any other line that cannot be read has the same fault with a return at its end. -/
theorem exists_read_returned_error (failed : read start text = .error error)
    (lettered : ¬BreaksOffEscape text) :
    ∃ span, read start (Text.returned text) = .error ⟨error.value, span⟩ := by
  rcases exists_offending_of_read failed with
    ⟨front, opening, part, after, rfl, leads, offends, -⟩
  have letteredHere : ∀ glyphs,
      opening ++ (part ++ after) ≠ '"' :: (Glyph.spell glyphs ++ ['\\']) := by
    intro glyphs same
    apply lettered
    rw [same] at leads ⊢
    exact ⟨front, glyphs, rfl, leads⟩
  rcases offends.exists_returned letteredHere with
    ⟨opening', part', after', split, offendsStill⟩
  have leadsStill := leads.returned
  rw [split] at leadsStill
  rw [Text.returned_append, split]
  exact ⟨_, read_append_error leadsStill (read_offending offendsStill)⟩

end Line

end Script

end TextCursor

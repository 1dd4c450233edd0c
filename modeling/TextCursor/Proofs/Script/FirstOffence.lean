import TextCursor.Proofs.Script.LineReading
import TextCursor.Proofs.Text.Bytes

/-!
# First offences

A line that cannot be read has a first part that offends, and the error is about that part.
`Offends` tells for each fault what the part is and why it is no part of a line. All that is in
front of it are blanks and lexemes, each of them ending where the next part begins
(`Layout.LeadsTo`), so nothing in front of it offends. `Line.read_error_exact` says that a line
fails in exactly this way: the error is found by taking the line apart.
-/

namespace TextCursor.Script

/-- The characters that stand for something after a backslash. -/
def escapeLetters : List Char := ['n', 't', 'r', '0', '\\', '"', '\'']

theorem unescape?_eq_none_iff {letter : Char} :
    unescape? letter = none ↔ letter ∉ escapeLetters := by
  constructor
  · intro unknown mem
    simp only [escapeLetters, List.mem_cons, List.not_mem_nil, or_false] at mem
    rcases mem with rfl | rfl | rfl | rfl | rfl | rfl | rfl <;> cases unknown
  · intro absent
    unfold unescape?
    split <;> simp_all [escapeLetters]

/--
Whether a fault is about a part of a text. The part has before it the opening of the lexeme that it
belongs to, and a text after it.
-/
inductive Offends : Fault → Text → Text → Text → Prop
  /-- A character with which nothing begins. -/
  | unexpectedCharacter {c : Char} {after : Text} (solid : isBlank c = false) (noComment : c ≠ '#')
      (noArrow : ¬(c = '=' ∧ after.head? = some '>')) (noQuote : c ≠ '"')
      (noLexeme : ∀ (spelling : Spelling) (rest : Text), spelling.text ++ rest ≠ c :: after) :
      Offends (.unexpectedCharacter c) [] [c] after
  /-- An integer together with all that would continue a word. -/
  | malformedInteger {negative : Bool} {digits junk after : Text} (nonempty : digits ≠ [])
      (decimal : ∀ c ∈ digits, c.isDigit = true) (junkNonempty : junk ≠ [])
      (junkStarts : ∀ c ∈ junk.head?, c.isDigit = false)
      (continues : ∀ c ∈ junk, isWordPart c = true)
      (stops : ∀ c ∈ after.head?, isWordPart c = false) :
      Offends .malformedInteger [] (Decimal.sign negative ++ digits ++ junk) after
  /-- An integer that is well formed but no offset. -/
  | integerOutOfRange {negative : Bool} {digits after : Text} (nonempty : digits ≠ [])
      (decimal : ∀ c ∈ digits, c.isDigit = true)
      (stops : ∀ c ∈ after.head?, isWordPart c = false)
      (outside : Decimal.signed negative (Decimal.toNat digits) < -9223372036854775808 ∨
        9223372036854775808 ≤ Decimal.signed negative (Decimal.toNat digits)) :
      Offends .integerOutOfRange [] (Decimal.sign negative ++ digits) after
  /-- A string literal that goes on to the end of the line, where a backslash may be left alone. -/
  | unterminatedString {glyphs : List Glyph} {tail : Text} (dangling : tail = [] ∨ tail = ['\\']) :
      Offends .unterminatedString [] ('"' :: (Glyph.spell glyphs ++ tail)) []
  /-- A backslash in a string literal and the character after it. -/
  | unknownEscape {glyphs : List Glyph} {letter : Char} {after : Text}
      (unknown : letter ∉ escapeLetters) :
      Offends (.unknownEscape letter) ('"' :: Glyph.spell glyphs) ['\\', letter] after

/-- Whether a misspelling is what offends first in a text. -/
def Misspelling.Explains (misspelling : Misspelling) (text : Text) : Prop :=
  ∃ after, text = misspelling.before ++ (misspelling.offending ++ after) ∧
    Offends misspelling.fault misspelling.before misspelling.offending after

/-! ### String literals -/

namespace StringTail

/-- What the part of a text after an opening quote is if no string literal ends there. -/
inductive Breaks : Text → StringFault → Prop
  | unterminated (glyphs : List Glyph) {tail : Text} (dangling : tail = [] ∨ tail = ['\\']) :
      Breaks (Glyph.spell glyphs ++ tail) .unterminated
  | unknownEscape (glyphs : List Glyph) {letter : Char} (after : Text)
      (unknown : unescape? letter = none) :
      Breaks (Glyph.spell glyphs ++ '\\' :: letter :: after)
        (.unknownEscape (Glyph.spell glyphs) letter)

variable {text rest : Text} {fault : StringFault}

/-- A glyph that is read leaves the fault to the rest of the text. -/
theorem breaks_of_prepend (glyph : Glyph)
    (restBreaks : ∀ {inner}, read rest = .error inner → Breaks rest inner)
    (failed : read.prepend glyph.char glyph.text (read rest) = .error fault) :
    Breaks (glyph.text ++ rest) fault := by
  cases restRead : read rest with
  | ok tail =>
      rw [restRead] at failed
      cases failed
  | error inner =>
      rw [restRead] at failed
      cases restBreaks restRead with
      | unterminated glyphs dangling =>
          cases failed
          rw [← List.append_assoc, ← Glyph.spell_cons]
          exact .unterminated (glyph :: glyphs) dangling
      | unknownEscape glyphs after unknown =>
          cases failed
          rw [← List.append_assoc, ← Glyph.spell_cons]
          exact .unknownEscape (glyph :: glyphs) after unknown

theorem breaks_of_read (failed : read text = .error fault) : Breaks text fault := by
  fun_induction read text generalizing fault with
  | case1 =>
      cases failed
      exact .unterminated [] (.inl rfl)
  | case2 => cases failed
  | case3 =>
      cases failed
      exact .unterminated [] (.inr rfl)
  | case4 letter rest meant known ih =>
      exact breaks_of_prepend (.escaped letter meant known) ih failed
  | case5 letter rest unknown =>
      cases failed
      exact .unknownEscape [] rest unknown
  | case6 c rest notQuote notLast notBackslash ih =>
      exact breaks_of_prepend (.plain c notQuote (ne_backslash notLast notBackslash)) ih failed

theorem read_spell_unterminated {tail : Text} (dangling : tail = [] ∨ tail = ['\\'])
    (glyphs : List Glyph) : read (Glyph.spell glyphs ++ tail) = .error .unterminated := by
  induction glyphs with
  | nil => rcases dangling with rfl | rfl <;> rfl
  | cons glyph glyphs ih =>
      rw [Glyph.spell_cons, List.append_assoc, read_glyph, ih]
      rfl

end StringTail

/-! ### First characters -/

namespace Spelling

variable {c : Char} {rest : Text}

/-- Digits and a sign before them begin with an integer of one digit. -/
theorem exists_of_digits {digits : Text} (nonempty : digits ≠ [])
    (decimal : ∀ c ∈ digits, c.isDigit = true) (negative : Bool) (tail : Text) :
    ∃ (spelling : Spelling) (rest : Text),
      spelling.text ++ rest = Decimal.sign negative ++ (digits ++ tail) := by
  rcases List.exists_cons_of_ne_nil nonempty with ⟨digit, more, rfl⟩
  have isDigit := decimal digit (List.mem_cons_self ..)
  -- All digits together may be out of range, but one digit never is.
  have small : Decimal.toNat [digit] < 10 := by
    have zero : '0'.toNat = 48 := rfl
    have atMostNine : digit.toNat ≤ 57 := of_decide_eq_true (Bool.and_eq_true_iff.1 isDigit).2
    simp only [Decimal.toNat, Nat.ofDigitChars_cons, Nat.ofDigitChars_nil]
    omega
  have fits : -9223372036854775808 ≤ Decimal.signed negative (Decimal.toNat [digit]) ∧
      Decimal.signed negative (Decimal.toNat [digit]) < 9223372036854775808 := by
    unfold Decimal.signed
    split <;> omega
  refine ⟨.integer negative [digit] ⟨_, fits.1, fits.2⟩ (by simp) (by simpa using isDigit) rfl,
    more ++ tail, ?_⟩
  rw [text, List.append_assoc]
  rfl

theorem exists_first_of_digits {digits : Text} (nonempty : digits ≠ [])
    (decimal : ∀ c ∈ digits, c.isDigit = true) (negative : Bool) (tail : Text) :
    ∃ c rest, Decimal.sign negative ++ (digits ++ tail) = c :: rest ∧
      isBlank c = false ∧ c ≠ '#' ∧ c ≠ '=' := by
  rcases exists_of_digits nonempty decimal negative tail with ⟨spelling, after, same⟩
  have notNil : Decimal.sign negative ++ (digits ++ tail) ≠ [] := by simp [nonempty]
  rcases List.exists_cons_of_ne_nil notNil with ⟨c, rest, split⟩
  exact ⟨c, rest, split, head_of_append_eq (same.trans split)⟩

/-- What tells that a text without a quote at its start begins with a lexeme. -/
theorem exists_append_eq_iff (noQuote : c ≠ '"') :
    (∃ (spelling : Spelling) (tail : Text), spelling.text ++ tail = c :: rest) ↔
      c.isDigit = true ∨ (c = '-' ∧ rest.head?.any Char.isDigit = true) ∨
        isWordStart c = true ∨ ∃ marker, Marker.ofChar? c = some marker := by
  constructor
  · rintro ⟨spelling, tail, same⟩
    cases spelling with
    | word first more starts continues =>
        cases same
        exact .inr (.inr (.inl starts))
    | integer negative digits number nonempty decimal value =>
        rcases List.exists_cons_of_ne_nil nonempty with ⟨digit, more, rfl⟩
        have isDigit := decimal digit (List.mem_cons_self ..)
        cases negative with
        | true =>
            cases same
            exact .inr (.inl ⟨rfl, isDigit⟩)
        | false =>
            cases same
            exact .inl isDigit
    | string glyphs =>
        cases same
        exact absurd rfl noQuote
    | marker sign =>
        cases same
        exact .inr (.inr (.inr ⟨sign, Marker.ofChar?_sign sign⟩))
  · rintro (digit | ⟨rfl, digit⟩ | starts | ⟨sign, known⟩)
    · exact exists_of_digits (List.cons_ne_nil c []) (by simpa using digit) false rest
    · cases rest with
      | nil => cases digit
      | cons d more =>
          exact exists_of_digits (List.cons_ne_nil d []) (by simpa using digit) true more
    · exact ⟨.word c [] starts (by simp), rest, rfl⟩
    · rw [Marker.ofChar?_eq_some_iff] at known
      exact ⟨.marker sign, rest, by rw [known]; rfl⟩

end Spelling

/-! ### Lexemes -/

namespace Lexeme

variable {c : Char} {rest text tail : Text} {misspelling : Misspelling}

theorem explains_of_readString (failed : readString text = .error misspelling) :
    misspelling.Explains ('"' :: text) := by
  rw [readString] at failed
  split at failed
  · cases failed
  · next broken =>
      cases failed
      cases StringTail.breaks_of_read broken with
      | unterminated glyphs dangling =>
          exact ⟨[], (List.append_nil _).symm, .unterminatedString dangling⟩
  · next before letter broken =>
      cases failed
      cases StringTail.breaks_of_read broken with
      | unknownEscape glyphs after unknown =>
          exact ⟨after, rfl, .unknownEscape (unescape?_eq_none_iff.1 unknown)⟩

theorem explains_of_readInteger (negative : Bool) (digit : text.head?.any Char.isDigit = true)
    (failed : readInteger (Decimal.sign negative) text = .error misspelling) :
    misspelling.Explains (Decimal.sign negative ++ text) := by
  have nonempty : text.takeWhile Char.isDigit ≠ [] := Text.takeWhile_ne_nil digit
  have decimal : ∀ c ∈ text.takeWhile Char.isDigit, c.isDigit = true :=
    fun c taken => Text.accepted_of_mem_takeWhile taken
  have digits := List.takeWhile_append_dropWhile (p := Char.isDigit) (l := text)
  have junk := List.takeWhile_append_dropWhile (p := isWordPart) (l := text.dropWhile Char.isDigit)
  simp only [readInteger] at failed
  split at failed
  · next noJunk =>
      have stops := Text.stops_of_takeWhile_eq_nil (List.isEmpty_iff.1 noJunk)
      split at failed
      · cases failed
      · next outOfRange =>
          cases failed
          refine ⟨text.dropWhile Char.isDigit, ?_, .integerOutOfRange nonempty decimal stops ?_⟩
          · rw [List.nil_append, List.append_assoc, digits]
          · cases negative <;> exact Offset.ofInt?_eq_none_iff.1 outOfRange
  · next someJunk =>
      cases failed
      refine ⟨(text.dropWhile Char.isDigit).dropWhile isWordPart, ?_,
        .malformedInteger nonempty decimal ?_ ?_ ?_ (Text.stops_dropWhile _ _)⟩
      · rw [List.nil_append, List.append_assoc, List.append_assoc, junk, digits]
      · exact fun empty => someJunk (List.isEmpty_iff.2 empty)
      · intro c first
        apply Text.stops_dropWhile Char.isDigit text c
        rw [← junk, List.head?_append, Option.mem_def.1 first, Option.some_or, Option.mem_def]
      · exact fun c taken => Text.accepted_of_mem_takeWhile taken

theorem explains_of_read (solid : isBlank c = false) (noComment : c ≠ '#')
    (noArrow : ¬(c = '=' ∧ rest.head? = some '>')) (failed : read c rest = .error misspelling) :
    misspelling.Explains (c :: rest) := by
  revert failed
  fun_cases read c rest with
  | case1 quote =>
      rw [quote]
      exact explains_of_readString
  | case2 noQuote digit => exact explains_of_readInteger false digit
  | case3 noQuote noDigit minus =>
      simp only [Bool.and_eq_true, decide_eq_true_eq] at minus
      rcases minus with ⟨rfl, digit⟩
      exact explains_of_readInteger true digit
  | case4 => exact nofun
  | case5 => exact nofun
  | case6 noQuote noDigit noMinus noWord noMarker =>
      rintro ⟨⟩
      refine ⟨rest, rfl, .unexpectedCharacter solid noComment noArrow noQuote ?_⟩
      intro spelling tail same
      rcases (Spelling.exists_append_eq_iff noQuote).1 ⟨spelling, tail, same⟩ with
        digit | ⟨minus, digit⟩ | starts | ⟨marker, known⟩
      · exact noDigit digit
      · exact noMinus (by simp [minus, digit])
      · exact noWord starts
      · rw [noMarker] at known
        cases known

theorem readInteger_outOfRange {negative : Bool} {digits : Text}
    (decimal : ∀ c ∈ digits, c.isDigit = true) (stops : ∀ c ∈ tail.head?, isWordPart c = false)
    (outside : Decimal.signed negative (Decimal.toNat digits) < -9223372036854775808 ∨
      9223372036854775808 ≤ Decimal.signed negative (Decimal.toNat digits)) :
    readInteger (Decimal.sign negative) (digits ++ tail) =
      .error ⟨.integerOutOfRange, [], Decimal.sign negative ++ digits⟩ := by
  rw [readInteger_of_stops decimal stops, Offset.ofInt?_eq_none_iff.2 outside, Option.elim_none]

theorem readInteger_malformed {digits junk : Text} (decimal : ∀ c ∈ digits, c.isDigit = true)
    (nonempty : junk ≠ []) (starts : ∀ c ∈ junk.head?, c.isDigit = false)
    (continues : ∀ c ∈ junk, isWordPart c = true)
    (stops : ∀ c ∈ tail.head?, isWordPart c = false) (sign : Text) :
    readInteger sign (digits ++ (junk ++ tail)) =
      .error ⟨.malformedInteger, [], sign ++ digits ++ junk⟩ := by
  rcases List.exists_cons_of_ne_nil nonempty with ⟨first, more, rfl⟩
  have noDigit : ∀ c ∈ (first :: more ++ tail).head?, c.isDigit = false := starts
  simp only [readInteger, Text.takeWhile_append_of_stops decimal noDigit,
    Text.dropWhile_append_of_stops decimal noDigit, Text.takeWhile_append_of_stops continues stops,
    List.isEmpty_cons]
  rfl

/-- A character with which nothing begins is not read as part of anything else. -/
theorem read_unexpected (noQuote : c ≠ '"')
    (noLexeme : ∀ (spelling : Spelling) (tail : Text), spelling.text ++ tail ≠ c :: rest) :
    read c rest = .error ⟨.unexpectedCharacter c, [], [c]⟩ := by
  have begins : ¬∃ (spelling : Spelling) (tail : Text), spelling.text ++ tail = c :: rest :=
    fun ⟨spelling, tail, same⟩ => noLexeme spelling tail same
  rw [Spelling.exists_append_eq_iff noQuote] at begins
  simp only [not_or, not_exists] at begins
  rcases begins with ⟨noDigit, noMinus, noWord, noMarker⟩
  rw [read, if_neg noQuote, if_neg noDigit, if_neg (by simpa using noMinus), if_neg noWord,
    Option.eq_none_iff_forall_ne_some.2 noMarker]

theorem read_unterminated (dangling : tail = [] ∨ tail = ['\\']) (glyphs : List Glyph) :
    read '"' (Glyph.spell glyphs ++ tail) =
      .error ⟨.unterminatedString, [], '"' :: (Glyph.spell glyphs ++ tail)⟩ := by
  rw [read, if_pos rfl, readString, StringTail.read_spell_unterminated dangling]

end Lexeme

/-! ### Lines -/

namespace Layout

/--
Whether a layout has nothing but blanks and lexemes and a text may come after it, no lexeme being
continued by what comes after it.
-/
def LeadsTo : Layout → Text → Prop
  | done, _ => True
  | comment _, _ => False
  | expectation _, _ => False
  | blank _ _ rest, tail => rest.LeadsTo tail
  | lexeme spelling rest, tail => spelling.EndsBefore (rest.text ++ tail) ∧ rest.LeadsTo tail

variable {layout : Layout} {tail : Text}

theorem LeadsTo.separated (leads : layout.LeadsTo tail) : layout.Separated := by
  induction layout with
  | done => trivial
  | comment remark => cases leads
  | expectation expected => cases leads
  | blank c spacing rest ih => exact ih leads
  | lexeme spelling rest ih =>
      rcases leads with ⟨ends, restLeads⟩
      exact ⟨Spelling.endsBefore_of_leads (List.prefix_append rest.text tail) ends, ih restLeads⟩

theorem LeadsTo.expectation_eq_none (leads : layout.LeadsTo tail) (start : Nat) :
    (layout.line start).expectation? = none := by
  induction layout generalizing start with
  | done => rfl
  | comment remark => cases leads
  | expectation expected => cases leads
  | blank c spacing rest ih => exact ih leads (start + c.utf8Size)
  | lexeme spelling rest ih => exact ih leads.2 (start + spelling.text.utf8Size)

end Layout

namespace Line

variable {start : Nat} {text : Text} {error : Error}

/-- On its own, what leads to something is read without an expectation. -/
theorem exists_tokens_of_leadsTo {front : Layout} {tail : Text} (leads : front.LeadsTo tail)
    (base : Nat) : ∃ tokens, read base front.text = .ok ⟨tokens, none⟩ := by
  refine ⟨(front.line base).tokens, ?_⟩
  rw [read_text leads.separated, ← leads.expectation_eq_none base]

/-- What leads to a text is read first, and then the text. -/
theorem read_append {front : Layout} {tail : Text} (leads : front.LeadsTo tail) (start : Nat) :
    read start (front.text ++ tail) =
      (read (start + front.text.utf8Size) tail).map (following (front.line start).tokens) := by
  induction front generalizing start with
  | done =>
      simp only [Layout.text, List.nil_append, Text.utf8Size_nil, Nat.add_zero, Layout.line]
      cases read start tail <;> rfl
  | comment remark => cases leads
  | expectation expected => cases leads
  | blank c spacing rest ih =>
      simp only [Layout.text, List.cons_append, read_blank spacing, ih leads, Text.utf8Size_cons,
        Layout.line, Nat.add_assoc]
  | lexeme spelling rest ih =>
      rcases leads with ⟨ends, restLeads⟩
      simp only [Layout.text, List.append_assoc, read_spelling ends, ih restLeads,
        Text.utf8Size_append, Layout.line, Nat.add_assoc]
      cases read (start + (spelling.text.utf8Size + rest.text.utf8Size)) tail <;> rfl

/-- A fault is passed on over all that leads to it. -/
theorem read_append_error {front : Layout} {tail : Text} (leads : front.LeadsTo tail)
    (failed : read (start + front.text.utf8Size) tail = .error error) :
    read start (front.text ++ tail) = .error error := by
  simp only [read_append leads, failed, Except.map]

theorem read_misspelled_digits {negative : Bool} {digits tail : Text} {misspelling : Misspelling}
    (nonempty : digits ≠ []) (decimal : ∀ c ∈ digits, c.isDigit = true)
    (failed : Lexeme.readInteger (Decimal.sign negative) (digits ++ tail) = .error misspelling) :
    read start (Decimal.sign negative ++ (digits ++ tail)) = .error (misspelling.error start) := by
  rcases Spelling.exists_first_of_digits nonempty decimal negative tail with
    ⟨c, rest, split, solid, noComment, noArrow⟩
  rw [← Lexeme.read_digits nonempty decimal split] at failed
  rw [split]
  exact read_misspelling solid noComment (fun arrow => noArrow arrow.1) failed start

/-- A line that begins with what offends is not read for that reason. -/
theorem read_offending {fault : Fault} {opening part after : Text}
    (offends : Offends fault opening part after) :
    read start (opening ++ (part ++ after)) =
      .error ⟨fault, ⟨start + opening.utf8Size, part.utf8Size⟩⟩ := by
  cases offends with
  | unexpectedCharacter solid noComment noArrow noQuote noLexeme =>
      exact read_misspelling solid noComment noArrow (Lexeme.read_unexpected noQuote noLexeme) start
  | malformedInteger nonempty decimal junkNonempty junkStarts continues stops =>
      have failed := Lexeme.readInteger_malformed decimal junkNonempty junkStarts continues stops
      rw [List.nil_append, List.append_assoc, List.append_assoc,
        read_misspelled_digits nonempty decimal (failed _)]
      rfl
  | integerOutOfRange nonempty decimal stops outside =>
      have failed := Lexeme.readInteger_outOfRange decimal stops outside
      rw [List.nil_append, List.append_assoc, read_misspelled_digits nonempty decimal failed]
      rfl
  | unterminatedString dangling =>
      have failed := Lexeme.read_unterminated dangling
      rw [List.nil_append, List.append_nil]
      exact read_misspelling (by decide) (by decide) (by simp) (failed _) start
  | unknownEscape unknown =>
      have failed := Lexeme.read_unknownEscape (unescape?_eq_none_iff.2 unknown)
      exact read_misspelling (by decide) (by decide) (by simp) (failed _ _) start

/-- If a line is not read, there is a part that offends, and blanks and lexemes lead to it. -/
theorem exists_offending_of_read (failed : read start text = .error error) :
    ∃ (front : Layout) (opening part after : Text),
      text = front.text ++ (opening ++ (part ++ after)) ∧
      front.LeadsTo (opening ++ (part ++ after)) ∧ Offends error.value opening part after ∧
      error.span = ⟨start + (front.text ++ opening).utf8Size, part.utf8Size⟩ := by
  fun_induction read start text with
  | case1 start => cases failed
  | case2 start c rest blank ih =>
      rcases ih failed with ⟨front, opening, part, after, rfl, leads, offends, span⟩
      refine ⟨.blank c blank front, opening, part, after, rfl, leads, offends, ?_⟩
      rw [span, Layout.text, List.cons_append, Text.utf8Size_cons, Nat.add_assoc]
  | case3 start rest blank => cases failed
  | case4 start c rest blank noComment arrow => cases failed
  | case5 start c rest blank noComment noArrow misspelling misread =>
      cases failed
      rcases Lexeme.explains_of_read (Bool.eq_false_iff.2 blank) noComment noArrow misread with
        ⟨after, split, offends⟩
      exact ⟨.done, misspelling.before, misspelling.offending, after, split, trivial, offends, rfl⟩
  | case6 start c rest blank noComment noArrow lexeme found shorter ih =>
      have whole := Lexeme.append_of_read found
      rcases Lexeme.exists_spelling_of_read found with ⟨spelling, ends, same⟩
      cases restRead : read (start + lexeme.spelling.utf8Size) lexeme.rest with
      | ok line =>
          rw [restRead] at failed
          cases failed
      | error restError =>
          rw [restRead] at failed ih
          cases failed
          rcases ih rfl with ⟨front, opening, part, after, split, leads, offends, span⟩
          have spelled : lexeme.spelling = spelling.text := by
            rw [same]
            rfl
          rw [split] at ends
          rw [spelled, split] at whole
          rw [spelled] at span
          refine ⟨.lexeme spelling front, opening, part, after, ?_, ⟨ends, leads⟩, offends, ?_⟩
          · rw [Layout.text, List.append_assoc]
            exact whole.symm
          · rw [span, Layout.text, List.append_assoc, Text.utf8Size_append spelling.text,
              Nat.add_assoc]

/--
A line fails to be read exactly if it has a part that offends and nothing but blanks and lexemes
in front of it, or in front of the string literal that the part is in. The error is about that part
and has its bytes, and what is in front can be read on its own and expects nothing.
-/
theorem read_error_exact (start : Nat) (text : Text) (error : Error) :
    read start text = .error error ↔
      ∃ (front : Layout) (opening part after : Text),
        text = front.text ++ (opening ++ (part ++ after)) ∧
        front.LeadsTo (opening ++ (part ++ after)) ∧
        Offends error.value opening part after ∧
        error.span = ⟨start + (front.text ++ opening).utf8Size, part.utf8Size⟩ ∧
        error.span.Marks start text part ∧
        ∀ base, ∃ tokens, read base front.text = .ok ⟨tokens, none⟩ := by
  constructor
  · intro failed
    rcases exists_offending_of_read failed with
      ⟨front, opening, part, after, split, leads, offends, span⟩
    refine ⟨front, opening, part, after, split, leads, offends, span, ?_,
      exists_tokens_of_leadsTo leads⟩
    rw [span]
    apply Span.marks_of_append
    rw [split, List.append_assoc]
  · rintro ⟨front, opening, part, after, rfl, leads, offends, span, -, -⟩
    rw [Text.utf8Size_append, ← Nat.add_assoc] at span
    have same : error = ⟨error.value, ⟨start + front.text.utf8Size + opening.utf8Size,
        part.utf8Size⟩⟩ := Spanned.ext rfl span
    rw [same]
    exact read_append_error leads (read_offending offends)

/-- What comes before the part that offends is counted in bytes. -/
example : read 0 ['-', '1', ' ', '"', 'é', '\\', 'q'] =
    .error ⟨.unknownEscape 'q', ⟨6, 2⟩⟩ := by
  cbv

end Line

end TextCursor.Script

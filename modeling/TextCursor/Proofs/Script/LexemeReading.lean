import Mathlib.Tactic.ByContra
import TextCursor.Proofs.Script.Layout

/-!
# Reading lexemes

`Lexeme.read` finds exactly the lexemes that have a spelling: `Lexeme.read_spelling` reads every
spelling back in front of any text that does not continue it, and
`Lexeme.exists_spelling_of_read` finds a spelling for everything that is read. Both rest on the same
two facts for string literals, whose glyphs are read one at a time by `StringTail.read_glyph`.
-/

namespace TextCursor

namespace Text

variable {test : Char → Bool} {run rest : Text}

theorem takeWhile_eq_nil_of_stops (stops : ∀ c ∈ rest.head?, test c = false) :
    rest.takeWhile test = [] := by
  cases rest with
  | nil => rfl
  | cons c rest => simp [stops c rfl]

theorem takeWhile_ne_nil (starts : rest.head?.any test = true) : rest.takeWhile test ≠ [] := by
  cases rest with
  | nil => cases starts
  | cons c rest =>
      simp only [List.head?_cons, Option.any_some] at starts
      simp [starts]

theorem takeWhile_append_of_stops (accepted : ∀ c ∈ run, test c = true)
    (stops : ∀ c ∈ rest.head?, test c = false) : (run ++ rest).takeWhile test = run := by
  rw [List.takeWhile_append_of_pos accepted, takeWhile_eq_nil_of_stops stops, List.append_nil]

theorem dropWhile_append_of_stops (accepted : ∀ c ∈ run, test c = true)
    (stops : ∀ c ∈ rest.head?, test c = false) : (run ++ rest).dropWhile test = rest := by
  rw [List.dropWhile_append_of_pos accepted]
  cases rest with
  | nil => simp
  | cons c rest => simp [stops c rfl]

theorem stops_of_takeWhile_eq_nil (nothing : rest.takeWhile test = []) :
    ∀ c ∈ rest.head?, test c = false := by
  intro c first
  cases rest with
  | nil => cases first
  | cons d rest =>
      cases first
      by_contra accepted
      rw [Bool.not_eq_false] at accepted
      simp [accepted] at nothing

theorem stops_dropWhile (test : Char → Bool) (text : Text) :
    ∀ c ∈ (text.dropWhile test).head?, test c = false := by
  intro c first
  have stopped := List.head?_dropWhile_not test text
  rw [Option.mem_def.1 first] at stopped
  exact stopped

theorem accepted_of_mem_takeWhile {c : Char} {text : Text} (taken : c ∈ text.takeWhile test) :
    test c = true :=
  List.all_eq_true.1 List.all_takeWhile c taken

end Text

namespace Decimal

/-- A sign and digits can be told apart. -/
theorem eq_of_sign_append_eq {left right : Bool} {leftDigits rightDigits : Text}
    (leftDecimal : ∀ c ∈ leftDigits, c.isDigit = true)
    (rightDecimal : ∀ c ∈ rightDigits, c.isDigit = true)
    (same : sign left ++ leftDigits = sign right ++ rightDigits) :
    left = right ∧ leftDigits = rightDigits := by
  have noMinus : '-'.isDigit = false := rfl
  cases left with
  | true =>
      cases right with
      | true =>
          simp only [sign, List.cons_append, List.nil_append, List.cons.injEq, true_and] at same
          exact ⟨rfl, same⟩
      | false =>
          simp only [sign, List.cons_append, List.nil_append] at same
          have minus := rightDecimal '-' (by simp [← same])
          rw [noMinus] at minus
          cases minus
  | false =>
      cases right with
      | true =>
          simp only [sign, List.cons_append, List.nil_append] at same
          have minus := leftDecimal '-' (by simp [same])
          rw [noMinus] at minus
          cases minus
      | false => exact ⟨rfl, same⟩

end Decimal

namespace Script

theorem isDigit_eq_false_of_isWordStart {c : Char} (starts : isWordStart c = true) :
    c.isDigit = false := by
  simp only [isWordStart, Bool.or_eq_true, decide_eq_true_eq] at starts
  rcases starts with rfl | letter
  · decide
  rw [← Bool.not_eq_true]
  intro digit
  have atMostNine : c.val ≤ '9'.val := of_decide_eq_true (Bool.and_eq_true_iff.1 digit).2
  rcases Bool.or_eq_true_iff.1 letter with upper | lower
  · have atLeastA : 'A'.val ≤ c.val := (of_decide_eq_true upper).1
    exact absurd (UInt32.le_trans atLeastA atMostNine) (by decide)
  · have atLeastA : 'a'.val ≤ c.val := of_decide_eq_true (Bool.and_eq_true_iff.1 lower).1
    exact absurd (UInt32.le_trans atLeastA atMostNine) (by decide)

theorem isWordPart_of_isWordStart {c : Char} (starts : isWordStart c = true) :
    isWordPart c = true := by
  simp [isWordPart, starts]

theorem isWordPart_of_isDigit {c : Char} (digit : c.isDigit = true) : isWordPart c = true := by
  simp [isWordPart, digit]

theorem isDigit_eq_false_of_isWordPart_eq_false {c : Char} (stops : isWordPart c = false) :
    c.isDigit = false := by
  simp only [isWordPart, Bool.or_eq_false_iff] at stops
  exact stops.2

theorem ne_of_isWordPart {c d : Char} (part : isWordPart c = true)
    (noPart : isWordPart d = false) : c ≠ d := by
  rintro rfl
  rw [part] at noPart
  cases noPart

theorem reserved_of_isWordPart {c : Char} (part : isWordPart c = true) :
    isBlank c = false ∧ c ≠ '#' ∧ c ≠ '=' := by
  refine ⟨?_, ne_of_isWordPart part (by decide), ne_of_isWordPart part (by decide)⟩
  simp only [isBlank, Bool.or_eq_false_iff, decide_eq_false_iff_not]
  exact ⟨⟨ne_of_isWordPart part (by decide), ne_of_isWordPart part (by decide)⟩,
    ne_of_isWordPart part (by decide)⟩

namespace StringTail

theorem read_glyph (glyph : Glyph) (rest : Text) :
    read (glyph.text ++ rest) = read.prepend glyph.char glyph.text (read rest) := by
  cases glyph with
  | plain c notQuote notBackslash =>
      simp only [Glyph.text, Glyph.char, List.cons_append, List.nil_append]
      rw [read]
      · exact notQuote
      · intro same _
        exact notBackslash same
      · intro _ _ same _
        exact notBackslash same
  | escaped letter c known =>
      simp only [Glyph.text, Glyph.char, List.cons_append, List.nil_append]
      rw [read, known]

theorem read_spell (glyphs : List Glyph) (rest : Text) :
    read (Glyph.spell glyphs ++ '"' :: rest) =
      .ok ⟨glyphs.map Glyph.char, Glyph.spell glyphs ++ ['"'], rest⟩ := by
  induction glyphs with
  | nil => rfl
  | cons glyph glyphs ih =>
      rw [Glyph.spell_cons, List.append_assoc, read_glyph, ih]
      simp [read.prepend, cons]

theorem read_spell_unknownEscape {letter : Char} (unknown : unescape? letter = none)
    (glyphs : List Glyph) (rest : Text) :
    read (Glyph.spell glyphs ++ '\\' :: letter :: rest) =
      .error (.unknownEscape (Glyph.spell glyphs) letter) := by
  induction glyphs with
  | nil =>
      rw [Glyph.spell_nil, List.nil_append, read, unknown]
  | cons glyph glyphs ih =>
      rw [Glyph.spell_cons, List.append_assoc, read_glyph, ih]
      rfl

/-- A backslash is either the last character or followed by one. -/
theorem ne_backslash {c : Char} {rest : Text} (notLast : c = '\\' → rest = [] → False)
    (notBackslash : ∀ letter after, c = '\\' → rest = letter :: after → False) : c ≠ '\\' := by
  rintro rfl
  cases rest with
  | nil => exact notLast rfl rfl
  | cons letter after => exact notBackslash letter after rfl rfl

theorem exists_glyphs_of_read {text : Text} {tail : StringTail} (found : read text = .ok tail) :
    ∃ glyphs, tail.content = glyphs.map Glyph.char ∧
      tail.spelling = Glyph.spell glyphs ++ ['"'] := by
  fun_induction read text generalizing tail with
  | case1 => cases found
  | case2 =>
      cases found
      exact ⟨[], rfl, rfl⟩
  | case3 => cases found
  | case4 letter rest meant known ih =>
      rcases append_of_prepend found with ⟨inner, innerFound, rfl⟩
      rcases ih innerFound with ⟨glyphs, content, spelling⟩
      refine ⟨.escaped letter meant known :: glyphs, ?_, ?_⟩
      · simp [cons, content, Glyph.char]
      · simp [cons, spelling, Glyph.text]
  | case5 => cases found
  | case6 c rest notQuote notLast notBackslash ih =>
      rcases append_of_prepend found with ⟨inner, innerFound, rfl⟩
      rcases ih innerFound with ⟨glyphs, content, spelling⟩
      refine ⟨.plain c notQuote (ne_backslash notLast notBackslash) :: glyphs, ?_, ?_⟩
      · simp [cons, content, Glyph.char]
      · simp [cons, spelling, Glyph.text]

end StringTail

namespace Spelling

variable {c : Char} {tail : Text}

/-- A lexeme begins with no character that is read as something else. -/
theorem head_of_append_eq {spelling : Spelling} {rest : Text}
    (same : spelling.text ++ rest = c :: tail) : isBlank c = false ∧ c ≠ '#' ∧ c ≠ '=' := by
  cases spelling with
  | word first more starts continues =>
      simp only [text, List.cons_append, List.cons.injEq] at same
      rcases same with ⟨rfl, -⟩
      exact reserved_of_isWordPart (isWordPart_of_isWordStart starts)
  | integer negative digits number nonempty decimal value =>
      cases negative with
      | true =>
          simp only [text, Decimal.sign, List.cons_append, List.cons.injEq] at same
          rcases same with ⟨rfl, -⟩
          exact reserved_of_isWordPart (by decide)
      | false =>
          cases digits with
          | nil => exact absurd rfl nonempty
          | cons digit digits =>
              simp only [text, Decimal.sign, List.cons_append, List.nil_append,
                List.cons.injEq] at same
              rcases same with ⟨rfl, -⟩
              exact reserved_of_isWordPart (isWordPart_of_isDigit (decimal digit (by simp)))
  | string glyphs =>
      simp only [text, List.cons_append, List.cons.injEq] at same
      rcases same with ⟨rfl, -⟩
      decide
  | marker sign =>
      simp only [text, List.cons_append, List.cons.injEq] at same
      rcases same with ⟨rfl, -⟩
      cases sign <;> decide

end Spelling

namespace Lexeme

variable {c : Char} {rest tail : Text}

/-- A row of digits that ends is an integer if its value is in range. -/
theorem readInteger_of_stops {negative : Bool} {digits : Text}
    (decimal : ∀ c ∈ digits, c.isDigit = true) (stops : ∀ c ∈ rest.head?, isWordPart c = false) :
    readInteger (Decimal.sign negative) (digits ++ rest) =
      (Offset.ofInt? (Decimal.signed negative (Decimal.toNat digits))).elim
        (.error ⟨.integerOutOfRange, [], Decimal.sign negative ++ digits⟩)
        fun number => .ok ⟨.integer number, Decimal.sign negative ++ digits, rest⟩ := by
  have noDigit : ∀ c ∈ rest.head?, c.isDigit = false := by
    intro c first
    exact isDigit_eq_false_of_isWordPart_eq_false (stops c first)
  have noJunk : rest.takeWhile isWordPart = [] := Text.takeWhile_eq_nil_of_stops stops
  have value : (if (Decimal.sign negative).isEmpty then
      (Decimal.toNat digits : Int) else -(Decimal.toNat digits : Int)) =
      Decimal.signed negative (Decimal.toNat digits) := by
    cases negative <;> rfl
  simp only [readInteger, Text.takeWhile_append_of_stops decimal noDigit,
    Text.dropWhile_append_of_stops decimal noDigit, noJunk, List.isEmpty_nil, if_true, value]
  cases Offset.ofInt? (Decimal.signed negative (Decimal.toNat digits)) <;> rfl

theorem readInteger_spelling {negative : Bool} {digits : Text} {number : Offset}
    (decimal : ∀ c ∈ digits, c.isDigit = true)
    (value : number.value = Decimal.signed negative (Decimal.toNat digits))
    (stops : ∀ c ∈ rest.head?, isWordPart c = false) :
    readInteger (Decimal.sign negative) (digits ++ rest) =
      .ok ⟨.integer number, Decimal.sign negative ++ digits, rest⟩ := by
  rw [readInteger_of_stops decimal stops, Offset.ofInt?_eq_some_iff.2 value, Option.elim_some]

/-- Digits and a sign before them are read as an integer, whatever comes after them. -/
theorem read_digits {negative : Bool} {digits : Text} (nonempty : digits ≠ [])
    (decimal : ∀ c ∈ digits, c.isDigit = true)
    (same : Decimal.sign negative ++ (digits ++ rest) = c :: tail) :
    read c tail = readInteger (Decimal.sign negative) (digits ++ rest) := by
  rcases List.exists_cons_of_ne_nil nonempty with ⟨digit, more, rfl⟩
  have isDigit := decimal digit (List.mem_cons_self ..)
  cases negative with
  | true =>
      simp only [Decimal.sign, List.cons_append, List.nil_append, List.cons.injEq] at same
      rcases same with ⟨rfl, rfl⟩
      simp [read, isDigit, Decimal.sign]
  | false =>
      simp only [Decimal.sign, List.cons_append, List.nil_append, List.cons.injEq] at same
      rcases same with ⟨rfl, rfl⟩
      have notQuote : digit ≠ '"' := ne_of_isWordPart (isWordPart_of_isDigit isDigit) (by decide)
      simp [read, isDigit, notQuote, Decimal.sign]

/-- Every spelling is read back in front of a text that does not continue it. -/
theorem read_spelling {spelling : Spelling} (ends : spelling.EndsBefore rest)
    (same : spelling.text ++ rest = c :: tail) : read c tail = .ok (spelling.lexeme rest) := by
  cases spelling with
  | word first more starts continues =>
      simp only [Spelling.text, List.cons_append, List.cons.injEq] at same
      rcases same with ⟨rfl, rfl⟩
      have notQuote : first ≠ '"' :=
        ne_of_isWordPart (isWordPart_of_isWordStart starts) (by decide)
      have notMinus : first ≠ '-' := by
        rintro rfl
        exact absurd starts (by decide)
      have accepted : ∀ c ∈ first :: more, isWordPart c = true := by
        intro c mem
        rcases List.mem_cons.1 mem with rfl | mem
        · exact isWordPart_of_isWordStart starts
        · exact continues c mem
      have taken := Text.takeWhile_append_of_stops accepted ends
      have dropped := Text.dropWhile_append_of_stops accepted ends
      rw [List.cons_append] at taken dropped
      simp [read, notQuote, isDigit_eq_false_of_isWordStart starts, notMinus, starts, taken,
        dropped, Spelling.lexeme, Spelling.text, Spelling.token]
  | integer negative digits number nonempty decimal value =>
      rw [Spelling.text, List.append_assoc] at same
      rw [read_digits nonempty decimal same, readInteger_spelling decimal value ends]
      rfl
  | string glyphs =>
      simp only [Spelling.text, List.cons_append, List.append_assoc, List.cons.injEq,
        List.nil_append] at same
      rcases same with ⟨rfl, rfl⟩
      simp [read, readString, StringTail.read_spell, Spelling.lexeme, Spelling.text,
        Spelling.token]
  | marker sign =>
      simp only [Spelling.text, List.cons_append, List.nil_append, List.cons.injEq] at same
      rcases same with ⟨rfl, rfl⟩
      cases sign <;> rfl

theorem read_unknownEscape {letter : Char} (unknown : unescape? letter = none)
    (glyphs : List Glyph) (rest : Text) :
    read '"' (Glyph.spell glyphs ++ '\\' :: letter :: rest) =
      .error ⟨.unknownEscape letter, '"' :: Glyph.spell glyphs, ['\\', letter]⟩ := by
  rw [read, if_pos rfl, readString, StringTail.read_spell_unknownEscape unknown]

theorem exists_spelling_of_readInteger (negative : Bool) {text : Text} {lexeme : Lexeme}
    (digit : text.head?.any Char.isDigit = true)
    (found : readInteger (Decimal.sign negative) text = .ok lexeme) :
    ∃ spelling : Spelling, spelling.EndsBefore lexeme.rest ∧
      lexeme = spelling.lexeme lexeme.rest := by
  simp only [readInteger] at found
  split at found
  · next noJunk =>
      split at found
      · next number inRange =>
          cases found
          rw [Offset.ofInt?_eq_some_iff] at inRange
          have value : number.value =
              Decimal.signed negative (Decimal.toNat (text.takeWhile Char.isDigit)) := by
            rw [inRange]
            cases negative <;> rfl
          refine ⟨.integer negative (text.takeWhile Char.isDigit) number
            (Text.takeWhile_ne_nil digit) (fun c taken => Text.accepted_of_mem_takeWhile taken)
            value, ?_, rfl⟩
          exact Text.stops_of_takeWhile_eq_nil (List.isEmpty_iff.1 noJunk)
      · cases found
  · cases found

/-- Everything that is read has a spelling. -/
theorem exists_spelling_of_read {lexeme : Lexeme} (found : read c tail = .ok lexeme) :
    ∃ spelling : Spelling, spelling.EndsBefore lexeme.rest ∧
      lexeme = spelling.lexeme lexeme.rest := by
  rw [read] at found
  split at found
  · rw [readString] at found
    split at found
    · next tail tailFound =>
        cases found
        rcases StringTail.exists_glyphs_of_read tailFound with ⟨glyphs, content, spelling⟩
        refine ⟨.string glyphs, trivial, ?_⟩
        simp [Spelling.lexeme, Spelling.token, Spelling.text, content, spelling]
    · cases found
    · cases found
  split at found
  · next digit =>
      exact exists_spelling_of_readInteger false (by simpa using digit) found
  split at found
  · next minus =>
      simp only [Bool.and_eq_true, decide_eq_true_eq] at minus
      rcases minus with ⟨rfl, digit⟩
      exact exists_spelling_of_readInteger true digit found
  split at found
  · next starts =>
      cases found
      have part := isWordPart_of_isWordStart starts
      refine ⟨.word c (tail.takeWhile isWordPart) starts
        (fun d taken => Text.accepted_of_mem_takeWhile taken), ?_, ?_⟩
      · exact Text.stops_dropWhile isWordPart (c :: tail)
      · simp [Spelling.lexeme, Spelling.token, Spelling.text, part]
  split at found
  · next sign known =>
      cases found
      rw [Marker.ofChar?_eq_some_iff] at known
      subst known
      exact ⟨.marker sign, trivial, rfl⟩
  · cases found

end Lexeme

namespace Spelling

theorem text_ne_nil (spelling : Spelling) : spelling.text ≠ [] := by
  cases spelling with
  | word first rest starts continues => simp [text]
  | integer negative digits number nonempty decimal value => simp [text, nonempty]
  | string glyphs => simp [text]
  | marker sign => simp [text]

/-- Two lexemes at the same place of a text are the same one. -/
theorem text_eq_of_append_eq {left right : Spelling} {leftRest rightRest : Text}
    (leftEnds : left.EndsBefore leftRest) (rightEnds : right.EndsBefore rightRest)
    (same : left.text ++ leftRest = right.text ++ rightRest) :
    left.text = right.text ∧ left.token = right.token ∧ leftRest = rightRest := by
  have nonempty : left.text ++ leftRest ≠ [] := by simp [text_ne_nil]
  rcases List.exists_cons_of_ne_nil nonempty with ⟨c, tail, split⟩
  have leftRead := Lexeme.read_spelling leftEnds split
  have rightRead := Lexeme.read_spelling rightEnds (same ▸ split)
  rw [leftRead] at rightRead
  simp only [Except.ok.injEq, lexeme, Lexeme.mk.injEq] at rightRead
  rcases rightRead with ⟨token, text, rest⟩
  exact ⟨text, token, rest⟩

/-- A spelling is determined by its text. -/
theorem eq_of_text_eq {left right : Spelling} (same : left.text = right.text) : left = right := by
  have sameToken : left.token = right.token :=
    (text_eq_of_append_eq left.endsBefore_nil right.endsBefore_nil (by rw [same])).2.1
  cases left with
  | word first rest starts continues =>
      cases right <;> cases sameToken
      rfl
  | integer negative digits number nonempty decimal value =>
      cases right with
      | integer otherNegative otherDigits otherNumber otherNonempty otherDecimal otherValue =>
          cases sameToken
          rcases Decimal.eq_of_sign_append_eq decimal otherDecimal same with ⟨rfl, rfl⟩
          rfl
      | word first rest starts continues => cases sameToken
      | string glyphs => cases sameToken
      | marker sign => cases sameToken
  | string glyphs =>
      cases right with
      | string others =>
          simp only [text, List.cons.injEq, true_and, List.append_cancel_right_eq] at same
          rw [Glyph.eq_of_spell_eq same]
      | word first rest starts continues => cases sameToken
      | integer negative digits number nonempty decimal value => cases sameToken
      | marker sign => cases sameToken
  | marker sign =>
      cases right <;> cases sameToken
      rfl

end Spelling

end Script

end TextCursor

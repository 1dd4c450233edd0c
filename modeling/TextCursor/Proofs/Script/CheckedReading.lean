import TextCursor.Proofs.Script.LineReading
import TextCursor.Proofs.Script.Scanner

/-!
# Checked reading

A scanner reads what `Line.read` reads, and none of its steps fails. Each part of it is held against
the reader of the same part, from any place at which it may start: string literals against
`StringTail.read`, tokens against `Lexeme.read`, and the loop over the tokens against `Line.read`. A
turn of a loop leaves a shorter text to come, which is why there is a last one.
-/

namespace TextCursor.Script

namespace Line

theorem read_blanks (start : Nat) (text : Text) :
    read start text =
      read (start + Text.utf8Size (text.takeWhile isBlank)) (text.dropWhile isBlank) := by
  induction text generalizing start with
  | nil => rfl
  | cons c rest ih =>
      by_cases blank : isBlank c = true
      · rw [read_blank blank, ih, List.takeWhile_cons_of_pos blank,
          List.dropWhile_cons_of_pos blank, Text.utf8Size_cons, Nat.add_assoc]
      · rw [List.takeWhile_cons_of_neg blank, List.dropWhile_cons_of_neg blank]
        rfl

end Line

namespace Scanner

variable {scanner : Scanner} {base : Nat} {before rest text : Text}

/-- What a string literal that starts at the given byte comes to, some of it having been read. -/
def stringOutcome (scanner : Scanner) (start : Nat) (content read : Text) (c : Char)
    (text : Text) : Except StringFault StringTail → Except Error (Text × Scanner)
  | .ok tail => .ok (content ++ tail.content, scanner.pass (c :: tail.spelling))
  | .error .unterminated =>
      .error ⟨.unterminatedString, ⟨start, Text.utf8Size (read ++ c :: text)⟩⟩
  | .error (.unknownEscape before letter) =>
      .error ⟨.unknownEscape letter,
        ⟨start + Text.utf8Size (read ++ c :: before), Text.utf8Size ['\\', letter]⟩⟩

/-- A glyph may be counted to what was read or to what is to come. -/
theorem stringOutcome_prepend (scanner : Scanner) (start : Nat) (content read front text : Text)
    (c d meant : Char) (result : Except StringFault StringTail) :
    stringOutcome (scanner.pass (c :: front)) start (content ++ [meant]) (read ++ c :: front) d text
        result =
      stringOutcome scanner start content read c (front ++ d :: text)
        (StringTail.read.prepend meant (front ++ [d]) result) := by
  cases result with
  | ok tail => simp [stringOutcome, StringTail.read.prepend, StringTail.cons, pass_pass]
  | error fault =>
      cases fault with
      | unterminated => simp [stringOutcome, StringTail.read.prepend]
      | unknownEscape before letter => simp [stringOutcome, StringTail.read.prepend]

/-- The loop sees the characters of a literal as they are spelled, two of them after a backslash. -/
theorem readString_eq (text : Text) {read content : Text} {c : Char} {start : Offset}
    (splits : scanner.Splits base (before ++ read) (c :: text))
    (value : start.value = before.length) :
    scanner.readString start content =
      .ok (stringOutcome scanner (base + before.utf8Size) content read c text
        (StringTail.read text)) := by
  have opened : (scanner.pass [c]).Splits base (before ++ (read ++ [c])) text := splits.pass_append
  fun_induction StringTail.read text generalizing scanner read content c with
  | case1 =>
      rw [readString, advance_eq_pass scanner c]
      simp only [opened.current_eq, List.head?_nil, opened.errorFrom_eq value]
      rfl
  | case2 rest =>
      rw [readString, advance_eq_pass scanner c]
      simp only [opened.current_eq, List.head?_cons, advance_pass scanner [c] '"']
      rw [stringOutcome, List.append_nil]
      rfl
  | case3 =>
      have escaped : (scanner.pass [c, '\\']).Splits base (before ++ (read ++ [c, '\\'])) [] :=
        splits.pass_append
      rw [readString, advance_eq_pass scanner c]
      simp only [opened.current_eq, List.head?_cons, advance_pass scanner [c] '\\']
      simp only [List.cons_append, List.nil_append, escaped.current_eq, List.head?_nil,
        escaped.errorFrom_eq value]
      rfl
  | case4 letter rest meant known ih =>
      have escaped : (scanner.pass [c, '\\']).Splits base (before ++ (read ++ [c, '\\']))
          (letter :: rest) := splits.pass_append
      have nearer : (scanner.pass [c, '\\']).cursor.toGo < scanner.cursor.toGo := by
        rw [escaped.toGo_eq, splits.toGo_eq]
        simp
      rw [readString, advance_eq_pass scanner c]
      simp only [opened.current_eq, List.head?_cons, advance_pass scanner [c] '\\']
      simp only [List.cons_append, List.nil_append, escaped.current_eq, List.head?_cons, known,
        if_pos nearer, if_true]
      rw [ih escaped escaped.pass_append]
      exact congrArg Except.ok
        (stringOutcome_prepend scanner _ content read ['\\'] rest c letter meant _)
  | case5 letter rest unknown =>
      have after : (scanner.pass [c, '\\', letter]).Splits base
          (before ++ (read ++ [c]) ++ ['\\', letter]) rest := by
        rw [← List.singleton_append, ← pass_pass]
        exact opened.pass
      have escaped : (scanner.pass [c, '\\']).Splits base (before ++ (read ++ [c, '\\']))
          (letter :: rest) := splits.pass_append
      rw [readString, advance_eq_pass scanner c]
      simp only [opened.current_eq, List.head?_cons, advance_pass scanner [c] '\\']
      simp only [List.cons_append, List.nil_append, escaped.current_eq, List.head?_cons, unknown,
        advance_pass scanner [c, '\\'] letter]
      simp only [after.errorFrom_eq opened.position_eq, Checked.ok_bind, stringOutcome]
      simp [Nat.add_assoc]
  | case6 d rest notQuote notLast notBackslash ih =>
      have notEscape : d ≠ '\\' := by
        rintro rfl
        cases rest with
        | nil => exact notLast rfl rfl
        | cons letter rest => exact notBackslash letter rest rfl rfl
      have nearer : (scanner.pass [c]).cursor.toGo < scanner.cursor.toGo := by
        rw [opened.toGo_eq, splits.toGo_eq]
        simp
      rw [readString, advance_eq_pass scanner c]
      simp only [opened.current_eq, List.head?_cons]
      rw [if_neg notQuote, if_neg notEscape, if_pos nearer, ih opened opened.pass_append]
      exact congrArg Except.ok (stringOutcome_prepend scanner _ content read [] rest c d d _)

/-- What a lexeme that starts at the given byte comes to. -/
def lexemeOutcome (scanner : Scanner) (start : Nat) :
    Except Misspelling Lexeme → Except Error (Token × Scanner)
  | .ok lexeme => .ok (lexeme.token, scanner.pass lexeme.spelling)
  | .error misspelling => .error (misspelling.error start)

theorem any_head?_eq (test : Char → Bool) (text : Text) :
    text.head?.any test = !(text.takeWhile test).isEmpty := by
  cases text with
  | nil => rfl
  | cons c rest =>
      rw [List.head?_cons, Option.any_some, List.takeWhile_cons]
      cases test c <;> rfl

/-- The cursor is on the sign, or on the first digit if there is no sign. -/
theorem readInteger_eq {sign : Text} (splits : scanner.Splits base before (sign ++ text))
    (signed : sign = ['-'] ∨ sign = [] ∧ text.head? ≠ some '-') :
    scanner.readInteger scanner.cursor.position =
      .ok (lexemeOutcome scanner (base + before.utf8Size) (Lexeme.readInteger sign text)) := by
  have negative : scanner.cursor.standsHere ['-'] = !sign.isEmpty := by
    rw [splits.standsHere_eq (List.cons_ne_nil _ _)]
    rcases signed with rfl | ⟨rfl, other⟩
    · simp
    · cases text with
      | nil => rfl
      | cons c rest =>
          have differs : '-' ≠ c := by
            rintro rfl
            exact other rfl
          simp [List.isPrefixOf, differs]
  have started : (if !sign.isEmpty then scanner.cursor.moveBy (.clamp 1) else scanner.cursor) =
      (scanner.pass sign).cursor := by
    rcases signed with rfl | ⟨rfl, -⟩
    · exact Cursor.moveBy_clamp (by decide) scanner.cursor
    · exact congrArg Prod.snd (Cursor.skip_nil scanner.cursor).symm
  have digits := splits.pass.pass_takeWhile Char.isDigit
  have junk := digits.pass_takeWhile isWordPart
  rw [List.append_assoc] at digits
  rw [List.append_assoc, List.append_assoc, ← List.append_assoc sign] at junk
  rw [readInteger, Checked.standsHere_eq, negative, Checked.ok_bind, started]
  dsimp only
  rw [splits.pass.takeWhile_eq, Checked.ok_bind]
  dsimp only
  rw [digits.current_eq, any_head?_eq, Lexeme.readInteger]
  by_cases whole : ((text.dropWhile Char.isDigit).takeWhile isWordPart).isEmpty = true
  · have sameNumber : (if (!sign.isEmpty) = true then
        -(Decimal.toNat (text.takeWhile Char.isDigit) : Int)
      else Decimal.toNat (text.takeWhile Char.isDigit)) =
        if sign.isEmpty = true then (Decimal.toNat (text.takeWhile Char.isDigit) : Int)
        else -Decimal.toNat (text.takeWhile Char.isDigit) := by
      cases sign <;> rfl
    rw [if_neg (by simp [whole]), if_pos whole, sameNumber]
    generalize Offset.ofInt? _ = number?
    cases number? with
    | none =>
        have failed := digits.errorFrom_eq splits.position_eq .integerOutOfRange
        exact congrArg (· >>= fun error => pure (Except.error error)) failed
    | some number =>
        have passed := pass_pass scanner sign (text.takeWhile Char.isDigit)
        exact congrArg (fun after => Except.ok (Except.ok (Token.integer number, after))) passed
  · rw [if_pos (by simp [whole]), if_neg whole]
    have failed := junk.errorFrom_eq splits.position_eq .malformedInteger
    rw [digits.takeWhile_eq]
    exact congrArg (· >>= fun error => pure (Except.error error)) failed

theorem readToken_eq {c : Char} (splits : scanner.Splits base before (c :: rest)) :
    scanner.readToken c =
      .ok (lexemeOutcome scanner (base + before.utf8Size) (Lexeme.read c rest)) := by
  have advanced : (scanner.pass [c]).Splits base (before ++ [c]) rest := Splits.pass splits
  rw [readToken, Lexeme.read]
  by_cases quote : c = '"'
  · subst quote
    have literal : scanner.Splits base (before ++ []) ('"' :: rest) := by
      rw [List.append_nil]
      exact splits
    rw [if_pos rfl, if_pos rfl, readString_eq rest literal splits.position_eq, Lexeme.readString]
    cases StringTail.read rest with
    | ok tail => rfl
    | error fault => cases fault <;> rfl
  rw [if_neg quote, if_neg quote]
  by_cases digit : c.isDigit = true
  · have unsigned : (c :: rest).head? ≠ some '-' := by
      rintro ⟨⟩
      exact absurd digit (by decide)
    rw [if_pos digit, if_pos digit]
    exact readInteger_eq splits (Or.inr ⟨rfl, unsigned⟩)
  rw [if_neg digit, if_neg digit, splits.peek_eq]
  by_cases minus : (c = '-' && rest.head?.any Char.isDigit) = true
  · rw [if_pos minus, if_pos minus]
    simp only [Bool.and_eq_true, decide_eq_true_eq] at minus
    rcases minus with ⟨rfl, -⟩
    exact readInteger_eq splits (Or.inl rfl)
  rw [if_neg minus, if_neg minus]
  by_cases letter : isWordStart c = true
  · rw [if_pos letter, if_pos letter, splits.takeWhile_eq]
    rfl
  rw [if_neg letter, if_neg letter]
  cases Marker.ofChar? c with
  | some marker => rfl
  | none =>
      have failed := advanced.errorFrom_eq splits.position_eq (.unexpectedCharacter c)
      exact congrArg (· >>= fun error => pure (Except.error error)) failed

theorem readExpectation_eq (splits : scanner.Splits base before ('=' :: '>' :: rest)) :
    scanner.readExpectation =
      .ok (Line.readExpectation (base + before.utf8Size + 2) rest) := by
  have arrow : scanner.cursor.moveBy (.clamp 2) = (scanner.pass ['=', '>']).cursor :=
    Cursor.moveBy_clamp (by decide) scanner.cursor
  have after : (scanner.pass ['=', '>']).Splits base (before ++ ['=', '>']) rest :=
    Splits.pass splits
  have reached := after.pass_takeWhile isBlank
  have whole : before ++ '=' :: '>' :: rest =
      before ++ ['=', '>'] ++ rest.takeWhile isBlank ++ rest.dropWhile isBlank := by
    rw [List.append_assoc _ _ (rest.dropWhile isBlank), List.takeWhile_append_dropWhile,
      List.append_assoc]
    rfl
  rw [readExpectation, arrow, after.consume_blanks, Checked.ok_bind]
  dsimp only
  rw [splits.byte_eq whole reached.position_eq, Checked.ok_bind, reached.sliceToEnd_eq]
  have arrowSize : Text.utf8Size ['=', '>'] = 2 := rfl
  simp only [Checked.ok_bind, Checked.pure_eq_ok, Line.readExpectation, Text.utf8Size_append,
    arrowSize, Nat.add_assoc]

/-- The scanner sees the arrow of an expectation where a line has it. -/
theorem arrow_iff {c : Char} :
    (decide (c = '=') && ['=', '>'].isPrefixOf (c :: rest)) = true ↔
      c = '=' ∧ rest.head? = some '>' := by
  simp only [Bool.and_eq_true, decide_eq_true_eq, List.isPrefixOf_iff_prefix]
  constructor
  · rintro ⟨rfl, expected, whole⟩
    cases whole
    exact ⟨rfl, rfl⟩
  · rintro ⟨rfl, follows⟩
    rcases List.head?_eq_some_iff.1 follows with ⟨expected, rfl⟩
    exact ⟨rfl, expected, rfl⟩

/-- The tokens that were read before come before those that are read. -/
theorem readLine_eq {text : Text} (splits : scanner.Splits base before text)
    (tokens : List (Spanned Token)) :
    scanner.readLine tokens =
      .ok ((Line.read (base + before.utf8Size) text).map (Line.following tokens)) := by
  induction size : text.length using Nat.strong_induction_on
    generalizing scanner before text tokens with
  | _ size ih =>
      subst size
      have here := splits.pass_takeWhile isBlank
      have shorter : (text.dropWhile isBlank).length ≤ text.length :=
        (List.dropWhile_suffix isBlank).length_le
      have solid := Text.stops_dropWhile isBlank text
      have started : base + before.utf8Size + Text.utf8Size (text.takeWhile isBlank) =
          base + Text.utf8Size (before ++ text.takeWhile isBlank) := by
        rw [Text.utf8Size_append, Nat.add_assoc]
      rw [readLine, splits.consume_blanks, Checked.ok_bind, Line.read_blanks, started]
      dsimp only
      rw [here.current_eq, withCursor_pass]
      generalize text.dropWhile isBlank = left at here shorter solid ⊢
      generalize before ++ text.takeWhile isBlank = front at here ⊢
      generalize scanner.pass (text.takeWhile isBlank) = reached at here ⊢
      cases left with
      | nil =>
          rw [Line.read]
          simp [Line.following, Except.map]
      | cons c rest =>
          have notBlank : isBlank c = false := solid c rfl
          dsimp only [List.head?_cons]
          rw [Checked.standsHere_eq, here.standsHere_eq (List.cons_ne_nil _ _), Checked.ok_bind]
          by_cases comment : c = '#'
          · subst comment
            rw [if_pos rfl, Line.read_comment]
            simp [Line.following, Except.map]
          rw [if_neg comment]
          by_cases arrow : c = '=' ∧ rest.head? = some '>'
          · rw [if_pos (arrow_iff.2 arrow)]
            rcases arrow with ⟨rfl, follows⟩
            rcases List.head?_eq_some_iff.1 follows with ⟨expected, rfl⟩
            rw [readExpectation_eq here, Line.read_arrow]
            simp [Line.following, Except.map]
          rw [if_neg (mt arrow_iff.1 arrow), readToken_eq here, Checked.ok_bind]
          cases found : Lexeme.read c rest with
          | error misspelling =>
              rw [Line.read_misspelling notBlank comment arrow found]
              rfl
          | ok lexeme =>
              have less := Nat.lt_of_lt_of_le (Lexeme.length_rest_lt_of_read found) shorter
              rw [← Lexeme.append_of_read found] at here
              have after := here.pass
              have nearer : (reached.pass lexeme.spelling).cursor.toGo < scanner.cursor.toGo := by
                rw [after.toGo_eq, splits.toGo_eq]
                exact less
              rw [Line.read_lexeme notBlank comment arrow found, lexemeOutcome]
              dsimp only
              rw [after.spanFrom_eq here.position_eq, Checked.ok_bind, if_pos nearer,
                ih lexeme.rest.length less after _ rfl, Text.utf8Size_append, Nat.add_assoc,
                Line.map_following_cons]
              rfl

/-- A line whose characters and bytes can be counted is read without a failing step. -/
theorem readLine_ofLine (arithmetic : Arithmetic) {line : Text}
    (fits : line.length < 9223372036854775808)
    (bytesFit : base + line.utf8Size < 18446744073709551616) :
    (ofLine arithmetic base line).readLine [] = .ok (Line.read base line) := by
  rw [readLine_eq (splits_ofLine arithmetic fits bytesFit), Line.map_following_nil]
  rfl

end Scanner

end TextCursor.Script

import TextCursor.Proofs.Script.CommandSpelling
import TextCursor.Proofs.Script.Composition
import TextCursor.Proofs.Script.NeatRendering
import TextCursor.Proofs.Script.Tiling

/-!
# Expectations

An expectation that is written after a line changes neither its tokens nor what it does: the layout
of the line goes on with the layout of the expectation, and the command is executed before anything
is compared. So the session that is left is the same, and the step is too unless the rendering of
the outcome is not the expected text. That rendering can always be expected, being neat.
-/

namespace TextCursor

namespace Script

theorem Spelling.endsBefore_append {spelling : Spelling} {rest tail : Text}
    (ends : spelling.EndsBefore rest) (stops : ∀ c ∈ tail.head?, isWordPart c = false) :
    spelling.EndsBefore (rest ++ tail) := by
  cases rest with
  | nil => exact endsBefore_of_stops stops
  | cons c more =>
      cases spelling with
      | word first more starts continues => exact ends
      | integer negative digits number nonempty decimal value => exact ends
      | string glyphs => trivial
      | marker sign => trivial

namespace Layout

/-- A layout that goes on with another one, if no comment and no expectation has ended it. -/
def followedBy : Layout → Layout → Layout
  | done, next => next
  | comment remark, _ => comment remark
  | expectation expected, _ => expectation expected
  | blank c spacing rest, next => blank c spacing (rest.followedBy next)
  | lexeme spelling rest, next => lexeme spelling (rest.followedBy next)

variable {layout next : Layout}

theorem text_followedBy (unended : layout.ending = []) (next : Layout) :
    (layout.followedBy next).text = layout.text ++ next.text := by
  induction layout with
  | done => rfl
  | comment remark => cases unended
  | expectation expected => cases unended
  | blank c spacing rest ih => rw [followedBy, text, text, ih unended, List.cons_append]
  | lexeme spelling rest ih => rw [followedBy, text, text, ih unended, List.append_assoc]

theorem separated_followedBy (unended : layout.ending = []) (separated : layout.Separated)
    (nextSeparated : next.Separated) (stops : ∀ c ∈ next.text.head?, isWordPart c = false) :
    (layout.followedBy next).Separated := by
  induction layout with
  | done => exact nextSeparated
  | comment remark => cases unended
  | expectation expected => cases unended
  | blank c spacing rest ih => exact ih unended separated
  | lexeme spelling rest ih =>
      have restUnended : rest.ending = [] := unended
      refine ⟨?_, ih restUnended separated.2⟩
      rw [text_followedBy restUnended]
      exact Spelling.endsBefore_append separated.1 stops

theorem line_followedBy (unended : layout.ending = []) (next : Layout) (start : Nat) :
    (layout.followedBy next).line start =
      ⟨(layout.line start).tokens ++ (next.line (start + layout.text.utf8Size)).tokens,
        (next.line (start + layout.text.utf8Size)).expectation?⟩ := by
  induction layout generalizing start with
  | done => rfl
  | comment remark => cases unended
  | expectation expected => cases unended
  | blank c spacing rest ih =>
      rw [followedBy, line, ih unended, text, Text.utf8Size_cons, Nat.add_assoc]
      rfl
  | lexeme spelling rest ih =>
      rw [followedBy, line, ih unended, text, Text.utf8Size_append, Nat.add_assoc]
      rfl

end Layout

namespace Line

/-- Whether a line that can be read ends in a comment. -/
def EndsInComment (text : Text) : Prop :=
  ∃ layout : Layout, layout.Separated ∧ layout.text = text ∧ layout.ending.head? = some '#'

theorem not_endsInComment_of_notMem {text : Text} (noSign : '#' ∉ text) :
    ¬EndsInComment text := by
  rintro ⟨layout, -, rfl, ending⟩
  apply noSign
  rw [layout.text_eq_append]
  exact List.mem_append_right _ (List.mem_of_mem_head? ending)

/-- A line with a text after it that is expected of it. -/
def expecting (text expected : Text) : Text := text ++ (" => ".toList ++ expected)

theorem value_readExpectation (start : Nat) (text : Text) :
    (readExpectation start text).value = Text.trimEnd (text.dropWhile isBlank) := rfl

theorem lineBreak_notMem_expecting {text expected : Text} (oneLine : '\n' ∉ text)
    (expectedOneLine : '\n' ∉ expected) : '\n' ∉ expecting text expected := by
  simp [expecting, oneLine, expectedOneLine]

theorem readExpectation_blank {c : Char} (spacing : isBlank c = true) (start : Nat)
    (text : Text) :
    readExpectation start (c :: text) = readExpectation (start + c.utf8Size) text := by
  simp only [readExpectation, List.takeWhile_cons_of_pos spacing,
    List.dropWhile_cons_of_pos spacing, Text.utf8Size_cons, Nat.add_assoc]

/-- An expectation after a line is read along with the tokens of the line. -/
theorem read_expecting {start : Nat} {text : Text} {line : Line}
    (found : read start text = .ok line) (unexpecting : line.expectation? = none)
    (noComment : ¬EndsInComment text) (expected : Text) :
    read start (expecting text expected) =
      .ok ⟨line.tokens, some (readExpectation (start + text.utf8Size + 4) expected)⟩ := by
  rcases exists_layout_of_read found with ⟨layout, separated, rfl⟩
  rw [read_text separated] at found
  cases found
  have unended : layout.ending = [] := by
    rcases Layout.ending_of_expectation_eq_none unexpecting with empty | comment
    · exact empty
    · exact absurd ⟨layout, separated, rfl, comment⟩ noComment
  have spacing : isBlank ' ' = true := by decide
  let next : Layout := .blank ' ' spacing (.expectation (' ' :: expected))
  have written : expecting layout.text expected = (layout.followedBy next).text := by
    rw [Layout.text_followedBy unended]
    rfl
  have whole : (layout.followedBy next).Separated := by
    have stops : ∀ c ∈ next.text.head?, isWordPart c = false := by
      intro c first
      cases first
      decide
    exact Layout.separated_followedBy unended separated trivial stops
  rw [written, read_text whole, Layout.line_followedBy unended]
  simp only [next, Layout.line, List.append_nil, readExpectation_blank spacing]
  rfl

end Line

end Script

namespace Session

open Script

variable {line : Line}

theorem run_of_notMem (session : Session) {text : Text} (oneLine : '\n' ∉ text) :
    session.run text =
      ((session.runLine 1 0 text).1.map Option.toList, (session.runLine 1 0 text).2) := by
  rw [run, Text.lines_of_notMem oneLine]
  simp only [runLines]
  rcases session.runLine 1 0 text with ⟨error | step?, left⟩
  · rfl
  · simp only [Except.map, List.append_nil]

/-- What a line with tokens comes to, and what it comes to if something is expected of it. -/
theorem runTokens_expecting (session : Session) (number : Nat) (nonempty : line.tokens ≠ [])
    (unexpecting : line.expectation? = none) :
    (∃ step left, session.runTokens number line = (.ok (some step), left) ∧
        ∀ expectation : Spanned Text,
          session.runTokens number ⟨line.tokens, some expectation⟩ =
            (if expectation.value = step.outcome.render then
              .ok (some step)
            else
              .error ⟨.expectationFailed expectation.value step.outcome.render, expectation.span⟩,
            left)) ∨
      ∃ error left, session.runTokens number line = (.error error, left) ∧
        ∀ expectation : Spanned Text,
          session.runTokens number ⟨line.tokens, some expectation⟩ = (.error error, left) := by
  have stillNonempty (expectation : Spanned Text) :
      (⟨line.tokens, some expectation⟩ : Line).tokens ≠ [] := nonempty
  rw [runTokens_of_nonempty number nonempty]
  cases parsed : Command.ofTokens line.tokens with
  | error error =>
      right
      refine ⟨error, session, rfl, ?_⟩
      intro expectation
      rw [runTokens_of_nonempty number (stillNonempty expectation), parsed]
  | ok command =>
      rcases executed : session.execute command with ⟨fault | outcome, left⟩
      · right
        refine ⟨⟨fault, line.span⟩, left, by simp only [executed], ?_⟩
        intro expectation
        rw [runTokens_of_nonempty number (stillNonempty expectation), parsed]
        simp only [executed]
        rfl
      · left
        refine ⟨⟨number, command.verb, outcome, line.span⟩, left, ?_, ?_⟩
        · simp only [executed, Line.mismatch?, unexpecting]
        · intro expectation
          rw [runTokens_of_nonempty number (stillNonempty expectation), parsed]
          by_cases agree : outcome.render = expectation.value
          · simp only [executed, Line.mismatch?, if_pos agree, if_pos agree.symm]
            rfl
          · simp only [executed, Line.mismatch?, if_neg agree, if_neg (Ne.symm agree)]

theorem run_of_read (session : Session) {text : Text} (read : Line.read 0 text = .ok line)
    (oneLine : '\n' ∉ text) :
    session.run text =
      ((session.runTokens 1 line).1.map Option.toList, (session.runTokens 1 line).2) := by
  rw [run_of_notMem session oneLine, runLine, read]

/--
Any text without a line break can be expected of a line with tokens that neither a comment nor an
expectation ends. If the line alone is a step, it is the same step if the text, without the blanks
before it and the white space after it, is the rendering of the outcome; otherwise the run fails and
tells both. The rendering itself can always be expected. If the line alone fails, it fails in the
same way. The session that is left is that of the line alone.
-/
theorem run_expecting (session : Session) {text : Text} {line : Line}
    (read : Line.read 0 text = .ok line) (nonempty : line.tokens ≠ [])
    (unexpecting : line.expectation? = none) (noComment : ¬Line.EndsInComment text)
    (oneLine : '\n' ∉ text) :
    (∃ step left, session.run text = (.ok [step], left) ∧
        (∀ expected : Text, '\n' ∉ expected →
          session.run (Line.expecting text expected) =
            (if Text.trimEnd (expected.dropWhile isBlank) = step.outcome.render then
              .ok [step]
            else
              .error ⟨.expectationFailed (Text.trimEnd (expected.dropWhile isBlank))
                  step.outcome.render,
                (Line.readExpectation (text.utf8Size + 4) expected).span⟩,
            left)) ∧
        session.run (Line.expecting text step.outcome.render) = (.ok [step], left)) ∨
      ∃ error left, session.run text = (.error error, left) ∧
        ∀ expected : Text, '\n' ∉ expected →
          session.run (Line.expecting text expected) = (.error error, left) := by
  have alone := run_of_read session read oneLine
  have extended (expected : Text) (expectedOneLine : '\n' ∉ expected) :=
    run_of_read session (Line.read_expecting read unexpecting noComment expected)
      (Line.lineBreak_notMem_expecting oneLine expectedOneLine)
  rcases runTokens_expecting session 1 nonempty unexpecting with
    ⟨step, left, ran, expecting⟩ | ⟨error, left, ran, expecting⟩
  · left
    refine ⟨step, left, ?_, ?_, ?_⟩
    · rw [alone, ran]
      rfl
    · intro expected expectedOneLine
      rw [extended expected expectedOneLine, expecting, Nat.zero_add, Line.value_readExpectation]
      by_cases agree : Text.trimEnd (expected.dropWhile isBlank) = step.outcome.render
      · rw [if_pos agree, if_pos agree]
        rfl
      · rw [if_neg agree, if_neg agree]
        rfl
    · have neat := step.outcome.neat_render
      rw [extended _ neat.lineBreak_notMem, expecting, Line.value_readExpectation,
        if_pos neat.trimmed]
      rfl
  · right
    refine ⟨error, left, ?_, ?_⟩
    · rw [alone, ran]
      rfl
    · intro expected expectedOneLine
      rw [extended expected expectedOneLine, expecting]
      rfl

/-- What `current` shows is expected, though a number sign is in it, and not without its quotes. -/
theorem run_expecting_numberSign :
    (ofText ['#']).run "current => '#'".toList =
        (.ok [⟨1, .current, .character '#', ⟨0, 7⟩⟩], ofText ['#']) ∧
      (ofText ['#']).run "current => # ".toList =
        (.error ⟨.expectationFailed "#".toList "'#'".toList, ⟨11, 1⟩⟩, ofText ['#']) := by
  have read : Line.read 0 "current".toList =
      .ok ⟨[⟨.word "current".toList, ⟨0, 7⟩⟩], none⟩ := by
    have found := Line.read_verb .current [] (by simp) 0
    rw [List.append_nil, Line.read] at found
    exact found
  have noComment : ¬Line.EndsInComment "current".toList :=
    Line.not_endsInComment_of_notMem (by decide)
  have oneLine : '\n' ∉ "current".toList := by decide
  have ran : (ofText ['#']).runTokens 1 ⟨[⟨.word "current".toList, ⟨0, 7⟩⟩], none⟩ =
      (.ok (some ⟨1, .current, .character '#', ⟨0, 7⟩⟩), ofText ['#']) := rfl
  have alone : (ofText ['#']).run "current".toList =
      (.ok [⟨1, .current, .character '#', ⟨0, 7⟩⟩], ofText ['#']) := by
    rw [run_of_read (ofText ['#']) read oneLine, ran]
    rfl
  rcases run_expecting (ofText ['#']) read (by simp) rfl noComment oneLine with
    ⟨step, left, same, compared, passes⟩ | ⟨error, left, fails, -⟩
  · rw [alone] at same
    cases same
    exact ⟨passes, compared "# ".toList (by decide)⟩
  · rw [alone] at fails
    cases fails

end Session

end TextCursor

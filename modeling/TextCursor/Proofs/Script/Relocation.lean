import TextCursor.Proofs.Script.LineReading
import TextCursor.Proofs.Script.LineRun
import TextCursor.Proofs.Script.Respanning

/-!
# Relocation

The place in a script at which a line starts shows in spans only. A line that starts `distance`
bytes later is read, parsed and executed in the same way, and every span in its tokens, its step or
its error starts `distance` bytes later; line numbers are given to steps and to nothing else. Each
reader has one lemma for this, and `Session.runLines_shift` states it of a run of any lines.
-/

namespace TextCursor

namespace Span

/-- The span of the same length that starts `distance` bytes later. -/
def shift (distance : Nat) (span : Span) : Span := ⟨span.start + distance, span.length⟩

@[simp]
theorem start_shift (distance : Nat) (span : Span) :
    (span.shift distance).start = span.start + distance := rfl

@[simp]
theorem length_shift (distance : Nat) (span : Span) :
    (span.shift distance).length = span.length := rfl

theorem stop_shift (distance : Nat) (span : Span) :
    (span.shift distance).stop = span.stop + distance := by
  simp only [stop, start_shift, length_shift]
  omega

theorem hull_shift (distance : Nat) (left right : Span) :
    (left.shift distance).hull (right.shift distance) = (left.hull right).shift distance := by
  ext
  · simp only [start_hull, start_shift]
    omega
  · simp only [hull, length_shift, stop_shift, start_shift]
    omega

theorem foldl_hull_shift (distance : Nat) (first : Span) (rest : List Span) :
    (rest.map (shift distance)).foldl hull (first.shift distance) =
      (rest.foldl hull first).shift distance := by
  induction rest generalizing first with
  | nil => rfl
  | cons span rest ih =>
      simp only [List.map_cons, List.foldl_cons, hull_shift]
      exact ih (first.hull span)

theorem hullAll_shift (distance : Nat) {spans : List Span} (nonempty : spans ≠ []) :
    hullAll (spans.map (shift distance)) = (hullAll spans).shift distance := by
  cases spans with
  | nil => exact absurd rfl nonempty
  | cons first rest => exact foldl_hull_shift distance first rest

end Span

namespace Spanned

variable {Value : Type}

def shift (distance : Nat) (spanned : Spanned Value) : Spanned Value :=
  ⟨spanned.value, spanned.span.shift distance⟩

@[simp]
theorem value_shift (distance : Nat) (spanned : Spanned Value) :
    (spanned.shift distance).value = spanned.value := rfl

@[simp]
theorem span_shift (distance : Nat) (spanned : Spanned Value) :
    (spanned.shift distance).span = spanned.span.shift distance := rfl

end Spanned

namespace Script

variable {Value : Type} {distance : Nat}

/-- A result whose error is about bytes that come `distance` later. -/
def shiftError (distance : Nat) (result : Except Error Value) : Except Error Value :=
  result.mapError (Spanned.shift distance)

@[simp]
theorem shiftError_ok (value : Value) : shiftError distance (.ok value) = .ok value := rfl

@[simp]
theorem shiftError_error (error : Error) :
    shiftError distance (.error error : Except Error Value) = .error (error.shift distance) := rfl

theorem shiftError_eq_ok_iff {result : Except Error Value} {value : Value} :
    shiftError distance result = .ok value ↔ result = .ok value := by
  cases result with
  | error error => simp
  | ok other => simp

namespace Line

def shift (distance : Nat) (line : Line) : Line :=
  ⟨line.tokens.map (Spanned.shift distance), line.expectation?.map (Spanned.shift distance)⟩

theorem readExpectation_shift (start : Nat) (text : Text) :
    readExpectation (start + distance) text = (readExpectation start text).shift distance := by
  ext
  · rfl
  · simp only [readExpectation, Spanned.span_shift, Span.start_shift]
    omega
  · rfl

end Line

theorem Misspelling.error_shift (misspelling : Misspelling) (start : Nat) :
    misspelling.error (start + distance) = (misspelling.error start).shift distance := by
  ext
  · rfl
  · simp only [error, Spanned.span_shift, Span.start_shift]
    omega
  · rfl

theorem Lexeme.spanned_shift (lexeme : Lexeme) (start : Nat) :
    lexeme.spanned (start + distance) = (lexeme.spanned start).shift distance := rfl

/-- A line that starts later is read as the same line with later spans. -/
theorem Line.read_shift (distance start : Nat) (text : Text) :
    read (start + distance) text =
      shiftError distance ((read start text).map (Line.shift distance)) := by
  fun_induction read start text with
  | case1 start =>
      rw [read]
      rfl
  | case2 start c rest blank ih => rw [read_blank blank, Nat.add_right_comm, ih]
  | case3 start rest blank =>
      rw [read_comment]
      rfl
  | case4 start c rest blank noComment arrow =>
      rw [read, if_neg blank, if_neg noComment, if_pos arrow, Nat.add_right_comm,
        readExpectation_shift]
      rfl
  | case5 start c rest blank noComment noArrow misspelling failed =>
      rw [read_misspelling (Bool.eq_false_iff.2 blank) noComment noArrow failed,
        Misspelling.error_shift]
      rfl
  | case6 start c rest blank noComment noArrow lexeme found shorter ih =>
      rw [read_lexeme (Bool.eq_false_iff.2 blank) noComment noArrow found,
        Nat.add_right_comm, ih, Lexeme.spanned_shift]
      cases read (start + lexeme.spelling.utf8Size) lexeme.rest with
      | error error => rfl
      | ok line => rfl

/-- A line that is read anywhere is read everywhere, and in the same way but for its place. -/
theorem Line.exists_origin_of_read {start : Nat} {text : Text} {line : Line}
    (found : read start text = .ok line) :
    ∃ origin : Line, line = origin.shift start ∧
      ∀ base, read base text = .ok (origin.shift base) := by
  have fromStart (base : Nat) := read_shift base 0 text
  simp only [Nat.zero_add] at fromStart
  rw [fromStart, shiftError_eq_ok_iff] at found
  cases alone : read 0 text with
  | error error =>
      rw [alone] at found
      cases found
  | ok origin =>
      rw [alone] at found
      cases found
      refine ⟨origin, rfl, ?_⟩
      intro base
      rw [fromStart, alone]
      rfl

/-- Without tokens there is no place, and the error is about the start of the script. -/
theorem Command.ofTokens_shift {tokens : List (Spanned Token)} (nonempty : tokens ≠ []) :
    ofTokens (tokens.map (Spanned.shift distance)) = shiftError distance (ofTokens tokens) :=
  ofTokens_mapSpan (Span.shift distance) nonempty

namespace Line

variable {line : Line}

theorem tokens_shift_ne_nil (nonempty : line.tokens ≠ []) :
    (line.shift distance).tokens ≠ [] := by
  simpa [shift] using nonempty

theorem span_shift (nonempty : line.tokens ≠ []) :
    (line.shift distance).span = line.span.shift distance := by
  have spans : (line.shift distance).tokens.map Spanned.span =
      (line.tokens.map Spanned.span).map (Span.shift distance) := by
    simp [shift, Function.comp_def]
  rw [span, spans, Span.hullAll_shift distance (by simpa using nonempty), span]

theorem mismatch?_shift (line : Line) (outcome : Outcome) :
    (line.shift distance).mismatch? outcome =
      (line.mismatch? outcome).map (Spanned.shift distance) := by
  rcases line with ⟨tokens, _ | expectation⟩
  · rfl
  · by_cases agree : outcome.render = expectation.value
    · simp [mismatch?, shift, agree]
    · simp [mismatch?, shift, agree, Spanned.shift]

end Line

/-- The step of a line that comes `lines` lines and `distance` bytes later. -/
def Step.shift (lines distance : Nat) (step : Step) : Step :=
  { step with line := step.line + lines, span := step.span.shift distance }

end Script

namespace Session

open Script

/-- What a run comes to if it starts `lines` lines and `distance` bytes later. -/
def shiftSteps (lines distance : Nat) (result : Except Error (List Step)) :
    Except Error (List Step) :=
  shiftError distance (result.map (List.map (Step.shift lines distance)))

variable {lines distance : Nat}

theorem runTokens_shift (session : Session) (number : Nat) (line : Line) :
    session.runTokens (number + lines) (line.shift distance) =
      (shiftError distance
          ((session.runTokens number line).1.map (Option.map (Step.shift lines distance))),
        (session.runTokens number line).2) := by
  by_cases empty : line.tokens = []
  · rcases line with ⟨tokens, _ | expectation⟩
    · cases empty
      rfl
    · cases empty
      rfl
  · have parsed : Command.ofTokens (line.shift distance).tokens =
        shiftError distance (Command.ofTokens line.tokens) :=
      Command.ofTokens_shift empty
    rw [runTokens_of_nonempty _ (Line.tokens_shift_ne_nil empty), runTokens_of_nonempty _ empty,
      parsed, Line.span_shift empty]
    cases Command.ofTokens line.tokens with
    | error error => rfl
    | ok command =>
        rw [shiftError_ok]
        rcases ran : session.execute command with ⟨fault | outcome, left⟩
        · simp only [ran]
          rfl
        · simp only [ran, Line.mismatch?_shift]
          cases line.mismatch? outcome with
          | none => rfl
          | some error => rfl

theorem runLine_shift (session : Session) (number start : Nat) (text : Text) :
    session.runLine (number + lines) (start + distance) text =
      (shiftError distance
          ((session.runLine number start text).1.map (Option.map (Step.shift lines distance))),
        (session.runLine number start text).2) := by
  rw [runLine, runLine, Line.read_shift]
  cases Line.read start text with
  | error error => rfl
  | ok line => exact runTokens_shift session number line

/-- Lines that come later run as they do where they are, with later spans and numbers. -/
theorem runLines_shift (session : Session) (number start : Nat) (texts : List Text) :
    session.runLines (number + lines) (start + distance) texts =
      (shiftSteps lines distance (session.runLines number start texts).1,
        (session.runLines number start texts).2) := by
  induction texts generalizing session number start with
  | nil => rfl
  | cons text rest ih =>
      have next : start + distance + text.utf8Size + 1 = start + text.utf8Size + 1 + distance := by
        omega
      simp only [runLines, runLine_shift, Nat.add_right_comm number lines 1, next]
      rcases session.runLine number start text with ⟨error | step?, left⟩
      · rfl
      · simp only [Except.map, shiftError_ok, ih]
        rcases left.runLines (number + 1) (start + text.utf8Size + 1) rest with
          ⟨error | steps, final⟩
        · rfl
        · cases step? with
          | none => rfl
          | some step => rfl

end Session

end TextCursor

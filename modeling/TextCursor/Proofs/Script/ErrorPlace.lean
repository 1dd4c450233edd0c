import TextCursor.Proofs.Script.Excerpt
import TextCursor.Proofs.Script.FirstOffence
import TextCursor.Proofs.Script.Placement

/-!
# Places of errors

An error is shown by underlining its span in the script, so the span has to be a range of whole
characters on the line that failed. Every reader blames a part of the text in front of it: a
misspelling names the part that offends, a command blames one of its tokens, a failed execution all
of them, and a failed comparison the expectation. The empty range at the start of the script, which
stands for the place of no token at all, is blamed by no run.
-/

namespace TextCursor

namespace Text

theorem IsBoundary.le {text : Text} {place : Nat} (boundary : text.IsBoundary place) :
    place ≤ text.utf8Size := by
  rcases boundary with ⟨before, after, rfl, rfl⟩
  rw [utf8Size_append]
  exact Nat.le_add_right ..

theorem IsBoundary.within {text : Text} {place : Nat} (boundary : text.IsBoundary place)
    (front back : Text) : IsBoundary (front ++ (text ++ back)) (front.utf8Size + place) := by
  rcases boundary with ⟨before, after, rfl, rfl⟩
  exact ⟨front ++ before, after ++ back, by simp only [List.append_assoc], utf8Size_append ..⟩

end Text

namespace Span

/-- Whether a span is a range of whole characters of a text that starts at the byte `start`. -/
structure IsRangeOf (span : Span) (start : Nat) (text : Text) : Prop where
  start_le : start ≤ span.start
  stop_le : span.stop ≤ start + text.utf8Size
  start_boundary : text.IsBoundary (span.start - start)
  stop_boundary : text.IsBoundary (span.stop - start)

variable {span : Span} {start : Nat} {text part : Text}

theorem Marks.isRangeOf (marks : span.Marks start text part) : span.IsRangeOf start text where
  start_le := marks.start_le
  stop_le := by
    have inside := marks.stop_boundary.le
    omega
  start_boundary := marks.start_boundary
  stop_boundary := marks.stop_boundary

theorem isRangeOf_of_append {before after : Text} (split : text = before ++ (part ++ after))
    (start : Nat) : IsRangeOf ⟨start + before.utf8Size, part.utf8Size⟩ start text :=
  (marks_of_append split start).isRangeOf

/-- A range of a part of a text is a range of the text. -/
theorem IsRangeOf.within (front : Text) (range : span.IsRangeOf (start + front.utf8Size) text)
    (back : Text) : span.IsRangeOf start (front ++ (text ++ back)) where
  start_le := by
    have startLe := range.start_le
    omega
  stop_le := by
    have stopLe := range.stop_le
    simp only [Text.utf8Size_append]
    omega
  start_boundary := by
    have startLe := range.start_le
    have same : span.start - start = front.utf8Size + (span.start - (start + front.utf8Size)) := by
      omega
    rw [same]
    exact range.start_boundary.within front back
  stop_boundary := by
    have startLe := range.start_le
    have same : span.stop - start = front.utf8Size + (span.stop - (start + front.utf8Size)) := by
      simp only [stop]
      omega
    rw [same]
    exact range.stop_boundary.within front back

end Span

namespace Script

namespace Line

variable {start : Nat} {text : Text} {line : Line} {error : Error}

/-- A line that cannot be read has the part of it that is to blame. -/
theorem isRangeOf_of_read_error (failed : read start text = .error error) :
    error.span.IsRangeOf start text := by
  rcases exists_offending_of_read failed with ⟨front, opening, part, after, split, -, -, span⟩
  rw [span]
  apply Span.isRangeOf_of_append
  rw [split, List.append_assoc]

theorem isRangeOf_of_mem_tokens (found : read start text = .ok line) {token : Spanned Token}
    (mem : token ∈ line.tokens) : token.span.IsRangeOf start text := by
  rcases exists_layout_of_read found with ⟨layout, separated, rfl⟩
  rw [read_text separated] at found
  cases found
  rcases (layout.tiles start).spelled token mem with ⟨spelling, marks, -⟩
  exact marks.isRangeOf

theorem isRangeOf_of_mem_expectation (found : read start text = .ok line)
    {expectation : Spanned Text} (mem : expectation ∈ line.expectation?) :
    expectation.span.IsRangeOf start text ∧ start + 2 ≤ expectation.span.start := by
  rcases exists_layout_of_read found with ⟨layout, separated, rfl⟩
  rw [read_text separated] at found
  cases found
  rcases (layout.tiles start).expecting expectation mem with ⟨-, afterArrow, marks⟩
  exact ⟨marks.isRangeOf, by omega⟩

theorem isRangeOf_span (found : read start text = .ok line) (nonempty : line.tokens ≠ []) :
    line.span.IsRangeOf start text := by
  rcases exists_excerpt found nonempty with ⟨before, part, after, split, span, -⟩
  rw [span]
  exact Span.isRangeOf_of_append split start

end Line

variable {tokens : List (Spanned Token)} {error : Error}

/-- Whether an error is about one of some tokens, and not about the lack of a command. -/
structure Error.BlamesOneOf (error : Error) (tokens : List (Spanned Token)) : Prop where
  present : error.value ≠ .missingCommand
  span_mem : error.span ∈ tokens.map Spanned.span

namespace Command

/-- Tokens that are no command have one that is to blame. -/
theorem blames_of_ofTokens_error (nonempty : tokens ≠ [])
    (failed : ofTokens tokens = .error error) : error.BlamesOneOf tokens := by
  cases tokens with
  | nil => exact absurd rfl nonempty
  | cons head arguments =>
      rcases ofTokens_error_cases failed with ⟨-, rfl⟩ | ⟨verb, -, refuses⟩
      · exact ⟨by simp, by simp⟩
      · cases refuses with
        | missing expected viable => exact ⟨by simp, by simp⟩
        | invalid expected split viable takes stuck => exact ⟨by simp, by simp [split]⟩
        | unexpected split viable full => exact ⟨by simp, by simp [split]⟩

end Command

end Script

namespace Session

open Script

variable {session next final : Session} {placed : PlacedLine} {error : Error}

/-- A line that stops a script has a range of it that is to blame. -/
theorem isRangeOf_of_stops (stops : session.Stops placed error final) :
    error.span.IsRangeOf placed.start placed.text := by
  cases stops with
  | unreadable unread => exact Line.isRangeOf_of_read_error unread
  | bare read => exact (Line.isRangeOf_of_mem_expectation read rfl).1
  | unparsed read nonempty unparsed =>
      have blames := Command.blames_of_ofTokens_error nonempty unparsed
      rcases List.mem_map.1 blames.span_mem with ⟨token, mem, span⟩
      rw [← span]
      exact Line.isRangeOf_of_mem_tokens read mem
  | failed read parsed executed =>
      exact Line.isRangeOf_span read (tokens_ne_nil_of_parsed parsed)
  | unexpected read parsed executed expected differ =>
      exact (Line.isRangeOf_of_mem_expectation read expected).1

/-- A command is missing before an arrow, and never in front of nothing. -/
theorem exists_expectation_of_stops (stops : session.Stops placed error final)
    (missing : error.value = .missingCommand) :
    ∃ expectation, placed.read = .ok ⟨[], some expectation⟩ ∧ error.span = expectation.span ∧
      placed.start + 2 ≤ error.span.start := by
  cases stops with
  | unreadable unread =>
      have stage := Line.stage_of_read_error unread
      rw [missing] at stage
      cases stage
  | @bare expectation read =>
      exact ⟨expectation, read, rfl, (Line.isRangeOf_of_mem_expectation read rfl).2⟩
  | unparsed read nonempty unparsed =>
      exact absurd missing (Command.blames_of_ofTokens_error nonempty unparsed).present
  | failed read parsed executed =>
      have stage := stage_of_execute_error executed
      cases missing
      cases stage
  | unexpected read parsed executed expected differ => cases missing

/--
A run that fails stops at a line and is about a range of whole characters of it, which is a range of
the script and the one to be underlined. If it is for the lack of a command, the range is that of an
expectation on the line, and not the empty one at the start of the script.
-/
theorem run_error_inside {script : Text} (ran : session.run script = (.error error, final)) :
    ∃ before text after steps next, script.lines = before ++ text :: after ∧ '\n' ∉ text ∧
      session.Completes (PlacedLine.place 1 0 before) steps next ∧
      next.Stops ⟨before.length + 1, Text.linesSize before, text⟩ error final ∧
      error.span.IsRangeOf (Text.linesSize before) text ∧ error.span.IsRangeOf 0 script ∧
      error.labels = [error.span] ∧
      (error.value = .missingCommand → error.span ≠ .origin ∧
        ∃ expectation, Line.read (Text.linesSize before) text = .ok ⟨[], some expectation⟩ ∧
          error.span = expectation.span) := by
  rcases exists_stops_of_runLines_eq_error ran with
    ⟨before, text, after, steps, next, lines, completes, stops⟩
  rw [Nat.add_comm, Nat.zero_add] at stops
  have mem : (⟨before.length + 1, Text.linesSize before, text⟩ : PlacedLine) ∈
      PlacedLine.place 1 0 script.lines := by
    rw [lines]
    have here := PlacedLine.mem_place_append 1 0 before text after
    rwa [Nat.add_comm, Nat.zero_add] at here
  rcases PlacedLine.exists_split_of_mem_place (fun _ => Text.notMem_of_mem_lines) mem with
    ⟨front, back, whole, -, start, oneLine⟩
  rw [Text.intercalate_lines] at whole
  have range := isRangeOf_of_stops stops
  refine ⟨before, text, after, steps, next, lines, oneLine, completes, stops, range, ?_, rfl, ?_⟩
  · rw [whole]
    apply Span.IsRangeOf.within
    rwa [← start]
  · intro missing
    rcases exists_expectation_of_stops stops missing with ⟨expectation, read, span, afterArrow⟩
    refine ⟨?_, expectation, read, span⟩
    intro origin
    rw [origin] at afterArrow
    cases afterArrow

/-- The range to blame counts bytes, and is on the second line. -/
theorem run_error_inside_afterComment :
    (default : Session).run "# é\n => é".toList = (.error ⟨.missingCommand, ⟨9, 2⟩⟩, default) ∧
      ∃ before text after, Text.lines "# é\n => é".toList = before ++ text :: after ∧
        (⟨9, 2⟩ : Span).IsRangeOf (Text.linesSize before) text ∧
        (⟨9, 2⟩ : Span).IsRangeOf 0 "# é\n => é".toList := by
  have lines : Text.lines "# é\n => é".toList = ["# é".toList, " => é".toList] := by decide
  have comment : Line.read 0 "# é".toList = .ok ⟨[], none⟩ := Line.read_comment 0 " é".toList
  have bare : Line.read 5 " => é".toList = .ok ⟨[], some ⟨"é".toList, ⟨9, 2⟩⟩⟩ := by
    have arrow := Line.read_arrow 6 " é".toList
    exact (Line.read_blank (by decide) 5).trans arrow
  have skipped : (default : Session).runTokens 1 ⟨[], none⟩ = (.ok none, default) := rfl
  have stopped : (default : Session).runTokens 2 ⟨[], some ⟨"é".toList, ⟨9, 2⟩⟩⟩ =
      (.error ⟨.missingCommand, ⟨9, 2⟩⟩, default) := rfl
  have ran : (default : Session).run "# é\n => é".toList =
      (.error ⟨.missingCommand, ⟨9, 2⟩⟩, default) := by
    have size : 0 + Text.utf8Size "# é".toList + 1 = 5 := by decide
    rw [run, lines]
    simp only [runLines, runLine, comment, skipped, size, bare, stopped]
    rfl
  rcases run_error_inside ran with
    ⟨before, text, after, -, -, pieces, -, -, -, onLine, inScript, -, -⟩
  exact ⟨ran, before, text, after, pieces, onLine, inScript⟩

end Session

end TextCursor

import TextCursor.Proofs.Script.Replay
import TextCursor.Proofs.Script.TrailingReturn

/-!
# Scripts with carriage returns

A script whose line breaks have a carriage return each before them has the lines of the script,
each but the last one with a return at its end. Line by line it does what the script does: lines
that pass do so with the same steps, and a line that stops the script stops it with the same fault,
unless it breaks off in an escape. Every return moves what comes after it by one byte, so the span
of a step is moved by the number of line breaks before it.
-/

namespace TextCursor

namespace Text

/-- The text with a carriage return before each of its line breaks. -/
def withReturns (text : Text) : Text :=
  text.flatMap fun c => if c = '\n' then ['\r', '\n'] else [c]

/-- How many line breaks begin before a byte. -/
def lineBreaksBefore (text : Text) (place : Nat) : Nat :=
  (Span.cut ⟨0, place⟩ 0 text).count '\n'

/-- Lines of which each but the last one is given a carriage return at its end. -/
def returnLines : List Text → List Text
  | [] => []
  | [last] => [last]
  | line :: next :: rest => returned line :: returnLines (next :: rest)

theorem returnLines_append (before : List Text) (line : Text) (after : List Text) :
    returnLines (before ++ line :: after) =
      before.map returned ++ returnLines (line :: after) := by
  induction before with
  | nil => rfl
  | cons first rest ih =>
      have nonempty : rest ++ line :: after ≠ [] := by simp
      rcases List.exists_cons_of_ne_nil nonempty with ⟨next, others, split⟩
      rw [split] at ih
      simp only [List.cons_append, split, returnLines, ih, List.map_cons]

theorem returnLines_modifyHead (c : Char) (lines : List Text) :
    returnLines (lines.modifyHead (List.cons c)) =
      (returnLines lines).modifyHead (List.cons c) := by
  cases lines with
  | nil => rfl
  | cons line rest =>
      cases rest with
      | nil => rfl
      | cons next others => rfl

theorem lines_withReturns (text : Text) : lines text.withReturns = returnLines (lines text) := by
  induction text with
  | nil => rfl
  | cons c rest ih =>
      rcases List.exists_cons_of_ne_nil (lines_ne_nil rest) with ⟨first, others, pieces⟩
      simp only [withReturns] at ih
      by_cases lineBreak : c = '\n'
      · simp only [withReturns, List.flatMap_cons, lineBreak, if_true, List.cons_append,
          List.nil_append, lines_cons, ih, pieces, returnLines, returned]
        rfl
      · simp only [withReturns, List.flatMap_cons, lineBreak, if_false, List.cons_append,
          List.nil_append, lines_cons, ih, returnLines_modifyHead]

/-- The line breaks before a part of a text are those of what comes before the part. -/
theorem lineBreaksBefore_append (before rest : Text) :
    lineBreaksBefore (before ++ rest) before.utf8Size = before.count '\n' := by
  have cut := Span.cut_of_append [] before rest 0
  simp only [List.nil_append, utf8Size_nil, Nat.add_zero] at cut
  rw [lineBreaksBefore, cut]

theorem linesSize_map_returned (lines : List Text) :
    linesSize (lines.map returned) = linesSize lines + lines.length := by
  induction lines with
  | nil => rfl
  | cons line rest ih =>
      simp only [List.map_cons, linesSize_cons, utf8Size_returned, ih, List.length_cons]
      omega

end Text

namespace Script

namespace Step

/-- A step whose span is moved by one byte for each line break that is before it in its script. -/
def pastReturns (script : Text) (step : Step) : Step :=
  { step with span := step.span.shift (script.lineBreaksBefore step.span.start) }

/-- A step whose span is moved by one byte for each line before its own. -/
def pastLines (step : Step) : Step := step.shift 0 (step.line - 1)

theorem StandsIn.pastReturns_eq {step : Step} {script : Text} (stands : step.StandsIn script) :
    step.pastReturns script = step.pastLines := by
  rcases stands with ⟨before, after, split, span, line⟩
  have lineBreaks : script.lineBreaksBefore step.span.start = step.line - 1 := by
    rw [split, span, Text.lineBreaksBefore_append, line, Nat.add_sub_cancel]
  simp only [pastReturns, pastLines, shift, lineBreaks, Nat.add_zero]

end Step

theorem Line.span_of_agrees {line other : Line} (agrees : other.Agrees line) :
    other.span = line.span := by
  simp only [span, agrees.tokens_eq]

end Script

namespace Session

open Script

variable {session next final : Session} {step? : Option Step} {steps : List Step} {error : Error}
  {text : Text} {number start lineBreaks : Nat}

/-! ### Lines that pass -/

theorem line_of_passes (passes : session.Passes ⟨number, start, text⟩ step? next) :
    ∀ step ∈ step?, step.line = number := by
  intro step mem
  cases passes with
  | empty read => cases mem
  | command entry same executed =>
      cases mem
      simp only [Entry.step, same]

theorem passes_shift (passes : session.Passes ⟨number, start, text⟩ step? next)
    (distance : Nat) :
    session.Passes ⟨number, start + distance, text⟩ (step?.map (Step.shift 0 distance)) next := by
  have ran := runLine_of_passes passes
  have shifted : session.runLine (number + 0) (start + distance) text =
      (.ok (step?.map (Step.shift 0 distance)), next) := by
    simp only [runLine_shift, ran, Except.map, shiftError_ok]
  exact runLine_eq_ok_iff.1 shifted

/-- On a line after line breaks with returns, a step is as many bytes later. -/
theorem passes_pastLines
    (passes : session.Passes ⟨lineBreaks + 1, start, text⟩ step? next) :
    session.Passes ⟨lineBreaks + 1, start + lineBreaks, text⟩ (step?.map Step.pastLines) next := by
  have moved := passes_shift passes lineBreaks
  cases step? with
  | none => exact moved
  | some step =>
      have line := line_of_passes passes step rfl
      simp only [Option.map_some, Step.pastLines, line, Nat.add_sub_cancel]
      exact moved

theorem passes_returned (passes : session.Passes ⟨number, start, text⟩ step? next) :
    session.Passes ⟨number, start, Text.returned text⟩ step? next := by
  cases passes with
  | empty read =>
      rcases Line.exists_agrees_of_read read with ⟨⟨tokens, expectation?⟩, otherRead, agrees⟩
      have noTokens : tokens = [] := agrees.tokens_eq
      have unexpecting : expectation? = none := Option.map_eq_none_iff.1 agrees.expected_eq
      subst noTokens unexpecting
      exact .empty otherRead
  | command entry same executed =>
      rcases entry with ⟨placed, line, command, outcome, read, parsed, asExpected⟩
      cases same
      rcases Line.exists_agrees_of_read read with ⟨other, otherRead, agrees⟩
      have otherParsed : Command.ofTokens other.tokens = .ok command := by
        rw [agrees.tokens_eq, parsed]
      have otherExpected : ∀ expectation ∈ other.expectation?,
          outcome.render = expectation.value := by
        intro expectation mem
        have value : expectation.value ∈ line.expectation?.map Spanned.value := by
          rw [← agrees.expected_eq]
          exact Option.mem_map_of_mem Spanned.value mem
        rcases Option.map_eq_some_iff.1 value with ⟨original, originalMem, sameValue⟩
        rw [← sameValue]
        exact asExpected original originalMem
      let otherEntry : Entry := ⟨⟨number, start, Text.returned text⟩, other, command, outcome,
        otherRead, otherParsed, otherExpected⟩
      have passes :
          session.Passes ⟨number, start, Text.returned text⟩ (some otherEntry.step) next :=
        .command otherEntry rfl executed
      simp only [Entry.step, otherEntry, Line.span_of_agrees agrees] at passes
      exact passes

theorem completes_returned {before : List Text}
    (completes : session.Completes (PlacedLine.place (lineBreaks + 1) start before) steps next) :
    session.Completes
      (PlacedLine.place (lineBreaks + 1) (start + lineBreaks) (before.map Text.returned))
      (steps.map Step.pastLines) next := by
  induction before generalizing session lineBreaks start steps with
  | nil =>
      rcases completes_nil_iff.1 completes with ⟨rfl, rfl⟩
      exact completes_nil_iff.2 ⟨rfl, rfl⟩
  | cons line rest ih =>
      rcases exists_passes_of_completes_cons completes with
        ⟨step?, middle, others, passes, restCompletes, rfl⟩
      have first := passes_pastLines (passes_returned passes)
      have later := ih restCompletes
      have place : start + lineBreaks + (Text.returned line).utf8Size + 1 =
          start + line.utf8Size + 1 + (lineBreaks + 1) := by
        rw [Text.utf8Size_returned]
        omega
      rw [← place] at later
      have whole := completes_cons_of_passes first later
      rw [List.map_append, ← Option.toList_map]
      exact whole

/-! ### Lines that stop the script -/

/-- The fault of a line with a return at its end, given the fault of the line without. -/
structure FaultsAlike (text : Text) (fault returned : Fault) : Prop where
  broken : Line.BreaksOffEscape text → fault = .unterminatedString ∧ returned = .unknownEscape '\r'
  whole : ¬Line.BreaksOffEscape text → returned = fault

theorem stops_shift (stops : session.Stops ⟨number, start, text⟩ error final) (distance : Nat) :
    session.Stops ⟨number, start + distance, text⟩ (error.shift distance) final := by
  have ran := runLine_of_stops stops
  have shifted : session.runLine (number + 0) (start + distance) text =
      (.error (error.shift distance), final) := by
    simp only [runLine_shift, ran, Except.map, shiftError_error]
  exact runLine_eq_error_iff.1 shifted

/-- A line that can be read does not break off. -/
theorem not_breaksOffEscape_of_read {line : Line} (read : Line.read start text = .ok line) :
    ¬Line.BreaksOffEscape text := by
  intro breaks
  rcases (Line.read_of_breaksOffEscape breaks start).1 with ⟨span, failed⟩
  rw [read] at failed
  cases failed

theorem faultsAlike_of_read {line : Line} (read : Line.read start text = .ok line)
    (fault : Fault) : FaultsAlike text fault fault where
  broken breaks := absurd breaks (not_breaksOffEscape_of_read read)
  whole _ := rfl

theorem stops_returned (stops : session.Stops ⟨number, start, text⟩ error final) :
    ∃ returned, session.Stops ⟨number, start, Text.returned text⟩ returned final ∧
      FaultsAlike text error.value returned.value := by
  cases stops with
  | unreadable unread =>
      by_cases breaks : Line.BreaksOffEscape text
      · rcases Line.read_of_breaksOffEscape breaks start with ⟨⟨span, failed⟩, other, otherFailed⟩
        have same := unread.symm.trans failed
        cases same
        exact ⟨_, .unreadable otherFailed, fun _ => ⟨rfl, rfl⟩, fun whole => absurd breaks whole⟩
      · rcases Line.exists_read_returned_error unread breaks with ⟨span, otherFailed⟩
        exact ⟨_, .unreadable otherFailed, fun broken => absurd broken breaks, fun _ => rfl⟩
  | @bare expectation read =>
      rcases Line.exists_agrees_of_read read with ⟨⟨tokens, expectation?⟩, otherRead, agrees⟩
      have noTokens : tokens = [] := agrees.tokens_eq
      rcases Option.map_eq_some_iff.1 agrees.expected_eq with ⟨other, expecting, -⟩
      have expecting' : expectation? = some other := expecting
      subst noTokens expecting'
      exact ⟨_, .bare otherRead, faultsAlike_of_read read _⟩
  | unparsed read nonempty unparsed =>
      rcases Line.exists_agrees_of_read read with ⟨other, otherRead, agrees⟩
      rw [← agrees.tokens_eq] at nonempty unparsed
      exact ⟨_, .unparsed otherRead nonempty unparsed, faultsAlike_of_read read _⟩
  | failed read parsed executed =>
      rcases Line.exists_agrees_of_read read with ⟨other, otherRead, agrees⟩
      rw [← agrees.tokens_eq] at parsed
      exact ⟨_, .failed otherRead parsed executed, faultsAlike_of_read read _⟩
  | @unexpected line command outcome left expectation read parsed executed expected differ =>
      rcases Line.exists_agrees_of_read read with ⟨other, otherRead, agrees⟩
      rw [← agrees.tokens_eq] at parsed
      have value := agrees.expected_eq
      rw [expected] at value
      rcases Option.map_eq_some_iff.1 value with ⟨otherExpectation, otherExpected, same⟩
      rw [← same] at differ
      refine ⟨_, .unexpected otherRead parsed executed otherExpected differ, ?_⟩
      rw [same]
      exact faultsAlike_of_read read _

/-! ### Whole scripts -/

/-- Whether a run stops at the line of a number, having completed the lines before it. -/
def StopsAt (session : Session) (script : Text) (number : Nat) (text : Text) (error : Error)
    (final : Session) : Prop :=
  ∃ before after steps next, script.lines = before ++ text :: after ∧
    before.length + 1 = number ∧ session.Completes (PlacedLine.place 1 0 before) steps next ∧
    next.Stops ⟨number, Text.linesSize before, text⟩ error final

variable {script : Text}

theorem run_of_stopsAt (stops : session.StopsAt script number text error final) :
    session.run script = (.error error, final) := by
  rcases stops with ⟨before, after, steps, next, lines, rfl, completes, stops⟩
  rw [run, lines]
  apply runLines_of_stops completes
  rw [Nat.add_comm, Nat.zero_add]
  exact stops

theorem run_of_passes_last {before : List Text} {last : Text}
    (lines : script.lines = before ++ [last])
    (completes : session.Completes (PlacedLine.place 1 0 before) steps next)
    (passes : next.Passes ⟨before.length + 1, Text.linesSize before, last⟩ step? final) :
    session.run script = (.ok (steps ++ step?.toList), final) := by
  rw [run, lines, runLines_append completes, Nat.add_comm, Nat.zero_add,
    runLines_cons_of_passes passes]
  simp only [runLines, Except.map, List.append_nil]

theorem completes_map_returned {before : List Text}
    (completes : session.Completes (PlacedLine.place 1 0 before) steps next) :
    session.Completes (PlacedLine.place 1 0 (before.map Text.returned))
      (steps.map Step.pastLines) next :=
  @completes_returned _ _ _ 0 0 _ completes

/-- A line that stops a script after lines that pass stops it if these have returns. -/
theorem stopsAt_map_returned {before after : List Text}
    (lines : script.lines = before.map Text.returned ++ text :: after)
    (completes : session.Completes (PlacedLine.place 1 0 before) steps next)
    (stops : next.Stops ⟨before.length + 1, Text.linesSize before, text⟩ error final) :
    session.StopsAt script (before.length + 1) text (error.shift before.length) final := by
  have moved := stops_shift stops before.length
  rw [← Text.linesSize_map_returned] at moved
  refine ⟨before.map Text.returned, after, _, next, lines, ?_, completes_map_returned completes,
    moved⟩
  rw [List.length_map]

/-- A script that is run to its end is run to its end if the lines before the last have returns. -/
theorem run_of_passes_last_returned {before : List Text} {last : Text}
    (lines : script.lines = before.map Text.returned ++ [last])
    (completes : session.Completes (PlacedLine.place 1 0 before) steps next)
    (passes : next.Passes ⟨before.length + 1, Text.linesSize before, last⟩ step? final) :
    session.run script = (.ok ((steps ++ step?.toList).map Step.pastLines), final) := by
  have moved := passes_pastLines passes
  rw [← Text.linesSize_map_returned, ← List.length_map Text.returned] at moved
  rw [List.map_append, ← Option.toList_map]
  exact run_of_passes_last lines (completes_map_returned completes) moved

/-- The script and the one with returns are both run to the end, or both stop at one line. -/
theorem runs_alike (session : Session) (script : Text) :
    (∃ steps final, session.run script = (.ok steps, final) ∧
        session.run script.withReturns = (.ok (steps.map Step.pastLines), final)) ∨
      ∃ number text returnedText error returned final,
        session.StopsAt script number text error final ∧
          session.StopsAt script.withReturns number returnedText returned final ∧
          (number ≤ script.count '\n' ∧ FaultsAlike text error.value returned.value ∨
            script.count '\n' < number ∧ returned.value = error.value) := by
  rcases List.eq_nil_or_concat script.lines with empty | ⟨before, last, lines⟩
  · exact absurd empty (Text.lines_ne_nil script)
  rw [List.concat_eq_append] at lines
  have returnedLines : script.withReturns.lines = before.map Text.returned ++ [last] := by
    rw [Text.lines_withReturns, lines, Text.returnLines_append]
    rfl
  have count : script.count '\n' = before.length := by
    have length := Text.length_lines script
    rw [lines, List.length_append, List.length_singleton] at length
    omega
  rcases completes_or_stops session 1 0 before with
    ⟨steps, next, completes⟩ | ⟨passed, text, others, steps, next, error, final, rfl, completes,
      stops⟩
  · rcases passes_or_stops next ⟨before.length + 1, Text.linesSize before, last⟩ with
      ⟨step?, final, passes⟩ | ⟨error, final, stops⟩
    · left
      exact ⟨_, final, run_of_passes_last lines completes passes,
        run_of_passes_last_returned returnedLines completes passes⟩
    · right
      exact ⟨before.length + 1, last, last, error, error.shift before.length, final,
        ⟨before, [], steps, next, lines, rfl, completes, stops⟩,
        stopsAt_map_returned returnedLines completes stops, Or.inr ⟨by omega, rfl⟩⟩
  · right
    rw [Nat.add_comm, Nat.zero_add] at stops
    rcases stops_returned stops with ⟨returned, returnedStops, alike⟩
    rw [List.append_assoc, List.cons_append] at lines
    rw [List.map_append, List.map_cons, List.append_assoc, List.cons_append] at returnedLines
    rw [List.length_append, List.length_cons] at count
    exact ⟨passed.length + 1, text, Text.returned text, error, returned.shift passed.length, final,
      ⟨passed, others ++ [last], steps, next, lines, rfl, completes, stops⟩,
      stopsAt_map_returned returnedLines completes returnedStops, Or.inl ⟨by omega, alike⟩⟩

/-- The steps of a run are where their lines are. -/
theorem map_pastReturns_of_run (ran : session.run script = (.ok steps, final)) :
    steps.map (Step.pastReturns script) = steps.map Step.pastLines := by
  rcases runLines_eq_ok_iff.1 ran with ⟨-, entries, places, -, rfl⟩
  apply List.map_congr_left
  intro step mem
  rcases List.mem_map.1 mem with ⟨entry, entryMem, rfl⟩
  have placed : entry.placed ∈ entries.map Entry.placed := List.mem_map_of_mem entryMem
  rw [places] at placed
  exact (Entry.standsIn_of_mem (List.mem_filter.1 placed).1).1.pastReturns_eq

/--
A script succeeds exactly if it succeeds with a carriage return before each line break. If it does,
the steps are the same, and the span of each is moved by as many bytes as there are line breaks
before it. If it fails, both forms stop at the line of the same number, with the same fault: only if
that line has a line break after it and breaks off in an escape, its string literal has no end in
one form and an unknown escape in the other. The session that is left is the same in any case.
-/
theorem run_withReturns (session : Session) (script : Text) :
    ((∃ steps final, session.run script = (.ok steps, final)) ↔
        ∃ steps final, session.run script.withReturns = (.ok steps, final)) ∧
      (∀ steps final, session.run script = (.ok steps, final) →
        session.run script.withReturns = (.ok (steps.map (Step.pastReturns script)), final)) ∧
      ∀ error final, session.run script = (.error error, final) →
        ∃ number text returnedText returned,
          session.StopsAt script number text error final ∧
            session.StopsAt script.withReturns number returnedText returned final ∧
            session.run script.withReturns = (.error returned, final) ∧
            (number ≤ script.count '\n' ∧ Line.BreaksOffEscape text →
              error.value = .unterminatedString ∧ returned.value = .unknownEscape '\r') ∧
            (¬(number ≤ script.count '\n' ∧ Line.BreaksOffEscape text) →
              returned.value = error.value) := by
  rcases runs_alike session script with
    ⟨steps, final, ran, returnedRan⟩ |
      ⟨number, text, returnedText, error, returned, final, stops, returnedStops, alike⟩
  · refine ⟨⟨fun _ => ⟨_, final, returnedRan⟩, fun _ => ⟨steps, final, ran⟩⟩, ?_, ?_⟩
    · intro others last otherRan
      rw [ran] at otherRan
      cases otherRan
      rw [returnedRan, map_pastReturns_of_run ran]
    · intro error last failed
      rw [ran] at failed
      cases failed
  · have failed := run_of_stopsAt stops
    have returnedFailed := run_of_stopsAt returnedStops
    refine ⟨⟨?_, ?_⟩, ?_, ?_⟩
    · rintro ⟨steps, last, ran⟩
      rw [failed] at ran
      cases ran
    · rintro ⟨steps, last, ran⟩
      rw [returnedFailed] at ran
      cases ran
    · intro steps last ran
      rw [failed] at ran
      cases ran
    · intro other last otherFailed
      rw [failed] at otherFailed
      cases otherFailed
      refine ⟨number, text, returnedText, returned, stops, returnedStops, returnedFailed, ?_⟩
      rcases alike with ⟨followed, alike⟩ | ⟨isLast, same⟩
      · refine ⟨fun cut => alike.broken cut.2, ?_⟩
        intro uncut
        exact alike.whole fun breaks => uncut ⟨followed, breaks⟩
      · refine ⟨?_, fun _ => same⟩
        rintro ⟨followed, -⟩
        exact absurd followed (Nat.not_le.2 isLast)

/-- The backslash is the last character of its line, or what it escapes is the return. -/
example : (default : Session).run ['"', '\\', '\n'] =
      (.error ⟨.unterminatedString, ⟨0, 2⟩⟩, default) ∧
    (default : Session).run ['"', '\\', '\r', '\n'] =
      (.error ⟨.unknownEscape '\r', ⟨1, 2⟩⟩, default) := by
  constructor
  · cbv
  · cbv

end Session

end TextCursor

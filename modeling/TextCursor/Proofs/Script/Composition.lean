import TextCursor.Proofs.Script.Relocation
import TextCursor.Proofs.Script.Transcript

/-!
# Composition of scripts

A script that is cut after a line break runs as its two parts do, one after the other. The second
part is run on the session that the first part leaves, and as the relocation lemmas say, what it
comes to is moved by the lines and the bytes of the first part. A fault of the first part ends the
run, whatever comes after it.
-/

namespace TextCursor

namespace Text

/-- Whether a text is made of whole lines, each with its line break. -/
def EndsLine (text : Text) : Prop := text = [] ∨ text.getLast? = some '\n'

instance (text : Text) : Decidable text.EndsLine :=
  inferInstanceAs (Decidable (text = [] ∨ text.getLast? = some '\n'))

theorem lines_ne_nil (text : Text) : lines text ≠ [] := List.splitOnP_ne_nil _ text

theorem lines_cons (c : Char) (rest : Text) :
    lines (c :: rest) =
      if c = '\n' then [] :: lines rest else (lines rest).modifyHead (List.cons c) := by
  simp [lines, List.splitOn, List.splitOnP_cons_eq_if_modifyHead]

theorem lines_of_notMem {text : Text} (oneLine : '\n' ∉ text) : lines text = [text] := by
  apply List.splitOnP_eq_singleton
  intro c mem
  rw [beq_eq_false_iff_ne]
  rintro rfl
  exact oneLine mem

/-- The pieces of a text take up its bytes and one more, for a line break after the last piece. -/
theorem linesSize_lines (text : Text) : linesSize (lines text) = text.utf8Size + 1 := by
  induction text with
  | nil => rfl
  | cons c rest ih =>
      rw [lines_cons]
      rcases List.exists_cons_of_ne_nil (lines_ne_nil rest) with ⟨first, others, pieces⟩
      by_cases lineBreak : c = '\n'
      · have oneByte : '\n'.utf8Size = 1 := rfl
        simp only [lineBreak, if_true, linesSize_cons, utf8Size_nil, utf8Size_cons, ih, oneByte]
        omega
      · rw [pieces, linesSize_cons] at ih
        simp only [lineBreak, if_false, pieces, List.modifyHead_cons, linesSize_cons,
          utf8Size_cons]
        omega

theorem length_lines (text : Text) : (lines text).length = text.count '\n' + 1 := by
  induction text with
  | nil => rfl
  | cons c rest ih =>
      rw [lines_cons]
      by_cases lineBreak : c = '\n'
      · simp [lineBreak, ih]
      · simp [lineBreak, ih]

/-- What comes after whole lines does not change them. -/
theorem exists_lines_of_endsLine {text : Text} (whole : text.EndsLine) :
    ∃ before, (∀ after, lines (text ++ after) = before ++ lines after) ∧
      before.length = text.count '\n' ∧ linesSize before = text.utf8Size := by
  rcases whole with rfl | last
  · exact ⟨[], fun after => rfl, rfl, rfl⟩
  · rcases List.getLast?_eq_some_iff.1 last with ⟨body, rfl⟩
    refine ⟨lines body, ?_, ?_, ?_⟩
    · intro after
      rw [List.append_assoc, List.singleton_append, lines_append_lineBreak]
    · rw [length_lines, List.count_append]
      rfl
    · rw [linesSize_lines, utf8Size_append]
      rfl

end Text

namespace Session

open Script

theorem runLines_nothing (session : Session) (number start : Nat) :
    session.runLines number start [[]] = (.ok [], session) := by
  have read : Line.read start [] = .ok ⟨[], none⟩ := by rw [Line.read]
  simp only [runLines, runLine, read, runTokens, Except.map, Option.toList_none, List.nil_append]

/--
A script that begins with whole lines runs as these lines and then the rest do. If the lines fail,
so does the script, and in the same way. If they are run, the rest goes on from the session that
they leave, and its numbers and spans are moved by the line breaks and the bytes of the lines before
it.
-/
theorem run_append (session : Session) {first : Text} (whole : first.EndsLine) (second : Text) :
    session.run (first ++ second) =
      match session.run first with
      | (.error error, left) => (.error error, left)
      | (.ok steps, left) =>
          ((shiftSteps (first.count '\n') first.utf8Size (left.run second).1).map (steps ++ ·),
            (left.run second).2) := by
  rcases Text.exists_lines_of_endsLine whole with ⟨before, linesBefore, count, size⟩
  have firstLines : first.lines = before ++ [[]] := by
    have alone := linesBefore []
    rwa [List.append_nil] at alone
  rw [run, run, linesBefore, firstLines]
  rcases completes_or_stops session 1 0 before with
    ⟨steps, next, completes⟩ | ⟨passed, text, others, steps, next, error, final, rfl, completes,
      stops⟩
  · rw [runLines_append completes, runLines_append completes, runLines_nothing, runLines_shift,
      count, size]
    simp only [Except.map, List.append_nil, run]
  · rw [List.append_assoc, List.cons_append, List.append_assoc, List.cons_append,
      runLines_of_stops completes stops, runLines_of_stops completes stops]

/-- The second step is on the second line, after a comment that has more bytes than characters. -/
theorem run_append_twoBytes :
    Text.EndsLine "cursor # é\n".toList ∧
      (default : Session).run ("cursor # é\n".toList ++ "cursor".toList) =
        (.ok [⟨1, .position, .offset 0, ⟨0, 6⟩⟩, ⟨2, .position, .offset 0, ⟨12, 6⟩⟩],
          default) := by
  have whole : Text.EndsLine "cursor # é\n".toList := by decide
  have parts : ∀ c ∈ "ursor".toList, isWordPart c = true := List.all_eq_true.1 rfl
  have ran : (default : Session).runTokens 1 ⟨[⟨.word "cursor".toList, ⟨0, 6⟩⟩], none⟩ =
      (.ok (some ⟨1, .position, .offset 0, ⟨0, 6⟩⟩), default) := rfl
  have first : (default : Session).run "cursor # é\n".toList =
      (.ok [⟨1, .position, .offset 0, ⟨0, 6⟩⟩], default) := by
    have lines : Text.lines "cursor # é\n".toList = ["cursor # é".toList, []] := by decide
    have separated : (Layout.lexeme (.word 'c' "ursor".toList (by decide) parts)
        (.blank ' ' (by decide) (.comment " é".toList))).Separated := by
      refine ⟨?_, trivial⟩
      simp [Spelling.EndsBefore, Layout.text, isWordPart, isWordStart]
    have read : Line.read 0 "cursor # é".toList =
        .ok ⟨[⟨.word "cursor".toList, ⟨0, 6⟩⟩], none⟩ := Line.read_text separated 0
    rw [run, lines, runLines, runLine, read]
    simp only [ran, runLines_nothing]
    rfl
  have second : (default : Session).run "cursor".toList =
      (.ok [⟨1, .position, .offset 0, ⟨0, 6⟩⟩], default) := by
    have lines : Text.lines "cursor".toList = ["cursor".toList] := by decide
    have read : Line.read 0 "cursor".toList =
        .ok ⟨[⟨.word "cursor".toList, ⟨0, 6⟩⟩], none⟩ :=
      Line.read_alone (.word 'c' "ursor".toList (by decide) parts) 0
    rw [run, lines, runLines, runLine, read]
    simp only [ran, runLines]
    rfl
  refine ⟨whole, ?_⟩
  rw [run_append default whole, first]
  simp only [second]
  rfl

end Session

end TextCursor

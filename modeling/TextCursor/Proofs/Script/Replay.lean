import Mathlib.Data.List.Forall2
import TextCursor.Proofs.Script.CommandSpelling
import TextCursor.Proofs.Script.Excerpt
import TextCursor.Proofs.Script.Placement

/-!
# Replays

The steps of a run tell which parts of the script have been executed: a step covers the part of its
line from the first token to the last, and this part is a line with the same command. So the parts
alone, one on each line, are a script that does what the whole script has done. Comments, blanks and
expectations that were met play no part in it.
-/

namespace TextCursor

namespace Text

/-- Lines one after the other, each with a line break. -/
def ofLines (lines : List Text) : Text := lines.flatMap (· ++ ['\n'])

theorem lines_ofLines {texts : List Text} (oneLine : ∀ text ∈ texts, '\n' ∉ text) :
    lines (ofLines texts) = texts ++ [[]] := by
  induction texts with
  | nil => rfl
  | cons text rest ih =>
      rw [List.forall_mem_cons] at oneLine
      rw [ofLines, List.flatMap_cons, List.append_assoc, List.singleton_append,
        lines_append_lineBreak, lines_of_notMem oneLine.1, List.singleton_append, List.cons_append]
      exact congrArg (List.cons text) (ih oneLine.2)

end Text

namespace Script

namespace Command

variable {command : Command} {text : Text} {line : Line}

/-- Whether a text is a line with the command and nothing to expect, wherever it starts. -/
def ReadFrom (command : Command) (text : Text) : Prop :=
  ∀ start, ∃ line, Line.read start text = .ok line ∧ line.expectation? = none ∧
    ofTokens line.tokens = .ok command

theorem readFrom_of_read {start : Nat} (found : Line.read start text = .ok line)
    (unexpecting : line.expectation? = none) (parsed : ofTokens line.tokens = .ok command) :
    command.ReadFrom text := by
  rcases Line.exists_origin_of_read found with ⟨origin, rfl, everywhere⟩
  have nonempty : origin.tokens ≠ [] := by
    intro empty
    rw [Line.shift, empty] at parsed
    cases parsed
  rw [Line.shift, ofTokens_shift nonempty, shiftError_eq_ok_iff] at parsed
  rw [Line.shift, Option.map_eq_none_iff] at unexpecting
  intro base
  refine ⟨origin.shift base, everywhere base, ?_, ?_⟩
  · rw [Line.shift, unexpecting, Option.map_none]
  · rw [Line.shift, ofTokens_shift nonempty, shiftError_eq_ok_iff, parsed]

end Command

namespace Step

/-- The text that the span of a step covers. -/
def source (step : Step) (script : Text) : Text := step.span.cut 0 script

/-- Whether a step has the span of a part of its script and the number of the line it is on. -/
def StandsIn (step : Step) (script : Text) : Prop :=
  ∃ before after : Text, script = before ++ (step.source script ++ after) ∧
    step.span = ⟨before.utf8Size, (step.source script).utf8Size⟩ ∧
    step.line = before.count '\n' + 1

end Step

namespace Entry

variable {entry : Entry} {script : Text}

theorem span_inside (entry : Entry) :
    entry.placed.start ≤ entry.step.span.start ∧
      entry.step.span.stop ≤ entry.placed.start + entry.placed.text.utf8Size := by
  rcases Line.exists_excerpt entry.read entry.tokens_ne_nil with
    ⟨before, part, after, split, span, -⟩
  rw [step, span, split]
  simp only [Span.stop, Text.utf8Size_append]
  omega

/-- The text of a step is a part of its line, and says the same as the line alone. -/
theorem standsIn_of_mem (mem : entry.placed ∈ PlacedLine.place 1 0 script.lines) :
    entry.step.StandsIn script ∧ entry.command.ReadFrom (entry.step.source script) ∧
      '\n' ∉ entry.step.source script := by
  rcases PlacedLine.exists_split_of_mem_place (fun _ => Text.notMem_of_mem_lines) mem with
    ⟨front, back, whole, number, start, oneLine⟩
  rcases Line.exists_excerpt entry.read entry.tokens_ne_nil with
    ⟨before, part, after, split, span, read⟩
  rw [Text.intercalate_lines] at whole
  rw [split, List.mem_append, List.mem_append, not_or, not_or] at oneLine
  have place : script = (front ++ before) ++ (part ++ (after ++ back)) := by
    rw [whole, split]
    simp only [List.append_assoc]
  have stepSpan : entry.step.span = ⟨(front ++ before).utf8Size, part.utf8Size⟩ := by
    rw [step, span, start, Nat.zero_add, Text.utf8Size_append]
  have source : entry.step.source script = part := by
    have cut := Span.cut_of_append (front ++ before) part (after ++ back) 0
    rwa [Nat.zero_add, ← stepSpan, ← place] at cut
  rw [Step.StandsIn, source]
  refine ⟨⟨front ++ before, after ++ back, place, stepSpan, ?_⟩, ?_, oneLine.2.1⟩
  · simp only [step, number, List.count_append, List.count_eq_zero.2 oneLine.1]
    omega
  · exact Command.readFrom_of_read read rfl entry.parsed

end Entry

end Script

namespace Session

open Script

variable {session final : Session} {commands : List Command} {outcomes : List Outcome}
  {texts : List Text}

/-- Commands that can be performed are performed from any lines that they are read from. -/
theorem runLines_of_performs (performs : session.Performs commands outcomes final)
    (written : List.Forall₂ Command.ReadFrom commands texts) (number start : Nat) :
    ∃ steps, session.runLines number start (texts ++ [[]]) = (.ok steps, final) ∧
      steps.map Step.verb = commands.map Command.verb ∧ steps.map Step.outcome = outcomes := by
  induction performs generalizing texts number start with
  | nil session =>
      cases written
      exact ⟨[], runLines_nothing session number start, rfl, rfl⟩
  | @cons session next final command outcome commands outcomes executed others ih =>
      cases written with
      | @cons _ text _ rest readFrom restWritten =>
          rcases readFrom start with ⟨line, read, unexpecting, parsed⟩
          let entry : Entry :=
            ⟨⟨number, start, text⟩, line, command, outcome, read, parsed, by simp [unexpecting]⟩
          rcases ih restWritten (number + 1) (start + text.utf8Size + 1) with
            ⟨steps, ran, verbs, sameOutcomes⟩
          refine ⟨entry.step :: steps, ?_, ?_, ?_⟩
          · rw [List.cons_append, runLines_cons_of_passes (.command entry rfl executed), ran]
            rfl
          · rw [List.map_cons, List.map_cons, verbs]
            rfl
          · rw [List.map_cons, sameOutcomes]
            rfl

theorem run_ofLines_of_performs (performs : session.Performs commands outcomes final)
    (written : List.Forall₂ Command.ReadFrom commands texts)
    (oneLine : ∀ text ∈ texts, '\n' ∉ text) :
    ∃ steps, session.run (Text.ofLines texts) = (.ok steps, final) ∧
      steps.map Step.verb = commands.map Command.verb ∧ steps.map Step.outcome = outcomes := by
  rw [run, Text.lines_ofLines oneLine]
  exact runLines_of_performs performs written 1 0

/--
The steps of a run lie in its script one after the other, on different lines. The parts of the
script that they lie on, each with a line break after it, are a script that does the same.
-/
theorem run_replays {script : Text} {steps : List Step}
    (ran : session.run script = (.ok steps, final)) :
    (∀ step ∈ steps, step.StandsIn script) ∧
      (steps.Pairwise fun left right =>
        left.span.stop ≤ right.span.start ∧ left.line < right.line) ∧
      ∃ replayed,
        session.run (Text.ofLines (steps.map fun step => step.source script)) =
            (.ok replayed, final) ∧
          replayed.map Step.verb = steps.map Step.verb ∧
          replayed.map Step.outcome = steps.map Step.outcome := by
  rcases runLines_eq_ok_iff.1 ran with ⟨-, entries, places, performs, rfl⟩
  have sources (entry : Entry) (mem : entry ∈ entries) :
      entry.step.StandsIn script ∧ entry.command.ReadFrom (entry.step.source script) ∧
        '\n' ∉ entry.step.source script := by
    have placed := List.mem_map_of_mem (f := Entry.placed) mem
    rw [places] at placed
    exact Entry.standsIn_of_mem (List.mem_filter.1 placed).1
  have ordered : (entries.map Entry.placed).Pairwise PlacedLine.Precedes := by
    rw [places]
    exact (PlacedLine.pairwise_place 1 0 script.lines).filter _
  have written : List.Forall₂ Command.ReadFrom (entries.map Entry.command)
      ((entries.map Entry.step).map fun step => step.source script) := by
    rw [List.map_map, List.forall₂_map_left_iff, List.forall₂_map_right_iff, List.forall₂_same]
    intro entry mem
    exact (sources entry mem).2.1
  refine ⟨?_, ?_, ?_⟩
  · rw [List.forall_mem_map]
    intro entry mem
    exact (sources entry mem).1
  · rw [List.pairwise_map] at ordered ⊢
    apply ordered.imp
    rintro left right ⟨earlier, apart⟩
    have leftInside := left.span_inside
    have rightInside := right.span_inside
    exact ⟨by omega, earlier⟩
  · have oneLine : ∀ text ∈ (entries.map Entry.step).map fun step => step.source script,
        '\n' ∉ text := by
      rw [List.map_map, List.forall_mem_map]
      intro entry mem
      exact (sources entry mem).2.2
    rcases run_ofLines_of_performs performs written oneLine with
      ⟨replayed, replay, verbs, outcomes⟩
    refine ⟨replayed, replay, ?_, ?_⟩
    · rw [verbs, List.map_map, List.map_map]
      rfl
    · rw [outcomes, List.map_map]
      rfl

/-- The step is replayed without the comment, the blanks and the expectation around it. -/
theorem run_replays_afterComment :
    (default : Session).run "# é\n cursor => 0".toList =
        (.ok [⟨2, .position, .offset 0, ⟨6, 6⟩⟩], default) ∧
      ∃ replayed, (default : Session).run "cursor\n".toList = (.ok replayed, default) ∧
        replayed.map Step.verb = [.position] ∧ replayed.map Step.outcome = [.offset 0] := by
  have lines : Text.lines "# é\n cursor => 0".toList =
      ["# é".toList, " cursor => 0".toList] := by decide
  have comment : Line.read 0 "# é".toList = .ok ⟨[], none⟩ := Line.read_comment 0 " é".toList
  have read : Line.read 5 " cursor => 0".toList =
      .ok ⟨[⟨.word "cursor".toList, ⟨6, 6⟩⟩], some ⟨"0".toList, ⟨16, 1⟩⟩⟩ := by
    have found := Line.read_verb .position (' ' :: '=' :: '>' :: " 0".toList)
      (by simp [isWordPart, isWordStart]) 6
    rw [Line.read_blank (by decide), Line.read_arrow] at found
    exact (Line.read_blank (by decide) 5).trans found
  have skipped : (default : Session).runTokens 1 ⟨[], none⟩ = (.ok none, default) := rfl
  have stepped : (default : Session).runTokens 2
      ⟨[⟨.word "cursor".toList, ⟨6, 6⟩⟩], some ⟨"0".toList, ⟨16, 1⟩⟩⟩ =
        (.ok (some ⟨2, .position, .offset 0, ⟨6, 6⟩⟩), default) := rfl
  have ran : (default : Session).run "# é\n cursor => 0".toList =
      (.ok [⟨2, .position, .offset 0, ⟨6, 6⟩⟩], default) := by
    have size : 0 + Text.utf8Size "# é".toList + 1 = 5 := by decide
    rw [run, lines]
    simp only [runLines, runLine, comment, skipped, size, read, stepped]
    rfl
  exact ⟨ran, (run_replays ran).2.2⟩

end Session

end TextCursor

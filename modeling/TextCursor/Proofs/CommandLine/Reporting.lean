import TextCursor.CommandLine.Report
import TextCursor.Proofs.Script.Expectation
import TextCursor.Proofs.Script.Replay

/-!
# Reporting

A run of a script ends well only if the script is run to its end, and what is then said is one line
for each step. A rendering has no line break, whatever text it shows, and neither has anything else
on the line of a step, so that every line break of a report ends the line of a step.
-/

namespace TextCursor

theorem Script.Verb.printable_word (verb : Verb) : verb.word.Printable := by
  have words : ∀ verb ∈ all, verb.word.Printable := by decide
  exact words verb verb.mem_all

namespace CommandLine

open Script

variable {bold : Text → Text} {invocation : Invocation} {script input : Text} {steps : List Step}

/-- Whether a style shows a text between two marks and leaves it on its line. -/
def IsInline (style : Text → Text) : Prop :=
  ∃ opening closing : Text, '\n' ∉ opening ∧ '\n' ∉ closing ∧
    ∀ text, style text = opening ++ text ++ closing

theorem IsInline.lineBreak_notMem (inline : IsInline bold) {text : Text} (absent : '\n' ∉ text) :
    '\n' ∉ bold text := by
  rcases inline with ⟨opening, closing, notOpening, notClosing, shown⟩
  rw [shown]
  simp only [List.mem_append, not_or]
  exact ⟨⟨notOpening, absent⟩, notClosing⟩

theorem isInline_terminalBold : IsInline terminalBold :=
  ⟨"\x1b[1m".toList, "\x1b[0m".toList, by decide, by decide, fun _ => rfl⟩

/-- The line of the report for one step, without the line break that ends it. -/
def reportLine (bold : Text → Text) (step : Step) : Text :=
  renderNumber step.line ++ ": ".toList ++ bold step.verb.word ++ " => ".toList ++
    step.outcome.render

theorem renderSteps_eq_ofLines (bold : Text → Text) (steps : List Step) :
    renderSteps bold steps = Text.ofLines (steps.map (reportLine bold)) := by
  rw [Text.ofLines, List.flatMap_map]
  rfl

theorem printable_renderNumber (number : Nat) : (renderNumber number).Printable := by
  apply Text.Printable.append
  · intro c mem
    rw [List.eq_of_mem_replicate mem]
    rfl
  · exact (Decimal.neat_ofNat number).printable

/-- What makes the verb bold is on its line, and all else on the line of a step is printable. -/
theorem lineBreak_notMem_reportLine (inline : IsInline bold) (step : Step) :
    '\n' ∉ reportLine bold step := by
  have number := (printable_renderNumber step.line).lineBreak_notMem
  have verb := inline.lineBreak_notMem step.verb.printable_word.lineBreak_notMem
  have outcome := step.outcome.neat_render.lineBreak_notMem
  have signs : '\n' ∉ ": ".toList ∧ '\n' ∉ " => ".toList := by decide
  simp only [reportLine, List.mem_append, not_or]
  exact ⟨⟨⟨⟨number, signs.1⟩, verb⟩, signs.2⟩, outcome⟩

theorem lines_renderSteps (inline : IsInline bold) (steps : List Step) :
    (renderSteps bold steps).lines = steps.map (reportLine bold) ++ [[]] := by
  rw [renderSteps_eq_ofLines]
  apply Text.lines_ofLines
  intro text mem
  rcases List.mem_map.1 mem with ⟨step, -, rfl⟩
  exact lineBreak_notMem_reportLine inline step

namespace Invocation

/-- A script that is run ends well if and only if all of its lines are run. -/
theorem exitCode_run_eq_zero_iff (invocation : Invocation) (bold : Text → Text)
    (script input : Text) :
    (invocation.run bold script input).exitCode = 0 ↔
      ∃ steps, ((Session.ofText input).run script).1 = .ok steps := by
  rw [run]
  cases ((Session.ofText input).run script).1 with
  | error error => simp [Ending.exitCode]
  | ok steps => simp [Ending.exitCode]

theorem output_run (loud : invocation.quiet = false)
    (ran : ((Session.ofText input).run script).1 = .ok steps) :
    (invocation.run bold script input).output = renderSteps bold steps := by
  rw [run, ran]
  simp [loud, Ending.output]

end Invocation

/--
Every rendering is one clean line: there is something on it, no control character among it, and no
white space at its ends. So if a run is not to be quiet and ends well, then it has run the script to
its end, and its output is one line for each step, in order, with a line break. How verbs are shown
in bold does not matter, as long as it leaves them on their lines.
-/
theorem report_exact :
    (∀ outcome : Outcome, outcome.render ≠ [] ∧ (∀ c ∈ outcome.render, isControl c = false) ∧
        (∃ first ∈ outcome.render.head?, isWhiteSpace first = false) ∧
        ∃ last ∈ outcome.render.getLast?, isWhiteSpace last = false) ∧
      ∀ (bold : Text → Text) (invocation : Invocation) (script input : Text), IsInline bold →
        invocation.quiet = false → (invocation.run bold script input).exitCode = 0 →
        ∃ steps, ((Session.ofText input).run script).1 = .ok steps ∧
          (invocation.run bold script input).output = Text.ofLines (steps.map (reportLine bold)) ∧
          (invocation.run bold script input).output.lines =
            steps.map (reportLine bold) ++ [[]] := by
  constructor
  · intro outcome
    have neat := outcome.neat_render
    rcases neat.begins with ⟨first, begins, solid⟩
    refine ⟨?_, neat.printable, ⟨first, begins, solid⟩, neat.ends⟩
    intro empty
    rw [empty] at begins
    cases begins
  · intro bold invocation script input inline loud success
    rcases (invocation.exitCode_run_eq_zero_iff bold script input).1 success with ⟨steps, ran⟩
    refine ⟨steps, ran, ?_, ?_⟩
    · rw [Invocation.output_run loud ran, renderSteps_eq_ofLines]
    · rw [Invocation.output_run loud ran, lines_renderSteps inline]

/-- A line break that is shown does not break the line. -/
theorem report_exact_lineBreak :
    IsInline terminalBold ∧
      ((⟨['-'], none, false⟩ : Invocation).run terminalBold "current".toList ['\n']).exitCode = 0 ∧
      ((⟨['-'], none, false⟩ : Invocation).run terminalBold "current".toList
        ['\n']).output.lines = ["   1: \x1b[1mcurrent\x1b[0m => '\\n'".toList, []] := by
  have parts : ∀ c ∈ "urrent".toList, isWordPart c = true := List.all_eq_true.1 rfl
  have read : Line.read 0 "current".toList = .ok ⟨[⟨.word "current".toList, ⟨0, 7⟩⟩], none⟩ :=
    Line.read_alone (.word 'c' "urrent".toList (by decide) parts) 0
  have ran : ((Session.ofText ['\n']).run "current".toList).1 =
      .ok [⟨1, .current, .character (some '\n'), ⟨0, 7⟩⟩] := by
    rw [Session.run_of_read _ read (by decide)]
    rfl
  have success : ((⟨['-'], none, false⟩ : Invocation).run terminalBold "current".toList
      ['\n']).exitCode = 0 := (Invocation.exitCode_run_eq_zero_iff _ _ _ _).2 ⟨_, ran⟩
  rcases report_exact.2 terminalBold _ _ _ isInline_terminalBold rfl success with
    ⟨steps, ranSteps, -, lines⟩
  rw [ran] at ranSteps
  cases ranSteps
  exact ⟨isInline_terminalBold, success, lines⟩

end CommandLine

end TextCursor

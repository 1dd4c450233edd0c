import TextCursor.Proofs.Script.FaultStage
import TextCursor.Script.Run

/-!
# Runs of single lines

A line passes on a session or it stops the script there. `Session.Passes` has the two ways in which
a line passes, without a command or with one that comes to what is expected, and `Session.Stops` the
five ways in which it stops the script. Each says which session is left. `Session.runLine` does
exactly what these relations say.
-/

namespace TextCursor

namespace Script

/-- A line of a script, with its number and the byte at which it starts. -/
structure PlacedLine where
  number : Nat
  start : Nat
  text : Text

namespace PlacedLine

def read (placed : PlacedLine) : Except Error Line := Line.read placed.start placed.text

/-- Whether there is a token on the line. -/
def hasToken (placed : PlacedLine) : Bool :=
  match placed.read with
  | .ok line => !line.tokens.isEmpty
  | .error _ => false

/-- Lines in order, the first of which has the given number and starts at the given byte. -/
def place (number start : Nat) : List Text → List PlacedLine
  | [] => []
  | text :: rest => ⟨number, start, text⟩ :: place (number + 1) (start + text.utf8Size + 1) rest

end PlacedLine

/-- A line that was read and parsed as a command, and an outcome that it expects or allows. -/
structure Entry where
  placed : PlacedLine
  line : Line
  command : Command
  outcome : Outcome
  read : placed.read = .ok line
  parsed : Command.ofTokens line.tokens = .ok command
  asExpected : ∀ expectation ∈ line.expectation?, outcome.render = expectation.value

namespace Entry

def step (entry : Entry) : Step :=
  ⟨entry.placed.number, entry.command.verb, entry.outcome, entry.line.span⟩

theorem tokens_ne_nil (entry : Entry) : entry.line.tokens ≠ [] := by
  intro empty
  have parsed := entry.parsed
  rw [empty] at parsed
  cases parsed

theorem hasToken (entry : Entry) : entry.placed.hasToken = true := by
  simp [PlacedLine.hasToken, entry.read, entry.tokens_ne_nil]

theorem mismatch_eq_none (entry : Entry) : entry.line.mismatch? entry.outcome = none := by
  have asExpected := entry.asExpected
  cases expected : entry.line.expectation? with
  | none => simp only [Line.mismatch?, expected]
  | some expectation =>
      have agree := asExpected expectation expected
      simp only [Line.mismatch?, expected, if_pos agree]

end Entry

end Script

namespace Session

open Script

/-- How a line passes: without a command, or with one that comes to what is expected of it. -/
inductive Passes (session : Session) (placed : PlacedLine) : Option Step → Session → Prop where
  | empty (read : placed.read = .ok ⟨[], none⟩) : Passes session placed none session
  | command {left : Session} (entry : Entry) (same : entry.placed = placed)
      (executed : session.execute entry.command = (.ok entry.outcome, left)) :
      Passes session placed (some entry.step) left

/-- How a line stops a script. -/
inductive Stops (session : Session) (placed : PlacedLine) : Error → Session → Prop where
  | unreadable {error : Error} (unread : placed.read = .error error) :
      Stops session placed error session
  | bare {expectation : Spanned Text} (read : placed.read = .ok ⟨[], some expectation⟩) :
      Stops session placed ⟨.missingCommand, expectation.span⟩ session
  | unparsed {line : Line} {error : Error} (read : placed.read = .ok line)
      (nonempty : line.tokens ≠ []) (unparsed : Command.ofTokens line.tokens = .error error) :
      Stops session placed error session
  | failed {line : Line} {command : Command} {fault : Fault} {left : Session}
      (read : placed.read = .ok line) (parsed : Command.ofTokens line.tokens = .ok command)
      (executed : session.execute command = (.error fault, left)) :
      Stops session placed ⟨fault, line.span⟩ left
  | unexpected {line : Line} {command : Command} {outcome : Outcome} {left : Session}
      {expectation : Spanned Text} (read : placed.read = .ok line)
      (parsed : Command.ofTokens line.tokens = .ok command)
      (executed : session.execute command = (.ok outcome, left))
      (expected : line.expectation? = some expectation)
      (differ : outcome.render ≠ expectation.value) :
      Stops session placed ⟨.expectationFailed expectation.value outcome.render, expectation.span⟩
        left

variable {session left : Session} {placed : PlacedLine} {line : Line} {command : Command}

theorem runLine_of_read (read : placed.read = .ok line) :
    session.runLine placed.number placed.start placed.text =
      session.runTokens placed.number line := by
  rw [PlacedLine.read] at read
  rw [runLine, read]

theorem runLine_of_unread {error : Error} (unread : placed.read = .error error) :
    session.runLine placed.number placed.start placed.text = (.error error, session) := by
  rw [PlacedLine.read] at unread
  rw [runLine, unread]

theorem runTokens_of_nonempty (number : Nat) (nonempty : line.tokens ≠ []) :
    session.runTokens number line =
      match Command.ofTokens line.tokens with
      | .error error => (.error error, session)
      | .ok command =>
          match session.execute command with
          | (.error fault, left) => (.error ⟨fault, line.span⟩, left)
          | (.ok outcome, left) =>
              match line.mismatch? outcome with
              | some error => (.error error, left)
              | none => (.ok (some ⟨number, command.verb, outcome, line.span⟩), left) := by
  rw [runTokens]
  split
  case h_1 empty _ => exact absurd empty nonempty
  case h_2 empty _ => exact absurd empty nonempty
  case h_3 => rfl

theorem tokens_ne_nil_of_parsed (parsed : Command.ofTokens line.tokens = .ok command) :
    line.tokens ≠ [] := by
  intro empty
  rw [empty] at parsed
  cases parsed

theorem runLine_of_passes {step? : Option Step} (passes : session.Passes placed step? left) :
    session.runLine placed.number placed.start placed.text = (.ok step?, left) := by
  cases passes with
  | empty read => rw [runLine_of_read read, runTokens]
  | command entry same executed =>
      subst same
      rw [runLine_of_read entry.read, runTokens_of_nonempty _ entry.tokens_ne_nil, entry.parsed]
      simp only [executed, entry.mismatch_eq_none, Entry.step]

theorem runLine_of_stops {error : Error} (stops : session.Stops placed error left) :
    session.runLine placed.number placed.start placed.text = (.error error, left) := by
  cases stops with
  | unreadable unread => exact runLine_of_unread unread
  | bare read => rw [runLine_of_read read, runTokens]
  | unparsed read nonempty unparsed =>
      rw [runLine_of_read read, runTokens_of_nonempty _ nonempty, unparsed]
  | failed read parsed executed =>
      rw [runLine_of_read read, runTokens_of_nonempty _ (tokens_ne_nil_of_parsed parsed), parsed]
      simp only [executed]
  | unexpected read parsed executed expected differ =>
      rw [runLine_of_read read, runTokens_of_nonempty _ (tokens_ne_nil_of_parsed parsed), parsed]
      simp only [executed, Line.mismatch?, expected, if_neg differ]

/-- Every line passes or stops the script. -/
theorem passes_or_stops (session : Session) (placed : PlacedLine) :
    (∃ step? left, session.Passes placed step? left) ∨
      ∃ error left, session.Stops placed error left := by
  cases read : placed.read with
  | error error => exact Or.inr ⟨error, session, .unreadable read⟩
  | ok line =>
      by_cases empty : line.tokens = []
      · cases expected : line.expectation? with
        | none =>
            have whole : line = ⟨[], none⟩ := by rw [← empty, ← expected]
            exact Or.inl ⟨none, session, .empty (by rw [read, whole])⟩
        | some expectation =>
            have whole : line = ⟨[], some expectation⟩ := by rw [← empty, ← expected]
            exact Or.inr ⟨_, session, .bare (by rw [read, whole])⟩
      cases parsed : Command.ofTokens line.tokens with
      | error error => exact Or.inr ⟨error, session, .unparsed read empty parsed⟩
      | ok command =>
          cases executed : session.execute command with
          | mk result left =>
              cases result with
              | error fault => exact Or.inr ⟨_, left, .failed read parsed executed⟩
              | ok outcome =>
                  by_cases agree : ∀ expectation ∈ line.expectation?,
                      outcome.render = expectation.value
                  · exact Or.inl ⟨_, left, .command
                      ⟨placed, line, command, outcome, read, parsed, agree⟩ rfl executed⟩
                  · rcases Classical.not_forall.1 agree with ⟨expectation, disagree⟩
                    rcases Classical.not_imp.1 disagree with ⟨expected, differ⟩
                    exact Or.inr ⟨_, left, .unexpected read parsed executed expected differ⟩

theorem runLine_eq_ok_iff {step? : Option Step} :
    session.runLine placed.number placed.start placed.text = (.ok step?, left) ↔
      session.Passes placed step? left := by
  refine ⟨?_, runLine_of_passes⟩
  intro ran
  rcases passes_or_stops session placed with ⟨other, final, passes⟩ | ⟨error, final, stops⟩
  · rw [runLine_of_passes passes] at ran
    cases ran
    exact passes
  · rw [runLine_of_stops stops] at ran
    cases ran

theorem runLine_eq_error_iff {error : Error} :
    session.runLine placed.number placed.start placed.text = (.error error, left) ↔
      session.Stops placed error left := by
  refine ⟨?_, runLine_of_stops⟩
  intro ran
  rcases passes_or_stops session placed with ⟨step?, final, passes⟩ | ⟨other, final, stops⟩
  · rw [runLine_of_passes passes] at ran
    cases ran
  · rw [runLine_of_stops stops] at ran
    cases ran
    exact stops

end Session

end TextCursor

import TextCursor.Script.Execution
import TextCursor.Script.Line

/-!
# Runs of scripts

A script is run line by line, each line on the session that the lines before it have left. The first
error ends the run. A line whose outcome is not the expected one has been executed all the same; no
other error leaves a trace of its line on the session.
-/

namespace TextCursor

namespace Script

/-- A line that was executed: its number, counted from one, and what it came to. -/
structure Step where
  line : Nat
  verb : Verb
  outcome : Outcome
  span : Span
  deriving DecidableEq

namespace Line

/-- The smallest span around the tokens of a line. -/
def span (line : Line) : Span := Span.hullAll (line.tokens.map Spanned.span)

/-- The error of an outcome that is not the expected one. -/
def mismatch? (line : Line) (outcome : Outcome) : Option Error :=
  match line.expectation? with
  | none => none
  | some expectation =>
      if outcome.render = expectation.value then
        none
      else
        some ⟨.expectationFailed expectation.value outcome.render, expectation.span⟩

end Line

end Script

namespace Session

open Script

/-- Executes a line that was read, if there is a command on it. -/
def runTokens (session : Session) (number : Nat) (line : Line) :
    Except Error (Option Step) × Session :=
  match line.tokens, line.expectation? with
  | [], none => (.ok none, session)
  | [], some expectation => (.error ⟨.missingCommand, expectation.span⟩, session)
  | _ :: _, _ =>
      match Command.ofTokens line.tokens with
      | .error error => (.error error, session)
      | .ok command =>
          match session.execute command with
          | (.error fault, left) => (.error ⟨fault, line.span⟩, left)
          | (.ok outcome, left) =>
              match line.mismatch? outcome with
              | some error => (.error error, left)
              | none => (.ok (some ⟨number, command.verb, outcome, line.span⟩), left)

/-- Reads and executes the line of the given number, which starts at the given byte. -/
def runLine (session : Session) (number start : Nat) (text : Text) :
    Except Error (Option Step) × Session :=
  match Line.read start text with
  | .error error => (.error error, session)
  | .ok line => session.runTokens number line

/-- Runs lines in order, the first of which has the given number and starts at the given byte. -/
def runLines (session : Session) (number start : Nat) :
    List Text → Except Error (List Step) × Session
  | [] => (.ok [], session)
  | text :: rest =>
      match session.runLine number start text with
      | (.error error, left) => (.error error, left)
      | (.ok step?, left) =>
          let (result, final) := left.runLines (number + 1) (start + text.utf8Size + 1) rest
          (result.map (step?.toList ++ ·), final)

def run (session : Session) (script : Text) : Except Error (List Step) × Session :=
  session.runLines 1 0 script.lines

end Session

end TextCursor

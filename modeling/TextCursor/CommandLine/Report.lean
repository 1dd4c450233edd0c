import TextCursor.CommandLine.Invocation
import TextCursor.CommandLine.Source
import TextCursor.Script.Run

/-!
# Reports

The command line runs a script over an input and reports the outcome of every command, a line
each. `perform` is all of it but for what it is given: how text is shown in bold, how arguments are
understood and how files are read. The script is read first, and the input only if the script could
be read.
-/

namespace TextCursor.CommandLine

open Script

/-- A line number, at the right of four columns or of as many as it needs. -/
def renderNumber (number : Nat) : Text :=
  let digits := Decimal.ofNat number
  List.replicate (4 - digits.length) ' ' ++ digits

/-- Bold as terminals are told to show it. -/
def terminalBold (text : Text) : Text := "\x1b[1m".toList ++ text ++ "\x1b[0m".toList

/-- The line of the report for one step, with the verb in bold. -/
def renderStep (bold : Text → Text) (step : Step) : Text :=
  renderNumber step.line ++ ": ".toList ++ bold step.verb.word ++ " => ".toList ++
    step.outcome.render ++ ['\n']

def renderSteps (bold : Text → Text) (steps : List Step) : Text := steps.flatMap (renderStep bold)

inductive Ending where
  | dismissed (cause : Dismissal)
  | unreadableScript (path : Text) (fault : ReadFault)
  | unreadableInput (path : Text) (fault : ReadFault)
  | failed (error : Error)
  | finished (report : Text)

namespace Ending

def exitCode : Ending → Nat
  | finished _ => 0
  | dismissed (.helped _) => 0
  | failed _ => 1
  | _ => 2

def output : Ending → Text
  | finished report => report
  | dismissed (.helped text) => text
  | _ => []

/-- What is said about a file that could not be read. -/
def complaint? : Ending → Option String
  | unreadableScript path fault =>
      some ("Could not read the script `" ++ String.ofList path ++ "`: " ++ fault.message ++ "\n")
  | unreadableInput path fault =>
      some ("Could not read the input file `" ++ String.ofList path ++ "`: " ++ fault.message ++
        "\n")
  | _ => none

end Ending

namespace Invocation

def scriptSource (invocation : Invocation) : Source :=
  if invocation.script = ['-'] then .standardInput else .file invocation.script

/-- Runs a script on an input and reports, unless asked not to. -/
def run (invocation : Invocation) (bold : Text → Text) (script input : Text) : Ending :=
  match ((Session.ofText input).run script).1 with
  | .ok steps => .finished (if invocation.quiet then [] else renderSteps bold steps)
  | .error error => .failed error

end Invocation

/-- Does what the arguments ask for, with the given ways to do what is not done here. -/
def perform {Effect : Type → Type} [Monad Effect] (bold : Text → Text)
    (understand : List Text → Except Dismissal Invocation)
    (read : Source → Effect (Except ReadFault Text)) (arguments : List Text) : Effect Ending := do
  match understand arguments with
  | .error cause => return .dismissed cause
  | .ok invocation =>
      match ← read invocation.scriptSource with
      | .error fault => return .unreadableScript invocation.script fault
      | .ok script =>
          match invocation.input? with
          | none => return invocation.run bold script []
          | some path =>
              match ← read (.file path) with
              | .error fault => return .unreadableInput path fault
              | .ok input => return invocation.run bold script input

end TextCursor.CommandLine

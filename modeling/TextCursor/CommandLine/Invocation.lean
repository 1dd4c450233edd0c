import TextCursor.Text.Basic

/-!
# Invocations

What the arguments of the command line ask for: a script, which may be the standard input, and
possibly an input file. Arguments that ask for no run get a `Dismissal`.
-/

namespace TextCursor.CommandLine

/-- What to run, on what, and whether to say so. -/
structure Invocation where
  script : Text
  input? : Option Text
  quiet : Bool
  deriving DecidableEq

/-- Why nothing is run. -/
inductive Dismissal where
  | misused
  /-- The given text is what was asked for. -/
  | helped (text : Text)
  deriving DecidableEq

end TextCursor.CommandLine

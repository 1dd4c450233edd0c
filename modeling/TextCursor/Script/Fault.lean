import TextCursor.Cursor.Extraction
import TextCursor.Script.Verb
import TextCursor.Script.Token
import TextCursor.Span
import TextCursor.Text.Quoted

/-!
# Faults

A fault is a reason for which a script stops, and an error is a fault with the bytes of the script
that it is about. The wording of faults is here: a code, a message and, for some, a hint.
-/

namespace TextCursor.Script

/-- What a command takes in an argument place. -/
inductive ArgumentKind where
  | string
  | integer
  | checkpointName
  | landmark
  | length
  deriving DecidableEq

def ArgumentKind.describe : ArgumentKind → String
  | string => "a string"
  | integer => "an integer"
  | checkpointName => "a checkpoint name"
  | landmark => "a string, `^` or `$`"
  | length => "an integer or `*`"

/-- Why a script stops. -/
inductive Fault where
  | unterminatedString
  | unknownEscape (c : Char)
  | unexpectedCharacter (c : Char)
  | malformedInteger
  | integerOutOfRange
  | missingCommand
  | unknownCommand (text : Text)
  | missingArgument (verb : Verb) (expected : ArgumentKind)
  | invalidArgument (verb : Verb) (expected : ArgumentKind) (found : TokenKind)
  | unexpectedArgument (verb : Verb)
  | unknownCheckpoint (name : Text)
  | backwardSlice (cause : BackwardSlice)
  | expectationFailed (expected actual : Text)
  deriving DecidableEq

namespace Fault

def code : Fault → String
  | unterminatedString => "script::unterminated_string"
  | unknownEscape _ => "script::unknown_escape"
  | unexpectedCharacter _ => "script::unexpected_character"
  | malformedInteger => "script::malformed_integer"
  | integerOutOfRange => "script::integer_out_of_range"
  | missingCommand => "script::missing_command"
  | unknownCommand _ => "script::unknown_command"
  | missingArgument .. => "script::missing_argument"
  | invalidArgument .. => "script::invalid_argument"
  | unexpectedArgument _ => "script::unexpected_argument"
  | unknownCheckpoint _ => "script::unknown_checkpoint"
  | backwardSlice _ => BackwardSlice.code
  | expectationFailed .. => "script::expectation_failed"

def message : Fault → String
  | unterminatedString => "the string literal is not terminated"
  | unknownEscape c => "unknown escape sequence `\\" ++ String.singleton c ++ "`"
  | unexpectedCharacter c =>
      "encountered an unexpected character " ++ String.ofList (Quoted.character c)
  | malformedInteger => "the integer is malformed"
  | integerOutOfRange => "the integer does not fit a cursor offset"
  | missingCommand => "an expectation needs a command before `=>`"
  | unknownCommand text => "unknown command " ++ String.ofList (Quoted.text text)
  | missingArgument verb expected =>
      "`" ++ String.ofList verb.word ++ "` is missing an argument: expected " ++
        expected.describe
  | invalidArgument verb expected found =>
      "`" ++ String.ofList verb.word ++ "` expected " ++ expected.describe ++ ", found " ++
        found.describe
  | unexpectedArgument verb =>
      "`" ++ String.ofList verb.word ++ "` takes no further arguments"
  | unknownCheckpoint name => "no checkpoint named " ++ String.ofList (Quoted.text name)
  | backwardSlice cause => cause.message
  | expectationFailed expected actual =>
      "expected `" ++ String.ofList expected ++ "`, got `" ++ String.ofList actual ++ "`"

/-- Advice on what to write instead. -/
def hint? : Fault → Option String
  | unknownEscape _ => some "supported escapes are \\n, \\t, \\r, \\0, \\\\, \\\" and \\'"
  | unknownCheckpoint _ => some "checkpoints are created with the `checkpoint` command"
  | backwardSlice _ => some BackwardSlice.hint
  | _ => none

end Fault

/-- A fault and the bytes of the script that it is about. -/
abbrev Error := Spanned Fault

namespace Error

def message (error : Error) : String := "script failed: " ++ error.value.message

/-- The spans to be underlined when the error is shown in the script. -/
def labels (error : Error) : List Span := [error.span]

end Error

end TextCursor.Script

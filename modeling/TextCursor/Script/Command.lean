import TextCursor.Distance
import TextCursor.Script.Fault

/-!
# Commands

A command is a verb with its arguments, and it is read from the tokens of a line: the first token is
the verb, which says what comes after it. The first token that cannot stand where it stands is the
one that the error is about; if an argument is missing, the error is about the verb.
-/

namespace TextCursor.Script

inductive Command where
  | input (text : Text)
  | current
  | advance
  | retreat
  | peek
  | position
  | remaining
  | standsHere (target : Text)
  | standsBefore (target : Text)
  | standsAfter (target : Text)
  | distanceTo (landmark : Landmark)
  | closest (targets : List Text)
  | checkpoint (name : Text)
  | rollback (name : Text)
  | getUntil (target : Text)
  /-- Slices as many characters as are given, and to the end if no number is. -/
  | slice (length? : Option Offset)
  | moveBy (delta : Offset)
  | moveTo (place : Offset)
  | jumpTo (target : Text)
  | consume (targets : List Text)
  deriving DecidableEq

/-- An argument place: what it takes, and the value of each token that it takes. -/
structure Parameter (Value : Type) where
  kind : ArgumentKind
  accept? : Token → Option Value

namespace Parameter

def string : Parameter Text where
  kind := .string
  accept?
    | .string content => some content
    | _ => none

def integer : Parameter Offset where
  kind := .integer
  accept?
    | .integer number => some number
    | _ => none

def checkpointName : Parameter Text where
  kind := .checkpointName
  accept?
    | .word name => some name
    | .string name => some name
    | _ => none

def landmark : Parameter Landmark where
  kind := .landmark
  accept?
    | .string content => some (.text content)
    | .marker .beginning => some .beginning
    | .marker .ending => some .ending
    | _ => none

def length : Parameter (Option Offset) where
  kind := .length
  accept?
    | .integer number => some (some number)
    | .marker .rest => some none
    | _ => none

/-- The value of a token in the argument place of a command. -/
def read {Value : Type} (parameter : Parameter Value) (verb : Verb) (token : Spanned Token) :
    Except Error Value :=
  match parameter.accept? token.value with
  | some value => .ok value
  | none => .error ⟨.invalidArgument verb parameter.kind token.value.kind, token.span⟩

end Parameter

namespace Command

def verb : Command → Verb
  | input _ => .input
  | current => .current
  | advance => .advance
  | retreat => .retreat
  | peek => .peek
  | position => .position
  | remaining => .remaining
  | standsHere _ => .standsHere
  | standsBefore _ => .standsBefore
  | standsAfter _ => .standsAfter
  | distanceTo _ => .distanceTo
  | closest _ => .closest
  | checkpoint _ => .checkpoint
  | rollback _ => .rollback
  | getUntil _ => .getUntil
  | slice _ => .slice
  | moveBy _ => .moveBy
  | moveTo _ => .moveTo
  | jumpTo _ => .jumpTo
  | consume _ => .consume

/-- The command if no tokens are left. -/
def finish (command : Command) : List (Spanned Token) → Except Error Command
  | [] => .ok command
  | token :: _ => .error ⟨.unexpectedArgument command.verb, token.span⟩

def withOne {Value : Type} (head : Spanned Verb) (parameter : Parameter Value)
    (command : Value → Command) : List (Spanned Token) → Except Error Command
  | [] => .error ⟨.missingArgument head.value parameter.kind, head.span⟩
  | token :: rest => do
      let value ← parameter.read head.value token
      (command value).finish rest

def withMany {Value : Type} (verb : Verb) (parameter : Parameter Value)
    (command : List Value → Command) (tokens : List (Spanned Token)) : Except Error Command :=
  command <$> tokens.mapM (parameter.read verb)

def ofArguments (head : Spanned Verb) : List (Spanned Token) → Except Error Command :=
  match head.value with
  | .input => withOne head .string input
  | .current => finish current
  | .advance => finish advance
  | .retreat => finish retreat
  | .peek => finish peek
  | .position => finish position
  | .remaining => finish remaining
  | .standsHere => withOne head .string standsHere
  | .standsBefore => withOne head .string standsBefore
  | .standsAfter => withOne head .string standsAfter
  | .distanceTo => withOne head .landmark distanceTo
  | .closest => withMany head.value .string closest
  | .checkpoint => withOne head .checkpointName checkpoint
  | .rollback => withOne head .checkpointName rollback
  | .getUntil => withOne head .string getUntil
  | .slice => withOne head .length slice
  | .moveBy => withOne head .integer moveBy
  | .moveTo => withOne head .integer moveTo
  | .jumpTo => withOne head .string jumpTo
  | .consume => withMany head.value .string consume

/-- A verb takes no argument, one argument or any number of strings, wherever it stands. -/
theorem ofArguments_shape (verb : Verb) :
    (∃ command : Command, ∀ span, ofArguments ⟨verb, span⟩ = finish command) ∨
      (∃ (Value : Type) (parameter : Parameter Value) (command : Value → Command),
        ∀ span, ofArguments ⟨verb, span⟩ = withOne ⟨verb, span⟩ parameter command) ∨
      ∃ command : List Text → Command,
        ∀ span, ofArguments ⟨verb, span⟩ = withMany verb .string command := by
  cases verb with
  | input => exact .inr (.inl ⟨_, .string, input, fun _ => rfl⟩)
  | current => exact .inl ⟨current, fun _ => rfl⟩
  | advance => exact .inl ⟨advance, fun _ => rfl⟩
  | retreat => exact .inl ⟨retreat, fun _ => rfl⟩
  | peek => exact .inl ⟨peek, fun _ => rfl⟩
  | position => exact .inl ⟨position, fun _ => rfl⟩
  | remaining => exact .inl ⟨remaining, fun _ => rfl⟩
  | standsHere => exact .inr (.inl ⟨_, .string, standsHere, fun _ => rfl⟩)
  | standsBefore => exact .inr (.inl ⟨_, .string, standsBefore, fun _ => rfl⟩)
  | standsAfter => exact .inr (.inl ⟨_, .string, standsAfter, fun _ => rfl⟩)
  | distanceTo => exact .inr (.inl ⟨_, .landmark, distanceTo, fun _ => rfl⟩)
  | closest => exact .inr (.inr ⟨closest, fun _ => rfl⟩)
  | checkpoint => exact .inr (.inl ⟨_, .checkpointName, checkpoint, fun _ => rfl⟩)
  | rollback => exact .inr (.inl ⟨_, .checkpointName, rollback, fun _ => rfl⟩)
  | getUntil => exact .inr (.inl ⟨_, .string, getUntil, fun _ => rfl⟩)
  | slice => exact .inr (.inl ⟨_, .length, slice, fun _ => rfl⟩)
  | moveBy => exact .inr (.inl ⟨_, .integer, moveBy, fun _ => rfl⟩)
  | moveTo => exact .inr (.inl ⟨_, .integer, moveTo, fun _ => rfl⟩)
  | jumpTo => exact .inr (.inl ⟨_, .string, jumpTo, fun _ => rfl⟩)
  | consume => exact .inr (.inr ⟨consume, fun _ => rfl⟩)

/-- The verb that a token spells; only a word does. -/
def verb? : Token → Option Verb
  | .word spelling => Verb.ofText? spelling
  | _ => none

/-- How a token is called that is no verb. -/
def misnomer : Token → Text
  | .word spelling => spelling
  | .string content => content
  | token => token.kind.describe.toList

def ofTokens : List (Spanned Token) → Except Error Command
  | [] => .error ⟨.missingCommand, .origin⟩
  | head :: arguments =>
      match verb? head.value with
      | some verb => ofArguments ⟨verb, head.span⟩ arguments
      | none => .error ⟨.unknownCommand (misnomer head.value), head.span⟩

end Command

end TextCursor.Script

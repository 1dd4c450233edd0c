import TextCursor.Proofs.Script.FirstOffence
import TextCursor.Proofs.Script.ViablePrefix
import TextCursor.Script.Execution

/-!
# Stages of faults

A line is read, parsed, executed and compared with its expectation, in this order, and every fault
belongs to one of these stages. The readers, the parser and the commands fail with faults of their
own stage only, so that the fault of a script tells how far its last line has come.
-/

namespace TextCursor

namespace Script

/-- What is done with a line when it fails. -/
inductive Stage where
  | reading
  | parsing
  | execution
  | comparison
  deriving DecidableEq

namespace Fault

def stage : Fault → Stage
  | unterminatedString => .reading
  | unknownEscape _ => .reading
  | unexpectedCharacter _ => .reading
  | malformedInteger => .reading
  | integerOutOfRange => .reading
  | missingCommand => .parsing
  | unknownCommand _ => .parsing
  | missingArgument _ _ => .parsing
  | invalidArgument _ _ _ => .parsing
  | unexpectedArgument _ => .parsing
  | unknownCheckpoint _ => .execution
  | backwardSlice _ => .execution
  | expectationFailed _ _ => .comparison

theorem stage_eq_comparison_iff {fault : Fault} :
    fault.stage = .comparison ↔ ∃ expected actual, fault = .expectationFailed expected actual := by
  constructor
  · intro compared
    cases fault with
    | expectationFailed expected actual => exact ⟨expected, actual, rfl⟩
    | unterminatedString => cases compared
    | unknownEscape c => cases compared
    | unexpectedCharacter c => cases compared
    | malformedInteger => cases compared
    | integerOutOfRange => cases compared
    | missingCommand => cases compared
    | unknownCommand text => cases compared
    | missingArgument verb expected => cases compared
    | invalidArgument verb expected found => cases compared
    | unexpectedArgument verb => cases compared
    | unknownCheckpoint name => cases compared
    | backwardSlice cause => cases compared
  · rintro ⟨expected, actual, rfl⟩
    rfl

end Fault

theorem Offends.stage {fault : Fault} {opening part after : Text}
    (offends : Offends fault opening part after) : fault.stage = .reading := by
  cases offends <;> rfl

namespace Line

theorem stage_of_read_error {start : Nat} {text : Text} {error : Error}
    (failed : read start text = .error error) : error.value.stage = .reading := by
  rcases exists_offending_of_read failed with ⟨front, opening, part, after, -, -, offends, -⟩
  exact offends.stage

end Line

namespace Command

variable {tokens : List (Spanned Token)} {error : Error}

theorem stage_of_ofTokens_error (failed : ofTokens tokens = .error error) :
    error.value.stage = .parsing := by
  cases tokens with
  | nil =>
      cases failed
      rfl
  | cons head arguments =>
      rcases ofTokens_error_cases failed with ⟨-, rfl⟩ | ⟨verb, -, refuses⟩
      · rfl
      · cases refuses <;> rfl

end Command

end Script

namespace Session

open Script

variable {session left : Session} {command : Command} {fault : Fault}

/-- Two commands can fail, and a command that fails leaves the session as it was. -/
theorem execute_error_cases (failed : session.execute command = (.error fault, left)) :
    left = session ∧
      ((∃ length cause, command = .slice (some length) ∧
          session.cursor.slice length = .error cause ∧ fault = .backwardSlice cause) ∨
        ∃ name, command = .rollback name ∧ session.rollback? name = none ∧
          fault = .unknownCheckpoint name) := by
  cases command with
  | rollback name =>
      simp only [execute] at failed
      split at failed
      · cases failed
      · next unknown =>
          cases failed
          exact ⟨rfl, Or.inr ⟨name, rfl, unknown, rfl⟩⟩
  | slice length? =>
      cases length? with
      | none => cases failed
      | some length =>
          simp only [execute] at failed
          split at failed
          · cases failed
          · next cause backward =>
              cases failed
              exact ⟨rfl, Or.inl ⟨length, cause, rfl, backward, rfl⟩⟩
  | input text => cases failed
  | current => cases failed
  | advance => cases failed
  | retreat => cases failed
  | peek => cases failed
  | position => cases failed
  | remaining => cases failed
  | standsHere target => cases failed
  | standsBefore target => cases failed
  | standsAfter target => cases failed
  | distanceTo landmark => cases failed
  | closest targets => cases failed
  | checkpoint name => cases failed
  | getUntil target => cases failed
  | moveBy delta => cases failed
  | moveTo place => cases failed
  | jumpTo target => cases failed
  | consume targets => cases failed

theorem session_of_execute_error (failed : session.execute command = (.error fault, left)) :
    left = session :=
  (execute_error_cases failed).1

theorem stage_of_execute_error (failed : session.execute command = (.error fault, left)) :
    fault.stage = .execution := by
  rcases (execute_error_cases failed).2 with ⟨length, cause, -, -, rfl⟩ | ⟨name, -, -, rfl⟩
  · rfl
  · rfl

end Session

end TextCursor

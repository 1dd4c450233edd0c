import TextCursor.Proofs.Script.CheckpointHistory
import TextCursor.Proofs.Script.FaultStage

/-!
# Commands that fail

A session rejects two kinds of commands, slices of a negative length and returns to a checkpoint
that it does not have, and what it rejects leaves no trace: cursor and checkpoints are as they were,
so whatever is executed afterwards comes to what it would have come to anyway. Of any number of
commands, those that fail can be left out, and nothing changes for the others.
-/

namespace TextCursor

theorem Checkpoints.get?_eq_none_iff {checkpoints : Checkpoints} {name : Text} :
    checkpoints.get? name = none ↔ ∀ place, (name, place) ∉ checkpoints.entries := by
  simp only [get?, List.lookup_eq_none_iff, Prod.forall, bne_iff_ne, ne_eq]
  constructor
  · intro absent place mem
    exact absent name place mem rfl
  · rintro absent other place mem rfl
    exact absent place mem

theorem Cursor.slice_of_negative {length : Offset} (cursor : Cursor) (negative : length.value < 0) :
    cursor.slice length = .error ⟨cursor.position, length⟩ := by
  have noCount : length.toNat? = none := by simp only [Offset.toNat?, negative, if_true]
  simp only [slice, noCount]

namespace Session

open Script

/-- Which commands a session rejects, and why. -/
inductive Rejects (session : Session) : Command → Fault → Prop where
  | backwardSlice {length : Offset} (negative : length.value < 0) :
      Rejects session (.slice (some length)) (.backwardSlice ⟨session.cursor.position, length⟩)
  | unknownCheckpoint {name : Text}
      (unknown : ∀ place, (name, place) ∉ session.checkpoints.entries) :
      Rejects session (.rollback name) (.unknownCheckpoint name)

/-- What commands come to, each executed whatever became of those before it. -/
def results (session : Session) : List Command → List (Except Fault Outcome)
  | [] => []
  | command :: rest => (session.execute command).1 :: (session.execute command).2.results rest

/-- The commands that succeed if each is executed whatever became of those before it. -/
def succeeding (session : Session) : List Command → List Command
  | [] => []
  | command :: rest =>
      match session.execute command with
      | (.ok _, next) => command :: next.succeeding rest
      | (.error _, next) => next.succeeding rest

variable {session left : Session} {command : Command} {fault : Fault}

theorem after_cons (session : Session) (command : Command) (rest : List Command) :
    session.after (command :: rest) = (session.execute command).2.after rest := rfl

theorem after_append (session : Session) (before later : List Command) :
    session.after (before ++ later) = (session.after before).after later :=
  List.foldl_append

theorem results_append (session : Session) (before later : List Command) :
    session.results (before ++ later) =
      session.results before ++ (session.after before).results later := by
  induction before generalizing session with
  | nil => rfl
  | cons command rest ih => simp only [List.cons_append, results, after_cons, ih]

theorem execute_of_rejects (rejects : session.Rejects command fault) :
    session.execute command = (.error fault, session) := by
  cases rejects with
  | backwardSlice negative =>
      simp only [execute, Cursor.slice_of_negative session.cursor negative]
  | unknownCheckpoint unknown =>
      exact execute_rollback_of_unknown (Checkpoints.get?_eq_none_iff.2 unknown)

/-- A slice that is refused is one of a negative length. -/
theorem rejects_of_slice_eq_error {length : Offset} {cause : BackwardSlice}
    (refused : session.cursor.slice length = .error cause) :
    session.Rejects (.slice (some length)) (.backwardSlice cause) := by
  by_cases negative : length.value < 0
  · simp only [Cursor.slice_of_negative session.cursor negative, Except.error.injEq] at refused
    subst refused
    exact .backwardSlice negative
  · simp only [Cursor.slice_eq_ok session.cursor (Int.not_lt.1 negative), reduceCtorEq] at refused

theorem execute_eq_error_iff :
    session.execute command = (.error fault, left) ↔
      session.Rejects command fault ∧ left = session := by
  constructor
  · intro failed
    rcases execute_error_cases failed with
      ⟨same, ⟨length, cause, rfl, refused, rfl⟩ | ⟨name, rfl, unknown, rfl⟩⟩
    · exact ⟨rejects_of_slice_eq_error refused, same⟩
    · simp only [rollback?, Option.map_eq_none_iff] at unknown
      exact ⟨.unknownCheckpoint (Checkpoints.get?_eq_none_iff.1 unknown), same⟩
  · rintro ⟨rejects, rfl⟩
    exact execute_of_rejects rejects

/-- Without the commands that fail, the others come to the same and leave the same session. -/
theorem results_succeeding (session : Session) (commands : List Command) :
    session.results (session.succeeding commands) =
        (session.results commands).filter Except.isOk ∧
      session.after (session.succeeding commands) = session.after commands := by
  induction commands generalizing session with
  | nil => exact ⟨rfl, rfl⟩
  | cons command rest ih =>
      rcases executed : session.execute command with ⟨fault | outcome, next⟩
      · have same := session_of_execute_error executed
        subst same
        rcases ih next with ⟨others, final⟩
        simp only [succeeding, executed, results, after_cons, List.filter_cons, Except.isOk,
          Except.toBool, Bool.false_eq_true, if_false]
        exact ⟨others, final⟩
      · rcases ih next with ⟨others, final⟩
        simp only [succeeding, executed, results, after_cons, List.filter_cons, Except.isOk,
          Except.toBool, if_true, List.cons.injEq, true_and]
        exact ⟨others, final⟩

/--
A command fails exactly if it is a slice of a negative length, or a return to a name that no
checkpoint has, and then the session is left as it is. So wherever a command fails, what is executed
later comes to the same as without it and leaves the same session; and so it is without all commands
that fail.
-/
theorem execute_error_exact (session : Session) (command : Command) :
    (∀ fault left, session.execute command = (.error fault, left) ↔
        session.Rejects command fault ∧ left = session) ∧
      (∀ before later fault left, (session.after before).execute command = (.error fault, left) →
        session.results (before ++ command :: later) =
            session.results before ++ .error fault :: (session.after before).results later ∧
          session.results (before ++ later) =
            session.results before ++ (session.after before).results later ∧
          session.after (before ++ command :: later) = session.after (before ++ later)) ∧
      ∀ commands,
        session.results (session.succeeding commands) =
            (session.results commands).filter Except.isOk ∧
          session.after (session.succeeding commands) = session.after commands := by
  refine ⟨fun fault left => execute_eq_error_iff, ?_, session.results_succeeding⟩
  intro before later fault left failed
  have same := session_of_execute_error failed
  subst same
  refine ⟨?_, session.results_append before later, ?_⟩
  · simp only [results_append, results, failed]
  · simp only [after_append, after_cons, failed]

/-- The position that is asked for after a backward slice is the one before it. -/
theorem execute_error_exact_backward :
    let session := ofText "lorem".toList
    let backward : Command := .slice (some (.clamp (-1)))
    (session.after [.advance]).execute backward =
        (.error (.backwardSlice ⟨.clamp 1, .clamp (-1)⟩), session.after [.advance]) ∧
      session.results ([.advance] ++ backward :: [.position]) =
        [.ok (.character 'o'), .error (.backwardSlice ⟨.clamp 1, .clamp (-1)⟩),
          .ok (.offset (.clamp 1))] ∧
      session.after ([.advance] ++ backward :: [.position]) =
        session.after ([.advance] ++ [.position]) := by
  intro session backward
  have failed : (session.after [.advance]).execute backward =
      (.error (.backwardSlice ⟨.clamp 1, .clamp (-1)⟩), session.after [.advance]) := rfl
  rcases execute_error_exact session backward with ⟨-, unseen, -⟩
  rcases unseen [.advance] [.position] _ _ failed with ⟨later, -, final⟩
  refine ⟨failed, ?_, final⟩
  rw [later]
  rfl

end Session

end TextCursor

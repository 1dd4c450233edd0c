import Mathlib.Data.List.Induction
import TextCursor.Proofs.Cursor.Conservation
import TextCursor.Script.Execution

/-!
# Checkpoints and the history of a session

What a session remembers is what its history says: a name stands for the position at the last
checkpoint of that name, and for nothing if an input came after it or there was none. A command is
an input, or it takes a checkpoint, or it does no more than move the cursor, so the table of
checkpoints follows the history command by command, commands that fail included.
-/

namespace TextCursor

namespace Script

def Command.isInput : Command → Bool
  | input _ => true
  | _ => false

/-- Whether a name was given to a position, in a history, and no input has come after. -/
def Remembered (name : Text) (history : List Command) : Prop :=
  ∃ before later, history = before ++ .checkpoint name :: later ∧
    ∀ command ∈ later, command.isInput = false

/-- Whether the last checkpoint of a name that a history remembers was taken after `before`. -/
def LastCheckpoint (name : Text) (history before : List Command) : Prop :=
  ∃ later, history = before ++ .checkpoint name :: later ∧
    ∀ command ∈ later, command.isInput = false ∧ command ≠ .checkpoint name

variable {name : Text} {history before : List Command} {command : Command}

theorem not_lastCheckpoint_nil : ¬LastCheckpoint name [] before := by
  rintro ⟨later, split, -⟩
  simp at split

theorem lastCheckpoint_concat :
    LastCheckpoint name (history ++ [command]) before ↔
      command = .checkpoint name ∧ before = history ∨
        (command.isInput = false ∧ command ≠ .checkpoint name) ∧
          LastCheckpoint name history before := by
  constructor
  · rintro ⟨later, split, kept⟩
    rcases List.eq_nil_or_concat later with rfl | ⟨middle, last, rfl⟩
    · rcases List.append_inj' split rfl with ⟨rfl, same⟩
      exact Or.inl ⟨List.singleton_inj.1 same, rfl⟩
    · rw [List.concat_eq_append, ← List.cons_append, ← List.append_assoc] at split
      rcases List.append_inj' split rfl with ⟨rfl, same⟩
      rw [List.singleton_inj.1 same]
      refine Or.inr ⟨kept last (by simp), middle, rfl, ?_⟩
      intro other mem
      exact kept other (by simp [mem])
  · rintro (⟨rfl, rfl⟩ | ⟨keeps, later, rfl, kept⟩)
    · exact ⟨[], rfl, by simp⟩
    · refine ⟨later ++ [command], by simp, ?_⟩
      intro other mem
      rcases List.mem_append.1 mem with old | new
      · exact kept other old
      · rwa [List.mem_singleton.1 new]

/-- A name that is remembered has a last checkpoint. -/
theorem exists_lastCheckpoint_iff :
    (∃ before, LastCheckpoint name history before) ↔ Remembered name history := by
  constructor
  · rintro ⟨before, later, split, kept⟩
    exact ⟨before, later, split, fun other mem => (kept other mem).1⟩
  · rintro ⟨before, later, rfl, kept⟩
    induction later using List.reverseRecOn with
    | nil => exact ⟨before, [], rfl, by simp⟩
    | append_singleton later last ih =>
        have lastKept := kept last (by simp)
        rcases ih fun other mem => kept other (by simp [mem]) with ⟨found, lastCheckpoint⟩
        rw [← List.cons_append, ← List.append_assoc]
        by_cases again : last = .checkpoint name
        · exact ⟨_, lastCheckpoint_concat.2 (Or.inl ⟨again, rfl⟩)⟩
        · exact ⟨found, lastCheckpoint_concat.2 (Or.inr ⟨⟨lastKept, again⟩, lastCheckpoint⟩)⟩

end Script

namespace Session

open Script

/-- The session that commands leave, each being executed whatever became of those before it. -/
def after (session : Session) (commands : List Command) : Session :=
  commands.foldl (fun reached command => (reached.execute command).2) session

variable {session : Session} {command : Command} {name : Text}

theorem after_concat (session : Session) (commands : List Command) (command : Command) :
    session.after (commands ++ [command]) = ((session.after commands).execute command).2 := by
  simp only [after, List.foldl_append, List.foldl_cons, List.foldl_nil]

theorem exists_withCursor_of_rollback (session : Session) (name : Text) :
    ∃ place, (session.execute (.rollback name)).2 =
      session.withCursor (session.cursor.moveTo place) := by
  simp only [execute]
  split
  · next restored found =>
      rcases Option.map_eq_some_iff.1 found with ⟨place, -, rfl⟩
      exact ⟨place, rfl⟩
  · exact ⟨session.cursor.position, rfl⟩

theorem exists_withCursor_of_slice (session : Session) (length? : Option Offset) :
    ∃ place, (session.execute (.slice length?)).2 =
      session.withCursor (session.cursor.moveTo place) := by
  cases length? with
  | none => exact ⟨_, rfl⟩
  | some length =>
      simp only [execute]
      split
      · next content reached sliced =>
          have same := Cursor.eq_moveTo_of_source_eq (Cursor.source_slice sliced)
          exact ⟨reached.position, congrArg session.withCursor same⟩
      · exact ⟨session.cursor.position, rfl⟩

/-- A command that is no input and takes no checkpoint moves the cursor, if it does anything. -/
theorem exists_withCursor_of_execute (noInput : command.isInput = false)
    (noCheckpoint : ∀ name, command ≠ .checkpoint name) :
    ∃ place, (session.execute command).2 = session.withCursor (session.cursor.moveTo place) := by
  cases command with
  | input text => cases noInput
  | checkpoint name => exact absurd rfl (noCheckpoint name)
  | rollback name => exact session.exists_withCursor_of_rollback name
  | slice length? => exact session.exists_withCursor_of_slice length?
  | getUntil target =>
      have same := Cursor.eq_moveTo_of_source_eq (session.cursor.source_getUntil target)
      exact ⟨_, congrArg session.withCursor same⟩
  | jumpTo target =>
      have same := Cursor.eq_moveTo_of_source_eq (session.cursor.source_jumpTo target)
      exact ⟨_, congrArg session.withCursor same⟩
  | consume targets =>
      have same := Cursor.eq_moveTo_of_source_eq (session.cursor.source_consume targets)
      exact ⟨_, congrArg session.withCursor same⟩
  | advance => exact ⟨_, rfl⟩
  | retreat => exact ⟨_, rfl⟩
  | moveBy delta => exact ⟨_, rfl⟩
  | moveTo place => exact ⟨_, rfl⟩
  | current => exact ⟨session.cursor.position, rfl⟩
  | peek => exact ⟨session.cursor.position, rfl⟩
  | position => exact ⟨session.cursor.position, rfl⟩
  | remaining => exact ⟨session.cursor.position, rfl⟩
  | standsHere target => exact ⟨session.cursor.position, rfl⟩
  | standsBefore target => exact ⟨session.cursor.position, rfl⟩
  | standsAfter target => exact ⟨session.cursor.position, rfl⟩
  | distanceTo landmark => exact ⟨session.cursor.position, rfl⟩
  | closest targets => exact ⟨session.cursor.position, rfl⟩

theorem source_execute (noInput : command.isInput = false) :
    (session.execute command).2.cursor.source = session.cursor.source := by
  by_cases checkpoint : ∃ name, command = .checkpoint name
  · rcases checkpoint with ⟨name, rfl⟩
    rfl
  · rcases exists_withCursor_of_execute noInput (not_exists.1 checkpoint) with ⟨place, moved⟩
    rw [moved]
    rfl

/-- One command changes what a name stands for as the history says. -/
theorem get?_execute (session : Session) (command : Command) (name : Text) :
    (session.execute command).2.checkpoints.get? name =
      if command = .checkpoint name then some session.cursor.position
      else if command.isInput then none
      else session.checkpoints.get? name := by
  by_cases checkpoint : ∃ other, command = .checkpoint other
  · rcases checkpoint with ⟨other, rfl⟩
    by_cases same : other = name
    · subst same
      rw [if_pos rfl]
      exact Checkpoints.get?_set_self ..
    · rw [if_neg (by simpa using same), if_neg (by simp [Command.isInput])]
      exact Checkpoints.get?_set_of_ne (Ne.symm same) ..
  · rw [if_neg (not_exists.1 checkpoint name)]
    cases input : command.isInput with
    | true =>
        cases command <;> cases input
        rfl
    | false =>
        rcases exists_withCursor_of_execute input (not_exists.1 checkpoint) with ⟨place, moved⟩
        rw [moved]
        rfl

theorem execute_rollback_of_get? {place : Offset}
    (known : session.checkpoints.get? name = some place) :
    session.execute (.rollback name) =
      (.ok .done, session.withCursor (session.cursor.moveTo place)) := by
  simp only [execute, rollback?, known, Option.map_some]

theorem execute_rollback_of_unknown (unknown : session.checkpoints.get? name = none) :
    session.execute (.rollback name) = (.error (.unknownCheckpoint name), session) := by
  simp only [execute, rollback?, unknown, Option.map_none]

theorem execute_rollback_ok_iff :
    (∃ outcome left, session.execute (.rollback name) = (.ok outcome, left)) ↔
      ∃ place, session.checkpoints.get? name = some place := by
  cases known : session.checkpoints.get? name with
  | none => simp [execute_rollback_of_unknown known]
  | some place => simp [execute_rollback_of_get? known]

/-- After any commands, a name stands for the position at the last checkpoint that counts. -/
theorem get?_after (cursor : Cursor) (history : List Command) (name : Text) (place : Offset) :
    ((⟨cursor, .empty⟩ : Session).after history).checkpoints.get? name = some place ↔
      ∃ before, LastCheckpoint name history before ∧
        place = ((⟨cursor, .empty⟩ : Session).after before).cursor.position := by
  induction history using List.reverseRecOn with
  | nil => simp [after, not_lastCheckpoint_nil]
  | append_singleton history command ih =>
      rw [after_concat, get?_execute]
      simp only [lastCheckpoint_concat]
      by_cases checkpoint : command = .checkpoint name
      · rw [if_pos checkpoint, Option.some.injEq]
        constructor
        · intro here
          exact ⟨history, Or.inl ⟨checkpoint, rfl⟩, here.symm⟩
        · rintro ⟨before, ⟨-, rfl⟩ | ⟨⟨-, differ⟩, -⟩, rfl⟩
          · rfl
          · exact absurd checkpoint differ
      · cases input : command.isInput with
        | true => simp [checkpoint]
        | false => simpa [checkpoint] using ih

/-- Any number of returns to checkpoints leaves the source and all checkpoints as they are. -/
theorem exists_withCursor_of_rollbacks (session : Session) (names : List Text) :
    ∃ place, session.after (names.map .rollback) =
      session.withCursor (session.cursor.moveTo place) := by
  induction names using List.reverseRecOn with
  | nil => exact ⟨session.cursor.position, rfl⟩
  | append_singleton names name ih =>
      rcases ih with ⟨place, reached⟩
      rcases (session.after (names.map .rollback)).exists_withCursor_of_rollback name with
        ⟨last, moved⟩
      rw [List.map_append, List.map_singleton, after_concat, moved, reached]
      exact ⟨last, rfl⟩

/--
A session goes back to a name exactly if its history has a checkpoint of the name with no input
after it, and it goes to the position at the last one. Otherwise nothing happens and the name is
told. Nothing but an input changes the source or forgets a name, and going back changes no name, so
that after any other returns a return is what it was.
-/
theorem rollback_of_history (cursor : Cursor) (history : List Command) (name : Text) :
    let reached := (⟨cursor, .empty⟩ : Session).after history
    ((∃ outcome left, reached.execute (.rollback name) = (.ok outcome, left)) ↔
        Remembered name history) ∧
      (∀ before, LastCheckpoint name history before →
        reached.execute (.rollback name) =
          (.ok .done, reached.withCursor (reached.cursor.moveTo
            ((⟨cursor, .empty⟩ : Session).after before).cursor.position))) ∧
      (¬Remembered name history →
        reached.execute (.rollback name) = (.error (.unknownCheckpoint name), reached)) ∧
      (∀ command : Command, command.isInput = false →
        (reached.execute command).2.cursor.source = reached.cursor.source ∧
          ∀ other, (reached.checkpoints.get? other).isSome →
            ((reached.execute command).2.checkpoints.get? other).isSome) ∧
      ∀ names : List Text,
        (reached.after (names.map .rollback)).checkpoints = reached.checkpoints ∧
          (Remembered name history →
            (reached.after (names.map .rollback)).execute (.rollback name) =
              reached.execute (.rollback name)) := by
  intro reached
  have known := get?_after cursor history name
  refine ⟨?_, ?_, ?_, ?_, ?_⟩
  · rw [execute_rollback_ok_iff, ← exists_lastCheckpoint_iff]
    constructor
    · rintro ⟨place, found⟩
      rcases (known place).1 found with ⟨before, last, -⟩
      exact ⟨before, last⟩
    · rintro ⟨before, last⟩
      exact ⟨_, (known _).2 ⟨before, last, rfl⟩⟩
  · intro before last
    exact execute_rollback_of_get? ((known _).2 ⟨before, last, rfl⟩)
  · intro forgotten
    apply execute_rollback_of_unknown
    rw [Option.eq_none_iff_forall_ne_some]
    intro place found
    rcases (known place).1 found with ⟨before, last, -⟩
    exact forgotten (exists_lastCheckpoint_iff.1 ⟨before, last⟩)
  · intro command noInput
    refine ⟨source_execute noInput, ?_⟩
    intro other remembered
    rw [get?_execute]
    split
    · rfl
    · rwa [noInput, if_neg Bool.false_ne_true]
  · intro names
    rcases reached.exists_withCursor_of_rollbacks names with ⟨place, returned⟩
    rw [returned]
    refine ⟨rfl, ?_⟩
    intro remembered
    rcases exists_lastCheckpoint_iff.2 remembered with ⟨before, last⟩
    have found := (known _).2 ⟨before, last, rfl⟩
    rw [execute_rollback_of_get? found, execute_rollback_of_get? (by exact found)]
    rfl

/-- The later checkpoint of a name counts, and commands that fail after it do not. -/
theorem rollback_of_history_twice :
    let start : Session := ⟨.ofText "lorem".toList, .empty⟩
    let before : List Command := [.moveTo (.clamp 2), .checkpoint ['a'], .advance]
    let history := before ++
      [.checkpoint ['a'], .rollback ['b'], .slice (some (.clamp (-1))), .moveTo (.clamp 9)]
    LastCheckpoint ['a'] history before ∧
      (start.after history).execute (.rollback ['a']) =
        (.ok .done, (start.after history).withCursor
          ((start.after history).cursor.moveTo (.clamp 3))) := by
  intro start before history
  have last : LastCheckpoint ['a'] history before := ⟨_, rfl, by decide⟩
  rcases rollback_of_history (.ofText "lorem".toList) history ['a'] with ⟨-, restores, -⟩
  exact ⟨last, restores before last⟩

end Session

end TextCursor

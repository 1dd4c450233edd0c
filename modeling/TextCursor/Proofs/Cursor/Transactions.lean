import TextCursor.Operation
import TextCursor.Proofs.Cursor.Conservation

/-!
# Transactions

Operations nest, and what is undone may have been done at any depth: a checkpoint that was taken
inside a speculation is still known after it, and a speculation may go back to a checkpoint from
before it. `Operation.visits` lists everything that a tree of operations does, in order and at every
depth, with the session at which each operation begins. No operation changes the source, and at
every visit a name stands for the position at the last visited checkpoint of that name. A position
in an unchanged source is a whole cursor, so what goes back to it undoes all that can be seen.
-/

namespace TextCursor

namespace Cursor

variable {cursor other : Cursor}

theorem moveTo_position (same : other.source = cursor.source) :
    other.moveTo cursor.position = cursor :=
  Cursor.ext same rfl

end Cursor

namespace Operation

/-- An operation with the session that it is run on. -/
abbrev Visit := Operation × Session

mutual

/-- All that is done by an operation, itself and what is inside of it, in order. -/
def visits (operation : Operation) (session : Session) : List Visit :=
  (operation, session) ::
    match operation with
    | speculate body _ => visitsAll body session
    | fork body => visitsAll body session
    | _ => []

/-- All that is done by operations one after the other. -/
def visitsAll (operations : List Operation) (session : Session) : List Visit :=
  match operations with
  | [] => []
  | operation :: rest => visits operation session ++ visitsAll rest (run operation session).2

end

/-- What is done by the body of an operation, if it has one. -/
def inside (session : Session) : Operation → List Visit
  | speculate body _ => visitsAll body session
  | fork body => visitsAll body session
  | _ => []

/-- The position at which a name was given, if that is what is done. -/
def captured? (name : Text) : Visit → Option Offset
  | (checkpoint other, session) => if other = name then some session.cursor.position else none
  | _ => none

/-- The position at which a name was given last. -/
def lastCaptured? (name : Text) (history : List Visit) : Option Offset :=
  history.reverse.findSome? (captured? name)

/-- Whether an operation has no body and takes no checkpoint. -/
def isPlain : Operation → Bool
  | checkpoint _ => false
  | speculate _ _ => false
  | fork _ => false
  | _ => true

variable {operation : Operation} {operations : List Operation} {session here : Session}
  {name : Text}

theorem lastCaptured?_append (name : Text) (first second : List Visit) :
    lastCaptured? name (first ++ second) =
      (lastCaptured? name second).or (lastCaptured? name first) := by
  rw [lastCaptured?, List.reverse_append, List.findSome?_append]
  rfl

theorem lastCaptured?_cons (name : Text) (visit : Visit) (rest : List Visit) :
    lastCaptured? name (visit :: rest) =
      (lastCaptured? name rest).or (captured? name visit) := by
  rw [← List.singleton_append, lastCaptured?_append]
  simp [lastCaptured?]

theorem lastCaptured?_eq_none {history : List Visit}
    (absent : ∀ visit ∈ history, visit.1 ≠ checkpoint name) :
    lastCaptured? name history = none := by
  rw [lastCaptured?, List.findSome?_eq_none_iff]
  intro visit mem
  have differs := absent visit (List.mem_reverse.1 mem)
  rcases visit with ⟨operation, session⟩
  cases operation with
  | checkpoint other =>
      rw [captured?, if_neg]
      rintro rfl
      exact differs rfl
  | _ => rfl

theorem visits_eq (operation : Operation) (session : Session) :
    visits operation session = (operation, session) :: inside session operation := by
  cases operation <;> rfl

theorem visits_of_isPlain (plain : operation.isPlain = true) (session : Session) :
    visits operation session = [(operation, session)] ∧
      ∀ name, captured? name (operation, session) = none := by
  cases operation with
  | checkpoint name => cases plain
  | speculate body commitment => cases plain
  | fork body => cases plain
  | _ => exact ⟨rfl, fun name => rfl⟩

/-- A plain operation moves the cursor, if it does anything. -/
theorem exists_withCursor_of_isPlain (plain : operation.isPlain = true) (session : Session) :
    ∃ place, (run operation session).2 = session.withCursor (session.cursor.moveTo place) := by
  have still : ∃ place, session = session.withCursor (session.cursor.moveTo place) :=
    ⟨session.cursor.position, rfl⟩
  cases operation with
  | checkpoint name => cases plain
  | speculate body commitment => cases plain
  | fork body => cases plain
  | rollback name =>
      simp only [run, Session.rollback?]
      cases session.checkpoints.get? name with
      | none => exact still
      | some place => exact ⟨place, rfl⟩
  | getUntil target =>
      have same := Cursor.eq_moveTo_of_source_eq (session.cursor.source_getUntil target)
      exact ⟨_, congrArg session.withCursor same⟩
  | jumpTo target =>
      have same := Cursor.eq_moveTo_of_source_eq (session.cursor.source_jumpTo target)
      exact ⟨_, congrArg session.withCursor same⟩
  | consume targets =>
      have same := Cursor.eq_moveTo_of_source_eq (session.cursor.source_consume targets)
      exact ⟨_, congrArg session.withCursor same⟩
  | consumeWhile test =>
      have same := Cursor.eq_moveTo_of_source_eq (session.cursor.source_consumeWhile test.step 0)
      exact ⟨_, congrArg session.withCursor same⟩
  | slice extent =>
      simp only [run]
      split
      · next content moved sliced =>
          have same := Cursor.eq_moveTo_of_source_eq (Cursor.source_slice sliced)
          exact ⟨moved.position, congrArg session.withCursor same⟩
      · exact still
  | advance => exact ⟨_, rfl⟩
  | retreat => exact ⟨_, rfl⟩
  | sliceToEnd => exact ⟨_, rfl⟩
  | moveBy delta => exact ⟨_, rfl⟩
  | moveTo place => exact ⟨_, rfl⟩
  | _ => exact still

/-- Whether a session has the source of another one, and has learnt the names of a history. -/
structure Follows (here session : Session) (history : List Visit) : Prop where
  source_eq : here.cursor.source = session.cursor.source
  get?_eq : ∀ name, here.checkpoints.get? name =
    (lastCaptured? name history).or (session.checkpoints.get? name)

theorem follows_nil (session : Session) : Follows session session [] := ⟨rfl, fun _ => rfl⟩

theorem Follows.append {next : Session} {first second : List Visit}
    (begins : Follows next session first) (goesOn : Follows here next second) :
    Follows here session (first ++ second) where
  source_eq := goesOn.source_eq.trans begins.source_eq
  get?_eq := by
    intro name
    rw [goesOn.get?_eq, begins.get?_eq, lastCaptured?_append, Option.or_assoc]

/-- What opens a body takes no checkpoint by itself. -/
theorem Follows.cons {visit : Visit} {history : List Visit}
    (none : ∀ name, captured? name visit = none) (follows : Follows here session history) :
    Follows here session (visit :: history) where
  source_eq := follows.source_eq
  get?_eq := by
    intro name
    rw [follows.get?_eq, lastCaptured?_cons, none name, Option.or_none]

theorem Follows.withCursor {history : List Visit} (follows : Follows here session history)
    {cursor : Cursor} (same : cursor.source = session.cursor.source) :
    Follows (here.withCursor cursor) session history :=
  ⟨same, follows.get?_eq⟩

theorem follows_checkpoint (session : Session) (name : Text) :
    Follows (session.checkpoint name) session [(checkpoint name, session)] where
  source_eq := rfl
  get?_eq := by
    intro other
    rw [lastCaptured?_cons]
    by_cases same : name = other
    · subst same
      simp [captured?, lastCaptured?, Session.checkpoint]
    · simp [captured?, lastCaptured?, Session.checkpoint, same,
        Checkpoints.get?_set_of_ne (Ne.symm same)]

mutual

/-- An operation leaves the source as it is, and the names that were given while it was done. -/
theorem follows_run (operation : Operation) (session : Session) :
    Follows (run operation session).2 session (visits operation session) := by
  by_cases plain : operation.isPlain = true
  · rcases visits_of_isPlain plain session with ⟨visited, none⟩
    rcases exists_withCursor_of_isPlain plain session with ⟨place, moved⟩
    rw [visited, moved]
    exact ((follows_nil session).cons none).withCursor rfl
  · cases operation with
    | checkpoint name => exact follows_checkpoint session name
    | speculate body commitment =>
        have inside := follows_runAll body session
        simp only [run, visits]
        split
        · exact inside.cons fun name => rfl
        · exact (inside.cons fun name => rfl).withCursor inside.source_eq
    | fork body =>
        have inside := follows_runAll body session
        exact (inside.cons fun name => rfl).withCursor rfl
    | _ => exact absurd rfl plain

theorem follows_runAll (operations : List Operation) (session : Session) :
    Follows (runAll operations session).2 session (visitsAll operations session) := by
  cases operations with
  | nil => exact follows_nil session
  | cons operation rest =>
      have first := follows_run operation session
      exact first.append (follows_runAll rest (run operation session).2)

end

mutual

/-- All that is done inside an operation begins at a session that follows what was done before. -/
theorem follows_visit (operation : Operation) {session : Session} {before after : List Visit}
    {visit : Visit} (split : visits operation session = before ++ visit :: after) :
    Follows visit.2 session before := by
  cases before with
  | nil =>
      rw [visits_eq, List.nil_append, List.cons.injEq] at split
      rw [← split.1]
      exact follows_nil session
  | cons first rest =>
      rw [visits_eq, List.cons_append, List.cons.injEq] at split
      rcases split with ⟨rfl, deeper⟩
      cases operation with
      | speculate body commitment =>
          exact (follows_visitsAll body deeper).cons fun name => rfl
      | fork body => exact (follows_visitsAll body deeper).cons fun name => rfl
      | _ => simp [inside] at deeper

theorem follows_visitsAll (operations : List Operation) {session : Session}
    {before after : List Visit} {visit : Visit}
    (split : visitsAll operations session = before ++ visit :: after) :
    Follows visit.2 session before := by
  cases operations with
  | nil => simp [visitsAll] at split
  | cons operation rest =>
      have first := follows_run operation session
      rw [visitsAll] at split
      rcases List.append_eq_append_iff.1 split with ⟨between, rfl, later⟩ | ⟨within, earlier, later⟩
      · exact first.append (follows_visitsAll rest later)
      · cases within with
        | nil =>
            rw [List.append_nil] at earlier
            rw [← earlier, ← List.append_nil (visits operation session)]
            exact first.append (follows_visitsAll rest later.symm)
        | cons other more =>
            rw [List.cons_append, List.cons.injEq] at later
            rcases later with ⟨rfl, -⟩
            exact follows_visit operation earlier

end

theorem source_of_mem_visitsAll {visit : Visit} (mem : visit ∈ visitsAll operations session) :
    visit.2.cursor.source = session.cursor.source := by
  rcases List.append_of_mem mem with ⟨before, after, split⟩
  exact (follows_visitsAll operations split).source_eq

/-- Going back to a name gives the cursor back that the last checkpoint of the name was taken on. -/
theorem cursor_run_rollback {before between after : List Visit} {captured : Session}
    (split : visitsAll operations session =
      before ++ (checkpoint name, captured) :: (between ++ (rollback name, here) :: after))
    (last : ∀ visit ∈ between, visit.1 ≠ checkpoint name) :
    (run (rollback name) here).2.cursor = captured.cursor := by
  have capture := follows_visitsAll operations split
  rw [← List.cons_append, ← List.append_assoc] at split
  have remembered := follows_visitsAll operations split
  have known : here.checkpoints.get? name = some captured.cursor.position := by
    rw [remembered.get?_eq, lastCaptured?_append, lastCaptured?_cons, lastCaptured?_eq_none last]
    simp [captured?]
  have sameSource : here.cursor.source = captured.cursor.source :=
    remembered.source_eq.trans capture.source_eq.symm
  simp only [run, Session.rollback?, known, Option.map_some, Option.getD_some,
    Session.cursor_withCursor]
  exact Cursor.moveTo_position sameSource

theorem run_speculate_of_kept {body : List Operation} {commitment : Commitment}
    (kept : commitment.keeps (runAll body session).1 = true) :
    run (speculate body commitment) session =
      (.speculation true (runAll body session).1, (runAll body session).2) := by
  simp only [run, kept, if_true]

/-- A speculation that is not kept leaves the cursor that it was begun on. -/
theorem cursor_run_speculate_of_dropped {body : List Operation} {commitment : Commitment}
    (dropped : commitment.keeps (runAll body session).1 = false) :
    (run (speculate body commitment) session).2.cursor = session.cursor := by
  simp only [run, dropped, if_false, Bool.false_eq_true, Session.cursor_withCursor]
  exact Cursor.moveTo_position (follows_runAll body session).source_eq

theorem takeWhileFrom_first (count seen : Nat) (text : Text) :
    (Text.takeWhileFrom (CharacterTest.first count).step seen text).1 =
      text.take (count - seen) := by
  induction text generalizing seen with
  | nil => simp [Text.takeWhileFrom]
  | cons c rest ih =>
      by_cases more : seen < count
      · have next : count - seen = count - (seen + 1) + 1 := by omega
        simp only [Text.takeWhileFrom, CharacterTest.step, CharacterTest.accepts, more,
          decide_true, ih, next, List.take_succ_cons]
      · have none : count - seen = 0 := by omega
        simp [Text.takeWhileFrom, CharacterTest.step, CharacterTest.accepts, more, none]

/-- A test shows in the number of characters it accepts, so every test is one of an operation. -/
theorem exists_run_consumeWhile {State : Type} (accept : State → Char → Bool × State)
    (state : State) (cursor : Cursor) :
    ∃ test, ∀ session : Session, session.cursor = cursor →
      run (consumeWhile test) session =
        (.text (cursor.consumeWhile accept state).1,
          session.withCursor (cursor.consumeWhile accept state).2.2) := by
  have leads := Text.takeWhileFrom_prefix accept state cursor.ahead
  refine ⟨.first (Text.takeWhileFrom accept state cursor.ahead).1.length, ?_⟩
  rintro session rfl
  have taken := takeWhileFrom_first
    (Text.takeWhileFrom accept state session.cursor.ahead).1.length 0 session.cursor.ahead
  rw [Nat.sub_zero, ← List.prefix_iff_eq_take.1 leads] at taken
  simp only [run, Cursor.consumeWhile, taken]

/--
Whatever operations do, at any depth, the source stays. A return to a name gives the cursor back
that the last checkpoint of the name was taken on, wherever that was. A speculation that is dropped
leaves the cursor that it was begun on, and one that is kept leaves what its body alone would leave.
Tests of characters are no restriction: some operation does what any test with a memory does.
-/
theorem run_undoes (operations : List Operation) (session : Session) :
    ((runAll operations session).2.cursor.source = session.cursor.source ∧
        ∀ visit ∈ visitsAll operations session,
          visit.2.cursor.source = session.cursor.source ∧
            (run visit.1 visit.2).2.cursor.source = session.cursor.source) ∧
      (∀ name before between after captured here,
        visitsAll operations session =
            before ++ (checkpoint name, captured) :: (between ++ (rollback name, here) :: after) →
          (∀ visit ∈ between, visit.1 ≠ checkpoint name) →
            (run (rollback name) here).2.cursor = captured.cursor) ∧
      (∀ body commitment here,
        (commitment.keeps (runAll body here).1 = false →
            (run (speculate body commitment) here).2.cursor = here.cursor) ∧
          (commitment.keeps (runAll body here).1 = true →
            (run (speculate body commitment) here).2 = (runAll body here).2)) ∧
      ∀ (State : Type) (accept : State → Char → Bool × State) (state : State) (cursor : Cursor),
        ∃ test, ∀ here : Session, here.cursor = cursor →
          run (consumeWhile test) here =
            (.text (cursor.consumeWhile accept state).1,
              here.withCursor (cursor.consumeWhile accept state).2.2) := by
  refine ⟨⟨(follows_runAll operations session).source_eq, ?_⟩, ?_, ?_, ?_⟩
  · intro visit mem
    have source := source_of_mem_visitsAll mem
    exact ⟨source, (follows_run visit.1 visit.2).source_eq.trans source⟩
  · intro name before between after captured here split last
    exact cursor_run_rollback split last
  · intro body commitment here
    refine ⟨cursor_run_speculate_of_dropped, ?_⟩
    intro kept
    rw [run_speculate_of_kept kept]
  · intro State accept state cursor
    exact exists_run_consumeWhile accept state cursor

/-- A checkpoint that was taken in a dropped speculation is returned to in it and after it. -/
theorem run_undoes_nested :
    let start := (Session.ofText "abc".toList).withCursor
      ((Cursor.ofText "abc".toList).moveTo (.clamp 1))
    let noted := start.checkpoint ['a']
    let missed := noted.withCursor (noted.cursor.moveTo (.clamp (-1)))
    let far := noted.withCursor (noted.cursor.moveTo (.clamp 9))
    let retried := speculate [rollback ['a'], advance] .onSuccess
    let tried := speculate [checkpoint ['a'], jumpTo ['z'], retried] .never
    let operations := [tried, moveTo (.clamp 9), rollback ['a']]
    visitsAll operations start =
        [(tried, start)] ++ (checkpoint ['a'], start) ::
          ([(jumpTo ['z'], noted), (retried, missed), (rollback ['a'], missed), (advance, noted),
            (moveTo (.clamp 9), noted)] ++ (rollback ['a'], far) :: []) ∧
      (run (rollback ['a']) far).2.cursor = start.cursor ∧
      (run tried start).2.cursor = start.cursor ∧
      (run retried missed).2 = (runAll [rollback ['a'], advance] missed).2 := by
  intro start noted missed far retried tried operations
  have visited : visitsAll operations start =
      [(tried, start)] ++ (checkpoint ['a'], start) ::
        ([(jumpTo ['z'], noted), (retried, missed), (rollback ['a'], missed), (advance, noted),
          (moveTo (.clamp 9), noted)] ++ (rollback ['a'], far) :: []) := rfl
  rcases run_undoes operations start with ⟨-, returns, speculates, -⟩
  refine ⟨visited, returns _ _ _ _ _ _ visited ?_, ?_, ?_⟩
  · simp [retried]
  · exact (speculates [checkpoint ['a'], jumpTo ['z'], retried] .never start).1 rfl
  · exact (speculates [rollback ['a'], advance] .onSuccess missed).2 rfl

end Operation

end TextCursor

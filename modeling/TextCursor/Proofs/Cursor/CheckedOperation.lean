import Mathlib.Data.List.Find
import TextCursor.Operation
import TextCursor.Proofs.Cursor.CheckedCursor

/-!
# Checked operations

Two operations of a cursor are loops, and the texts that they return are taken from the source after
the loop has moved. Each turn gets the cursor nearer to the end, which is why there is a last one,
and no turn moves it beyond the end, which is why its position can always be raised. With this the
whole of `Operation.run` is done in checked steps, to any depth, and none of them fails.
-/

namespace TextCursor

namespace Cursor

variable {cursor : Cursor} {text : Text}

theorem skip_skip (cursor : Cursor) (first second : Text) :
    ((cursor.skip first).2.skip second).2 = (cursor.skip (first ++ second)).2 := by
  have sum : (cursor.position.forward first.length).forward second.length =
      cursor.position.forward (first ++ second).length := by
    have least := cursor.position.least_le
    apply Offset.ext
    simp only [Offset.value_forward, List.length_append]
    omega
  simp only [skip, moveTo, sum]

theorem moveBy_clamp {count : Nat} (fits : count < 9223372036854775808) (cursor : Cursor) :
    cursor.moveBy (.clamp count) = cursor.moveTo (cursor.position.forward count) := by
  have sum : cursor.position + .clamp count = cursor.position.forward count := by
    apply Offset.ext
    rw [Offset.value_add, Offset.value_forward, Offset.value_clamp_natCast fits]
  rw [moveBy, sum]

theorem current_eq_head? (cursor : Cursor) : cursor.current = cursor.ahead.head? := by
  rw [current, charAt?, ahead]
  cases cursor.position.toNat? with
  | none => rfl
  | some index => exact List.head?_drop.symm

theorem standsHere_iff_leads (nonempty : text ≠ []) :
    cursor.standsHere text = true ↔ text <+: cursor.ahead := by
  rw [standsHere_iff]
  constructor
  · intro stands
    rcases id stands with empty | ⟨atLeast, -, -⟩
    · exact absurd empty nonempty
    · have number : cursor.position.toNat? = some cursor.position.value.toNat :=
        Offset.toNat?_eq_some_iff.2 (Int.toNat_of_nonneg atLeast)
      rw [← Int.toNat_of_nonneg atLeast, Text.standsAt_natCast_iff] at stands
      rwa [ahead, number]
  · intro leads
    rcases exists_index_of_leads nonempty leads with ⟨index, place, -, leadsThere⟩
    rw [← place, Text.standsAt_natCast_iff]
    exact leadsThere

/-- A cursor looks for the first target by comparing windows. -/
theorem leading?_ahead (cursor : Cursor) (targets : List Text) :
    Text.leading? targets cursor.ahead =
      targets.find? fun target => !target.isEmpty && cursor.standsHere target := by
  apply List.find?_congr
  intro target _
  by_cases empty : target = []
  · simp [empty]
  · have stands : target.isPrefixOf cursor.ahead = cursor.standsHere target := by
      rw [Bool.eq_iff_iff, standsHere_iff_leads empty, List.isPrefixOf_iff_prefix]
    rw [stands]

/-- What leads a cursor lies before the end, and skipping it is an exact move. -/
theorem value_position_skip (leads : text <+: cursor.ahead) :
    (cursor.skip text).2.position.value = cursor.position.value + text.length ∧
      (text ≠ [] → cursor.position.value + text.length ≤ cursor.length) := by
  by_cases empty : text = []
  · subst empty
    rw [skip_nil]
    simp
  · rcases exists_index_of_leads empty leads with ⟨index, place, inside, -⟩
    have fits := cursor.length_lt
    rw [skip, position_moveTo, Offset.value_forward]
    constructor
    · omega
    · intro _
      omega

theorem toGo_skip_lt (nonempty : text ≠ []) (leads : text <+: cursor.ahead) :
    (cursor.skip text).2.toGo < cursor.toGo := by
  have positive := List.length_pos_iff.2 nonempty
  rcases value_position_skip leads with ⟨moved, inside⟩
  have atMost := inside nonempty
  have sameLength : (cursor.skip text).2.length = cursor.length := rfl
  rw [toGo, toGo, moved, sameLength]
  omega

theorem ahead_skip {rest : Text} (split : cursor.ahead = text ++ rest) :
    (cursor.skip text).2.ahead = rest := by
  by_cases empty : text = []
  · subst empty
    rw [skip_nil]
    exact split
  · have leads : text <+: cursor.ahead := ⟨rest, split.symm⟩
    rcases exists_index_of_leads empty leads with ⟨index, place, -, -⟩
    have here : cursor.position.toNat? = some index := Offset.toNat?_eq_some_iff.2 place
    have there : (cursor.skip text).2.position.toNat? = some (index + text.length) := by
      rw [Offset.toNat?_eq_some_iff, (value_position_skip leads).1]
      omega
    have source : (cursor.skip text).2.source = cursor.source := rfl
    rw [ahead, here] at split
    rw [ahead, there, source]
    dsimp only at split ⊢
    rw [← List.drop_drop, split, List.drop_left]

end Cursor

namespace Checked

theorem leading?_eq (cursor : Cursor) (targets : List Text) :
    leading? cursor targets = .ok (Text.leading? targets cursor.ahead) := by
  have each : (fun target : Text => do
      if target.isEmpty then return false else standsHere cursor target) =
        fun target =>
          (pure (!target.isEmpty && cursor.standsHere target) : Checked Bool) := by
    funext target
    cases target <;> simp
  rw [leading?, each, List.findM?_pure, Cursor.leading?_ahead]
  rfl

theorem passTargets_eq (targets : List Text) (text : Text) {cursor : Cursor}
    (same : cursor.ahead = text) :
    passTargets cursor targets = .ok (cursor.skip (Text.repeats targets text)).2 := by
  fun_induction Text.repeats targets text generalizing cursor with
  | case1 text missed =>
      rw [passTargets, leading?_eq, same, missed, Cursor.skip_nil]
      rfl
  | case2 text target found shorter ih =>
      rcases Text.leads_of_leading? found with ⟨nonempty, leads⟩
      rcases id leads with ⟨rest, split⟩
      rw [← same] at leads
      rcases Cursor.exists_index_of_leads nonempty leads with ⟨index, -, inside, -⟩
      have fits := cursor.length_lt
      have moved : cursor.moveBy (.clamp target.length) = (cursor.skip target).2 :=
        Cursor.moveBy_clamp (by omega) cursor
      have left : (cursor.skip target).2.ahead = text.drop target.length := by
        rw [← split, List.drop_left]
        exact Cursor.ahead_skip (same.trans split.symm)
      rw [passTargets, leading?_eq, same, found, ok_bind]
      dsimp only
      rw [offset_eq (by omega), ok_bind, moved, if_pos (Cursor.toGo_skip_lt nonempty leads),
        ih left, Cursor.skip_skip]

theorem passWhile_eq {State : Type} (accept : State → Char → Bool × State) (state : State)
    (text : Text) {cursor : Cursor} (same : cursor.ahead = text) :
    passWhile cursor accept state =
      .ok ((Text.takeWhileFrom accept state text).2,
        (cursor.skip (Text.takeWhileFrom accept state text).1).2) := by
  induction text generalizing cursor state with
  | nil =>
      rw [passWhile, Cursor.current_eq_head?, same, Text.takeWhileFrom, Cursor.skip_nil]
      rfl
  | cons c rest ih =>
      have leads : [c] <+: cursor.ahead := ⟨rest, same.symm⟩
      rcases Cursor.exists_index_of_leads (List.cons_ne_nil c []) leads with
        ⟨index, place, inside, -⟩
      have fits := cursor.length_lt
      rw [List.length_singleton] at inside
      rw [passWhile, Cursor.current_eq_head?, same, List.head?_cons, Text.takeWhileFrom]
      dsimp only
      rcases accept state c with ⟨accepted, following⟩
      cases accepted with
      | false =>
          rw [Cursor.skip_nil]
          rfl
      | true =>
          have nearer := Cursor.toGo_skip_lt (List.cons_ne_nil c []) leads
          dsimp only
          rw [next_eq (by omega), ok_bind]
          -- Moving by one is skipping the character under the cursor.
          change (if (cursor.skip [c]).2.toGo < cursor.toGo then
            passWhile (cursor.skip [c]).2 accept following else .error .standstill) = _
          rw [if_pos nearer, ih following (Cursor.ahead_skip same), Cursor.skip_skip,
            List.singleton_append]

/-- What was skipped is what lies between the places before and after it. -/
theorem between_skip {cursor : Cursor} {text : Text} (leads : text <+: cursor.ahead) :
    between cursor cursor.position (cursor.skip text).2.position = .ok text := by
  have reads := Cursor.reads_skip leads
  rcases Cursor.value_position_skip leads with ⟨moved, inside⟩
  have fits := cursor.length_lt
  have size : (text.length : Int) < 9223372036854775808 := by
    by_cases empty : text = []
    · simp [empty]
    · rcases Cursor.exists_index_of_leads empty leads with ⟨index, -, atMost, -⟩
      omega
  rw [between_eq cursor (by omega) (by omega)]
  exact congrArg _ reads.content_eq.symm

@[simp]
theorem consume_eq (cursor : Cursor) (targets : List Text) :
    consume cursor targets = .ok (cursor.consume targets) := by
  rw [consume, passTargets_eq targets cursor.ahead rfl, ok_bind,
    between_skip (Text.repeats_prefix targets cursor.ahead)]
  rfl

@[simp]
theorem consumeWhile_eq {State : Type} (cursor : Cursor) (accept : State → Char → Bool × State)
    (state : State) :
    consumeWhile cursor accept state = .ok (cursor.consumeWhile accept state) := by
  rw [consumeWhile, passWhile_eq accept state cursor.ahead rfl, ok_bind]
  dsimp only
  rw [between_skip (Text.takeWhileFrom_prefix accept state cursor.ahead)]
  rfl

end Checked

namespace Operation

mutual

/-- Does an operation in checked steps. -/
def checked (operation : Operation) (session : Session) : Checked (Answer × Session) :=
  let cursor := session.cursor
  match operation with
  | current => return (.character cursor.current, session)
  | advance => return landing session cursor.advance
  | retreat => return landing session cursor.retreat
  | peek => return (.character cursor.peek, session)
  | position => return (.offset cursor.position, session)
  | length => return (.count cursor.length, session)
  | isEmpty => return (.flag cursor.source.isEmpty, session)
  | atEnd => return (.flag (← Checked.atEnd cursor), session)
  | remaining => return (.text (← Checked.remaining cursor), session)
  | source => return (.characters cursor.source, session)
  | standsHere target => return (.flag (← Checked.standsHere cursor target), session)
  | standsBefore target => return (.flag (← Checked.standsBefore cursor target), session)
  | standsAfter target => return (.flag (← Checked.standsAfter cursor target), session)
  | distanceTo landmark => return (.distance (← Checked.distanceTo cursor landmark), session)
  | closest targets => return (.ranking (← Checked.closest cursor targets), session)
  | checkpoint name => return (.offset cursor.position, session.checkpoint name)
  | rollback name => return (.nothing, (session.rollback? name).getD session)
  | speculate body commitment => do
      let (records, reached) ← checkedAll body session
      let kept := commitment.keeps records
      let back := reached.withCursor (reached.cursor.moveTo cursor.position)
      return (.speculation kept records, if kept then reached else back)
  | fork body => do
      let (records, reached) ← checkedAll body session
      return (.forked (reached.cursor = cursor) records, reached.withCursor cursor)
  | equals text place => return (.flag (cursor = (Cursor.ofText text).moveTo place), session)
  | getUntil target => do
      let (content?, moved) ← Checked.getUntil cursor target
      return (.textIfAny content?, session.withCursor moved)
  | slice extent => do
      match ← Checked.slice cursor extent with
      | .ok (content, moved) => return (.text content, session.withCursor moved)
      | .error cause => return (.refused cause, session)
  | sliceToEnd => do
      let (content, moved) ← Checked.sliceToEnd cursor
      return (.text content, session.withCursor moved)
  | moveBy delta => return landing session (cursor.moveBy delta)
  | moveTo place => return landing session (cursor.moveTo place)
  | jumpTo target => do
      let (place?, moved) ← Checked.jumpTo cursor target
      return (.index place?, session.withCursor moved)
  | consume targets => do
      let (content, moved) ← Checked.consume cursor targets
      return (.text content, session.withCursor moved)
  | consumeWhile test => do
      let (content, _, moved) ← Checked.consumeWhile cursor test.step 0
      return (.text content, session.withCursor moved)

/-- Does operations one after the other in checked steps. -/
def checkedAll (operations : List Operation) (session : Session) :
    Checked (List (Record Answer) × Session) :=
  match operations with
  | [] => return ([], session)
  | operation :: rest => do
      let (answer, reached) ← checked operation session
      let atEnd ← Checked.atEnd reached.cursor
      let (records, final) ← checkedAll rest reached
      return (⟨answer, reached.cursor.position, atEnd⟩ :: records, final)

end

mutual

/-- No step of an operation fails, and it comes to what it should. -/
theorem checked_eq (operation : Operation) (session : Session) :
    checked operation session = .ok (run operation session) := by
  cases operation with
  | speculate body commitment =>
      rw [checked, checkedAll_eq body session]
      rfl
  | fork body =>
      rw [checked, checkedAll_eq body session]
      rfl
  | slice extent =>
      rw [checked, Checked.slice_eq, run]
      cases session.cursor.slice extent with
      | ok sliced => rfl
      | error cause => rfl
  | _ => simp [checked, run]

theorem checkedAll_eq (operations : List Operation) (session : Session) :
    checkedAll operations session = .ok (runAll operations session) := by
  cases operations with
  | nil => rfl
  | cons operation rest =>
      rw [checkedAll, checked_eq operation session, Checked.ok_bind]
      dsimp only
      rw [Checked.atEnd_eq, Checked.ok_bind, checkedAll_eq rest]
      rfl

end

end Operation

end TextCursor

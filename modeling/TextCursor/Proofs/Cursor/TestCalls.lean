import TextCursor.Proofs.Cursor.CheckedOperation

/-!
# Calls of a test

A test on characters has a state, so its answers depend on what it was asked before, and asking it
once too often would be seen later on. `Cursor.consumeWhile_asks` tells every call that is made when
characters are skipped: one call for each character from the cursor on, in the state that the call
before it left, until the test refuses a character or there is none. A test that keeps a record of
its calls shows that these are all.
-/

namespace TextCursor

/-- A call of a test: the state that the test is in and the character that it is asked about. -/
abbrev Call (State : Type) : Type := State × Char

namespace Text

variable {State : Type} {accept : State → Char → Bool × State} {state next final : State} {c : Char}
  {accepted : List (Call State)} {refused? : Option (Call State)}

/-- The test that answers as another one does and adds each call to a record. -/
def recording (accept : State → Char → Bool × State) (memory : State × List (Call State))
    (c : Char) : Bool × (State × List (Call State)) :=
  let (answer, next) := accept memory.1 c
  (answer, next, memory.2 ++ [(memory.1, c)])

/--
Whether a test that is called with the given state accepts some characters, possibly refuses one
more and is left in the final state.
-/
structure Answers (accept : State → Char → Bool × State) (state : State)
    (accepted : List (Call State)) (refused? : Option (Call State)) (final : State) : Prop where
  /-- Every call is made in the state that the call before it left. -/
  threaded : (accepted ++ refused?.toList).map Prod.fst ++ [final] =
    state :: (accepted ++ refused?.toList).map fun call => (accept call.1 call.2).2
  accepts : ∀ call ∈ accepted, (accept call.1 call.2).1 = true
  refuses : ∀ call ∈ refused?, (accept call.1 call.2).1 = false

theorem answers_nothing : Answers accept state [] none state where
  threaded := rfl
  accepts := by simp
  refuses := by simp

theorem answers_refused (answer : accept state c = (false, next)) :
    Answers accept state [] (some (state, c)) next where
  threaded := by simp [answer]
  accepts := by simp
  refuses := by simp [answer]

theorem Answers.cons (answer : accept state c = (true, next))
    (answers : Answers accept next accepted refused? final) :
    Answers accept state ((state, c) :: accepted) refused? final where
  threaded := by
    rw [List.cons_append, List.map_cons, List.map_cons, List.cons_append, answers.threaded, answer]
  accepts := by
    simpa [answer] using answers.accepts
  refuses := answers.refuses

theorem Answers.eq_of_nothing (answers : Answers accept state [] none final) : final = state := by
  have finished := answers.threaded
  simp only [Option.toList_none, List.append_nil, List.map_nil, List.nil_append, List.cons.injEq,
    and_true] at finished
  exact finished

/-- The calls that are made on a text: the characters of the text are asked about from its start. -/
theorem exists_answers (accept : State → Char → Bool × State) (state : State) (text : Text) :
    ∃ (accepted : List (Call State)) (refused? : Option (Call State)) (final : State),
      Answers accept state accepted refused? final ∧
      takeWhileFrom accept state text = (accepted.map Prod.snd, final) ∧
      (∀ record, takeWhileFrom (recording accept) (state, record) text =
        (accepted.map Prod.snd, final, record ++ (accepted ++ refused?.toList))) ∧
      (accepted ++ refused?.toList).map Prod.snd <+: text ∧
      (refused? = none → accepted.map Prod.snd = text) := by
  induction text generalizing state with
  | nil => exact ⟨[], none, state, answers_nothing, by simp [takeWhileFrom]⟩
  | cons c rest ih =>
      cases answer : accept state c with
      | mk answered next =>
          cases answered with
          | false =>
              refine ⟨[], some (state, c), next, answers_refused answer, ?_⟩
              simp [takeWhileFrom, recording, answer]
          | true =>
              rcases ih next with
                ⟨accepted, refused?, final, answers, taken, recorded, leads, whole⟩
              refine ⟨(state, c) :: accepted, refused?, final, answers.cons answer, ?_, ?_, ?_, ?_⟩
              · rw [takeWhileFrom, answer]
                dsimp only
                rw [taken]
                rfl
              · intro record
                rw [takeWhileFrom, recording, answer]
                dsimp only
                rw [recorded]
                simp
              · exact (List.prefix_cons_inj c).2 leads
              · intro unrefused
                rw [List.map_cons, whole unrefused]

end Text

namespace Cursor

variable {cursor : Cursor} {State : Type} {accepted calls : List (Call State)} {call : Call State}

theorem ahead_of_outside
    (outside : cursor.position.value < 0 ∨ cursor.length ≤ cursor.position.value) :
    cursor.ahead = [] := by
  rw [ahead]
  cases counted : cursor.position.toNat? with
  | none => rfl
  | some index =>
      have value := Offset.toNat?_eq_some_iff.1 counted
      apply List.drop_of_length_le
      rw [length] at outside
      omega

theorem ahead_of_place {index : Nat} (place : (index : Int) = cursor.position.value) :
    cursor.ahead = cursor.source.drop index := by
  rw [ahead, Offset.toNat?_eq_some_iff.2 place]

/-- What is ahead of a cursor are the characters of the source from the cursor on. -/
theorem exists_place_of_getElem?_ahead {turn : Nat} {c : Char}
    (found : cursor.ahead[turn]? = some c) :
    ∃ place : Nat, (place : Int) = cursor.position.value + turn ∧
      cursor.source[place]? = some c := by
  by_cases before : cursor.position.value < 0
  · rw [ahead_of_outside (.inl before)] at found
    cases found
  · have place : (cursor.position.value.toNat : Int) = cursor.position.value := by omega
    rw [ahead_of_place place, List.getElem?_drop] at found
    exact ⟨cursor.position.value.toNat + turn, by omega, found⟩

theorem getElem?_source_after_ahead {place : Nat}
    (after : (place : Int) = cursor.position.value + cursor.ahead.length) :
    cursor.source[place]? = none := by
  rw [List.getElem?_eq_none_iff]
  by_cases before : cursor.position.value < 0
  · rw [ahead_of_outside (.inl before)] at after
    simp only [List.length_nil] at after
    omega
  · have here : (cursor.position.value.toNat : Int) = cursor.position.value := by omega
    rw [ahead_of_place here, List.length_drop] at after
    omega

/-- A cursor that has skipped everything that was ahead is at the end. -/
theorem position_skip_ahead (nonempty : cursor.ahead ≠ []) :
    (cursor.skip cursor.ahead).2.position = cursor.stop := by
  have leads := List.prefix_refl cursor.ahead
  rcases exists_index_of_leads nonempty leads with ⟨index, place, inside, -⟩
  have size : cursor.ahead.length = cursor.length - index := by
    rw [ahead_of_place place, List.length_drop, length]
  apply Offset.ext
  rw [(value_position_skip leads).1]
  simp only [stop]
  omega

theorem exists_place_of_called {turn : Nat} (leads : calls.map Prod.snd <+: cursor.ahead)
    (called : calls[turn]? = some call) :
    ∃ place : Nat, (place : Int) = cursor.position.value + turn ∧
      cursor.source[place]? = some call.2 := by
  have asked : (calls.map Prod.snd)[turn]? = some call.2 := by
    rw [List.getElem?_map, called]
    rfl
  rcases List.getElem?_eq_some_iff.1 asked with ⟨inside, -⟩
  rcases leads with ⟨rest, split⟩
  apply exists_place_of_getElem?_ahead
  rw [← split, List.getElem?_append_left inside]
  exact asked

/-- A cursor that has skipped the accepted characters is on the one that is refused. -/
theorem current_skip_of_refused (leads : (accepted ++ [call]).map Prod.snd <+: cursor.ahead) :
    (cursor.skip (accepted.map Prod.snd)).2.current = some call.2 := by
  rcases leads with ⟨rest, split⟩
  rw [List.map_append, List.append_assoc] at split
  rw [current_eq_head?, ahead_skip split.symm]
  rfl

/--
Characters are skipped by calls of the test: there is one for each character from the cursor on, as
long as the test accepts, and one for the character that it refuses, if it comes to that. They are
made in order, each one in the state that the call before it left, and a record that the test keeps
has no others. The accepted characters are returned, and the cursor moves past them, so it ends on
the refused one or at the end. Outside the source the test is not called and nothing changes.
-/
theorem consumeWhile_asks {State : Type} (cursor : Cursor)
    (accept : State → Char → Bool × State) (state : State) :
    ∃ (accepted : List (Call State)) (refused? : Option (Call State)) (final : State)
        (moved : Cursor),
      cursor.consumeWhile accept state = (accepted.map Prod.snd, final, moved) ∧
      cursor.consumeWhile (Text.recording accept) (state, []) =
        (accepted.map Prod.snd, (final, accepted ++ refused?.toList), moved) ∧
      Checked.consumeWhile cursor accept state = .ok (accepted.map Prod.snd, final, moved) ∧
      Text.Answers accept state accepted refused? final ∧
      (∀ (turn : Nat) (call : Call State), (accepted ++ refused?.toList)[turn]? = some call →
        ∃ place : Nat, (place : Int) = cursor.position.value + turn ∧
          cursor.source[place]? = some call.2) ∧
      (refused? = none → ∀ place : Nat,
        (place : Int) = cursor.position.value + accepted.length → cursor.source[place]? = none) ∧
      moved.source = cursor.source ∧
      moved.position.value = cursor.position.value + accepted.length ∧
      (∀ call ∈ refused?, moved.current = some call.2) ∧
      (accepted ≠ [] → refused? = none → moved.position = cursor.stop) ∧
      (cursor.position.value < 0 ∨ cursor.length ≤ cursor.position.value →
        accepted = [] ∧ refused? = none ∧ final = state ∧ moved = cursor) := by
  rcases Text.exists_answers accept state cursor.ahead with
    ⟨accepted, refused?, final, answers, taken, recorded, leads, whole⟩
  have acceptedLeads : accepted.map Prod.snd <+: cursor.ahead := by
    rw [List.map_append] at leads
    exact (List.prefix_append _ _).trans leads
  have consumed : cursor.consumeWhile accept state =
      (accepted.map Prod.snd, final, (cursor.skip (accepted.map Prod.snd)).2) := by
    rw [consumeWhile, taken]
    rfl
  refine ⟨accepted, refused?, final, (cursor.skip (accepted.map Prod.snd)).2, consumed, ?_, ?_,
    answers, ?_, ?_, rfl, ?_, ?_, ?_, ?_⟩
  · rw [consumeWhile, recorded]
    rfl
  · rw [Checked.consumeWhile_eq, consumed]
  · intro turn call called
    exact exists_place_of_called leads called
  · intro unrefused place after
    apply getElem?_source_after_ahead
    rw [← whole unrefused, List.length_map]
    exact after
  · rw [(value_position_skip acceptedLeads).1, List.length_map]
  · intro call refused
    rw [Option.mem_def.1 refused, Option.toList_some] at leads
    exact current_skip_of_refused leads
  · intro nonempty unrefused
    rw [whole unrefused]
    apply position_skip_ahead
    rw [← whole unrefused]
    simpa using nonempty
  · intro outside
    rw [ahead_of_outside outside, List.prefix_nil, List.map_eq_nil_iff,
      List.append_eq_nil_iff] at leads
    rcases leads with ⟨rfl, unrefused⟩
    rw [Option.toList_eq_nil_iff] at unrefused
    subst unrefused
    refine ⟨rfl, rfl, answers.eq_of_nothing, ?_⟩
    rw [List.map_nil, skip_nil]

/-- A test that accepts two calls is not called before the source, nor after its end. -/
theorem consumeWhile_asks_twice :
    (Offset.clamp (-1)).value < 0 ∧
      Cursor.consumeWhile ⟨['x', 'y', 'z'], .clamp (-1), by decide⟩
        (fun count _ => (decide (count < 2), count + 1)) 0 =
          ([], 0, ⟨['x', 'y', 'z'], .clamp (-1), by decide⟩) ∧
      ∃ (accepted : List (Call Nat)) (moved : Cursor),
        accepted = [(0, 'y'), (1, 'z')] ∧ moved.position = .clamp 3 ∧
          Cursor.consumeWhile ⟨['x', 'y', 'z'], .clamp 1, by decide⟩
            (fun count _ => (decide (count < 2), count + 1)) 0 =
              (accepted.map Prod.snd, 2, moved) := by
  have before : (Offset.clamp (-1)).value < 0 := by decide
  refine ⟨before, ?_, ?_⟩
  · rcases consumeWhile_asks ⟨['x', 'y', 'z'], .clamp (-1), by decide⟩
      (fun count _ => (decide (count < 2), count + 1)) 0 with
      ⟨accepted, refused?, final, moved, consumed, -, -, -, -, -, -, -, -, -, outside⟩
    rcases outside (.inl before) with ⟨rfl, -, rfl, rfl⟩
    exact consumed
  · rcases consumeWhile_asks ⟨['x', 'y', 'z'], .clamp 1, by decide⟩
      (fun count _ => (decide (count < 2), count + 1)) 0 with
      ⟨accepted, refused?, final, moved, consumed, recorded, -, -, -, -, -, -, -, stopped, -⟩
    have all : accepted.map Prod.snd = ['y', 'z'] := congrArg Prod.fst recorded.symm
    have calls : accepted ++ refused?.toList = [(0, 'y'), (1, 'z')] :=
      congrArg (fun result => result.2.1.2) recorded.symm
    have finished : final = 2 := congrArg (fun result => result.2.1) consumed.symm
    have unrefused : refused? = none := by
      have sizes := congrArg List.length calls
      have acceptedSize := congrArg List.length all
      rw [List.length_map] at acceptedSize
      rw [List.length_append, acceptedSize] at sizes
      cases refused? with
      | none => rfl
      | some call => cases sizes
    subst unrefused
    rw [Option.toList_none, List.append_nil] at calls
    refine ⟨accepted, moved, calls, stopped (by simp [calls]) rfl, ?_⟩
    rw [consumed, finished]

end Cursor

end TextCursor

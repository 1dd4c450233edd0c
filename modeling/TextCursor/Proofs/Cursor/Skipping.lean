import TextCursor.Proofs.Cursor.CheckedOperation

/-!
# Skipping

A cursor skips targets turn by turn: it passes the first target of the list that is not empty and
stands where it is, not the longest one, and begins anew where it has come to. `Cursor.Passes` is
this loop with the texts that it passes. Every turn gets further into the source, so there is a last
one, and what `Cursor.consume` returns is what the turns have passed. Targets of one character are
skipped as by a test on characters.
-/

namespace TextCursor

namespace Text

variable {targets : List Text}

theorem repeats_of_leading?_eq_none {text : Text} (missed : leading? targets text = none) :
    repeats targets text = [] := by
  rw [repeats]
  split
  · rfl
  · next target found =>
      rw [missed] at found
      cases found

theorem repeats_of_leading? {text target : Text} (found : leading? targets text = some target) :
    repeats targets text = target ++ repeats targets (text.drop target.length) := by
  rw [repeats]
  split
  · next missed =>
      rw [missed] at found
      cases found
  · next other otherFound =>
      rw [found, Option.some.injEq] at otherFound
      rw [otherFound]

/-- A test that has no state takes what it accepts. -/
theorem takeWhileFrom_stateless (test : Char → Bool) (text : Text) :
    takeWhileFrom (fun (_ : Unit) c => (test c, ())) () text = (text.takeWhile test, ()) := by
  induction text with
  | nil => rfl
  | cons c rest ih =>
      rw [takeWhileFrom, List.takeWhile_cons]
      cases test c with
      | false => rfl
      | true =>
          dsimp only
          rw [ih]
          rfl

theorem leading?_nil (targets : List Text) : leading? targets [] = none := by
  simp [leading?]

theorem eq_singleton_of_leads {target rest : Text} {c : Char} (single : target.length ≤ 1)
    (nonempty : target ≠ []) (leads : target <+: c :: rest) : target = [c] := by
  rcases List.exists_cons_of_ne_nil nonempty with ⟨d, more, rfl⟩
  rw [List.cons_prefix_cons] at leads
  rw [leads.1, List.eq_nil_of_length_eq_zero (l := more) (by simpa using single)]

/-- Of targets of at most one character, the one that is the next character leads a text. -/
theorem leading?_of_single (single : ∀ target ∈ targets, target.length ≤ 1) (c : Char)
    (rest : Text) :
    leading? targets (c :: rest) = if targets.contains [c] then some [c] else none := by
  cases found : leading? targets (c :: rest) with
  | some target =>
      have mem : target ∈ targets := List.mem_of_find?_eq_some found
      rcases leads_of_leading? found with ⟨nonempty, leads⟩
      have same := eq_singleton_of_leads (single target mem) nonempty leads
      subst same
      rw [if_pos (List.contains_iff_mem.2 mem)]
  | none =>
      rw [if_neg]
      intro mem
      have missed := List.find?_eq_none.1 found [c] (List.contains_iff_mem.1 mem)
      simp at missed

/-- Targets of at most one character are skipped character by character. -/
theorem repeats_of_single (single : ∀ target ∈ targets, target.length ≤ 1) (text : Text) :
    repeats targets text = text.takeWhile fun c => targets.contains [c] := by
  induction text with
  | nil => exact repeats_of_leading?_eq_none (leading?_nil targets)
  | cons c rest ih =>
      have first := leading?_of_single single c rest
      rw [List.takeWhile_cons]
      by_cases accepted : targets.contains [c] = true
      · rw [if_pos accepted] at first
        rw [if_pos accepted, repeats_of_leading? first, List.length_singleton, List.drop_one,
          List.tail_cons, ih, List.singleton_append]
      · rw [if_neg accepted] at first
        rw [if_neg accepted]
        exact repeats_of_leading?_eq_none first

end Text

namespace Cursor

variable {cursor final : Cursor} {targets pieces : List Text} {target text : Text}

/-- Whether a text is the first one of a list that is not empty and stands at the cursor. -/
structure Picks (cursor : Cursor) (targets : List Text) (target : Text) : Prop where
  nonempty : target ≠ []
  stands : cursor.standsHere target = true
  first : ∃ before after, targets = before ++ target :: after ∧
    ∀ earlier ∈ before, earlier ≠ [] → cursor.standsHere earlier = false

/-- Whether no text of a list stands at the cursor but for empty ones. -/
def PicksNone (cursor : Cursor) (targets : List Text) : Prop :=
  ∀ target ∈ targets, target ≠ [] → cursor.standsHere target = false

instance (cursor : Cursor) (targets : List Text) : Decidable (cursor.PicksNone targets) :=
  inferInstanceAs (Decidable (∀ target ∈ targets, target ≠ [] → cursor.standsHere target = false))

/-- Whether a cursor passes some pieces by turns, in each one the target that it picks there. -/
inductive Passes (targets : List Text) : Cursor → List Text → Cursor → Prop
  | stop {cursor : Cursor} (picksNone : cursor.PicksNone targets) :
      Passes targets cursor [] cursor
  | turn {cursor final : Cursor} {target : Text} {pieces : List Text}
      (picks : cursor.Picks targets target)
      (rest : Passes targets (cursor.moveTo (cursor.position.forward target.length)) pieces final) :
      Passes targets cursor (target :: pieces) final

theorem picks_iff : cursor.Picks targets target ↔
    Text.leading? targets cursor.ahead = some target := by
  have passedOver (earlier : Text) :
      (!(!earlier.isEmpty && cursor.standsHere earlier)) = true ↔
        (earlier ≠ [] → cursor.standsHere earlier = false) := by
    cases earlier <;> simp
  rw [leading?_ahead, List.find?_eq_some_iff_append]
  simp only [passedOver, Bool.and_eq_true, Bool.not_eq_true', List.isEmpty_eq_false_iff]
  constructor
  · rintro ⟨nonempty, stands, first⟩
    exact ⟨⟨nonempty, stands⟩, first⟩
  · rintro ⟨⟨nonempty, stands⟩, first⟩
    exact ⟨nonempty, stands, first⟩

theorem picksNone_iff : cursor.PicksNone targets ↔
    Text.leading? targets cursor.ahead = none := by
  rw [leading?_ahead, List.find?_eq_none]
  simp [PicksNone]

theorem Picks.leads (picks : cursor.Picks targets target) : target <+: cursor.ahead :=
  (standsHere_iff_leads picks.nonempty).1 picks.stands

theorem picksNone_of_outside
    (outside : cursor.position.value < 0 ∨ cursor.length ≤ cursor.position.value) :
    cursor.PicksNone targets := by
  intro target _ nonempty
  rw [← Bool.not_eq_true, standsHere_iff]
  exact Text.not_standsAt_of_outside nonempty outside

theorem consume_of_picksNone (picksNone : cursor.PicksNone targets) :
    cursor.consume targets = ([], cursor) := by
  rw [consume, Text.repeats_of_leading?_eq_none (picksNone_iff.1 picksNone), skip_nil]

/-- A turn of the loop goes on from where it has come to. -/
theorem consume_of_picks (picks : cursor.Picks targets target) :
    cursor.consume targets =
      (target ++ ((cursor.skip target).2.consume targets).1,
        ((cursor.skip target).2.consume targets).2) := by
  rcases picks.leads with ⟨rest, split⟩
  have left : (cursor.skip target).2.ahead = rest := ahead_skip split.symm
  have here : Text.leading? targets (target ++ rest) = some target := by
    rw [split]
    exact picks_iff.1 picks
  rw [consume, consume, left, ← split, Text.repeats_of_leading? here, List.drop_left]
  exact Prod.ext rfl (skip_skip cursor target _).symm

theorem exists_passes (cursor : Cursor) (targets : List Text) :
    ∃ pieces final, Passes targets cursor pieces final := by
  induction size : cursor.toGo using Nat.strong_induction_on generalizing cursor with
  | _ size ih =>
      cases found : Text.leading? targets cursor.ahead with
      | none => exact ⟨[], cursor, .stop (picksNone_iff.2 found)⟩
      | some target =>
          have picks := picks_iff.2 found
          -- What is picked is not empty, so there is less to go after it.
          have nearer := toGo_skip_lt picks.nonempty picks.leads
          rcases ih _ (size ▸ nearer) _ rfl with ⟨pieces, final, rest⟩
          exact ⟨target :: pieces, final, .turn picks rest⟩

/-- What is passed by turns is what is consumed. -/
theorem Passes.consume_eq (passes : Passes targets cursor pieces final) :
    cursor.consume targets = (pieces.flatten, final) := by
  induction passes with
  | stop picksNone => exact consume_of_picksNone picksNone
  | @turn cursor final target pieces picks rest ih =>
      have further : (cursor.skip target).2.consume targets = (pieces.flatten, final) := ih
      rw [consume_of_picks picks, further, List.flatten_cons]

theorem Passes.picksNone (passes : Passes targets cursor pieces final) :
    final.PicksNone targets := by
  induction passes with
  | stop picksNone => exact picksNone
  | turn picks rest ih => exact ih

/--
A cursor consumes what it passes by turns, in each one the first target that is not empty and stands
where it is. The turns come to an end, they move it by the characters that they pass, and where it
stops it picks no target, so it does not move again for the same ones. It does not move at all where
no target stands, and in particular not from outside the source.
-/
theorem consume_greedy (cursor : Cursor) (targets : List Text) :
    (∃ pieces, Passes targets cursor pieces (cursor.consume targets).2 ∧
        (cursor.consume targets).1 = pieces.flatten) ∧
      (∀ pieces final, Passes targets cursor pieces final →
        cursor.consume targets = (pieces.flatten, final)) ∧
      Checked.consume cursor targets = .ok (cursor.consume targets) ∧
      (∃ place : Offset,
        place.value = cursor.position.value + (cursor.consume targets).1.length ∧
        (cursor.consume targets).2 = cursor.moveTo place) ∧
      (cursor.consume targets).2.PicksNone targets ∧
      (cursor.PicksNone targets → cursor.consume targets = ([], cursor)) ∧
      (cursor.position.value < 0 ∨ cursor.length ≤ cursor.position.value →
        cursor.consume targets = ([], cursor)) ∧
      (cursor.consume targets).2.consume targets = ([], (cursor.consume targets).2) := by
  rcases exists_passes cursor targets with ⟨pieces, final, passes⟩
  have consumed := passes.consume_eq
  have stopped := passes.picksNone
  refine ⟨⟨pieces, ?_, ?_⟩, ?_, Checked.consume_eq cursor targets, ?_, ?_, consume_of_picksNone,
    ?_, ?_⟩
  · rwa [consumed]
  · rw [consumed]
  · intro others other otherPasses
    exact otherPasses.consume_eq
  · exact ⟨_, (value_position_skip (Text.repeats_prefix targets cursor.ahead)).1, rfl⟩
  · rwa [consumed]
  · intro outside
    exact consume_of_picksNone (picksNone_of_outside outside)
  · rw [consumed]
    exact consume_of_picksNone stopped

/-- A shorter target that comes earlier is passed instead of a longer one. -/
theorem consume_greedy_shadowed :
    Passes [[], ['a'], ['a', 'b']] ⟨['a', 'a', 'b'], 0, by decide⟩ [['a'], ['a']]
        ⟨['a', 'a', 'b'], .clamp 2, by decide⟩ ∧
      Cursor.consume ⟨['a', 'a', 'b'], 0, by decide⟩ [[], ['a'], ['a', 'b']] =
        (['a', 'a'], ⟨['a', 'a', 'b'], .clamp 2, by decide⟩) ∧
      (Offset.clamp (-1)).value < 0 ∧
      Cursor.consume ⟨['a'], .clamp (-1), by decide⟩ [['a']] =
        ([], ⟨['a'], .clamp (-1), by decide⟩) := by
  have passes : Passes [[], ['a'], ['a', 'b']] ⟨['a', 'a', 'b'], 0, by decide⟩ [['a'], ['a']]
      ⟨['a', 'a', 'b'], .clamp 2, by decide⟩ := by
    refine .turn ⟨by decide, by decide, [[]], [['a', 'b']], rfl, by decide⟩ ?_
    refine .turn ⟨by decide, by decide, [[]], [['a', 'b']], rfl, by decide⟩ ?_
    exact .stop (by decide)
  have before : (Offset.clamp (-1)).value < 0 := by decide
  rcases consume_greedy ⟨['a', 'a', 'b'], 0, by decide⟩ [[], ['a'], ['a', 'b']] with
    ⟨-, determined, -⟩
  rcases consume_greedy ⟨['a'], .clamp (-1), by decide⟩ [['a']] with
    ⟨-, -, -, -, -, -, still, -⟩
  exact ⟨passes, determined _ _ passes, before, still (.inl before)⟩

/-- The test that has no state and accepts the characters that are targets. -/
def accepts (targets : List Text) (_ : Unit) (c : Char) : Bool × Unit :=
  (targets.contains [c], ())

/--
Targets of at most one character are consumed as by the test for being one of them: the same text is
read and the same place is reached. So neither their order nor how often they are given matters.
-/
theorem consume_of_single (single : ∀ target ∈ targets, target = [] ∨ ∃ c, target = [c])
    (cursor : Cursor) :
    (cursor.consume targets).1 = (cursor.consumeWhile (accepts targets) ()).1 ∧
      (cursor.consume targets).2 = (cursor.consumeWhile (accepts targets) ()).2.2 ∧
      ∀ others : List Text, (∀ target, target ∈ others ↔ target ∈ targets) →
        cursor.consume others = cursor.consume targets := by
  have skips (others : List Text) (members : ∀ target, target ∈ others ↔ target ∈ targets) :
      Text.repeats others cursor.ahead =
        cursor.ahead.takeWhile fun c => targets.contains [c] := by
    have atMost : ∀ target ∈ others, target.length ≤ 1 := by
      intro target mem
      rcases single target ((members target).1 mem) with rfl | ⟨c, rfl⟩
      · exact Nat.zero_le 1
      · exact Nat.le_refl 1
    rw [Text.repeats_of_single atMost]
    congr 1
    funext c
    rw [Bool.eq_iff_iff, List.contains_iff_mem, List.contains_iff_mem, members]
  have taken : Text.takeWhileFrom (accepts targets) () cursor.ahead =
      (cursor.ahead.takeWhile fun c => targets.contains [c], ()) :=
    Text.takeWhileFrom_stateless _ _
  have same := skips targets fun _ => Iff.rfl
  refine ⟨?_, ?_, ?_⟩
  · rw [consume, consumeWhile, same, taken]
  · rw [consume, consumeWhile, same, taken]
  · intro others members
    rw [consume, consume, skips others members, same]

/-- An empty target and one that is given twice change nothing. -/
theorem consume_of_single_twice :
    (∀ target ∈ [['b'], [], ['a'], ['b']], target = [] ∨ ∃ c, target = [c]) ∧
      Cursor.consume ⟨['a', 'b', 'c', 'a'], 0, by decide⟩ [['b'], [], ['a'], ['b']] =
        (['a', 'b'], ⟨['a', 'b', 'c', 'a'], .clamp 2, by decide⟩) ∧
      Cursor.consume ⟨['a', 'b', 'c', 'a'], 0, by decide⟩ [[], ['a'], ['b']] =
        Cursor.consume ⟨['a', 'b', 'c', 'a'], 0, by decide⟩ [['b'], [], ['a'], ['b']] := by
  have single : ∀ target ∈ [['b'], [], ['a'], ['b']], target = [] ∨ ∃ c, target = [c] := by
    simp
  rcases consume_of_single single ⟨['a', 'b', 'c', 'a'], 0, by decide⟩ with
    ⟨text, moved, reordered⟩
  refine ⟨single, Prod.ext text moved, reordered _ ?_⟩
  simp only [List.mem_cons, List.not_mem_nil, or_false]
  grind

end Cursor

end TextCursor

import Mathlib.Data.Nat.Find
import Mathlib.Tactic.ByContra
import TextCursor.Proofs.Cursor.Conservation

/-!
# Searching

A search slides over what is left of the source, while a cursor compares a window at one place. Here
both are held against each other: `Cursor.Meets` says that the cursor, moved to a place that is not
before it, has a text standing there, and `Cursor.FirstMeets` that this is the least such place. A
search goes to that place, no occurrence being passed over, and it misses only if there is no such
place at all. An empty text stands everywhere, and it is found where the search starts.
-/

namespace TextCursor

namespace Text

variable {target text : Text} {index : Nat}

/-- What is found is the first place at which the target leads the rest of the text. -/
theorem indexOf?_eq_some_iff :
    indexOf? target text = some index ↔
      target <+: text.drop index ∧ ∀ earlier < index, ¬target <+: text.drop earlier := by
  induction text generalizing index with
  | nil =>
      rw [indexOf?]
      by_cases empty : target = []
      · subst empty
        simp only [List.isEmpty_nil, if_true, Option.some.injEq, List.nil_prefix, true_and,
          not_true_eq_false, imp_false, Nat.not_lt]
        constructor
        · rintro rfl earlier
          exact Nat.zero_le earlier
        · intro least
          exact (Nat.le_zero.1 (least 0)).symm
      · simp [empty]
  | cons c rest ih =>
      rw [indexOf?]
      by_cases leads : target <+: c :: rest
      · rw [if_pos (List.isPrefixOf_iff_prefix.2 leads), Option.some.injEq]
        constructor
        · rintro rfl
          exact ⟨leads, by simp⟩
        · rintro ⟨-, least⟩
          by_contra later
          exact least 0 (by omega) leads
      · rw [if_neg (mt List.isPrefixOf_iff_prefix.1 leads)]
        cases index with
        | zero => simp [leads]
        | succ index =>
            simp only [Option.map_eq_some_iff, Nat.add_right_cancel_iff, exists_eq_right, ih,
              List.drop_succ_cons]
            apply and_congr_right
            intro _
            constructor
            · intro least earlier before
              cases earlier with
              | zero => exact leads
              | succ earlier => exact least earlier (by omega)
            · intro least earlier before
              exact least (earlier + 1) (by omega)

theorem indexOf?_eq_none_iff :
    indexOf? target text = none ↔ ∀ place, ¬target <+: text.drop place := by
  constructor
  · intro missed place leads
    have somewhere : ∃ place, target <+: text.drop place := ⟨place, leads⟩
    have found : indexOf? target text = some (Nat.find somewhere) :=
      indexOf?_eq_some_iff.2
        ⟨Nat.find_spec somewhere, fun _ before => Nat.find_min somewhere before⟩
    rw [missed] at found
    cases found
  · intro nowhere
    rw [Option.eq_none_iff_forall_ne_some]
    intro place found
    exact nowhere place (indexOf?_eq_some_iff.1 found).1

theorem indexOf?_nil (text : Text) : indexOf? [] text = some 0 := by
  cases text <;> rfl

/-- A text stands at a place of the source if it leads what the source has from there on. -/
theorem standsAt_natCast_iff {source target : Text} {place : Nat} :
    source.StandsAt target place ↔ target <+: source.drop place := by
  have sum : ((place : Int) + target.length).toNat = place + target.length := by omega
  rw [← segment_eq_iff_standsAt, segment_eq_drop_take, sum, Int.toNat_natCast, List.drop_take,
    Nat.add_sub_cancel_left, List.prefix_iff_eq_take]
  exact eq_comm

end Text

namespace Cursor

variable {cursor : Cursor} {target : Text} {place : Offset}

/-- Whether a cursor that is moved to a place, and not backwards, has a text standing there. -/
structure Meets (cursor : Cursor) (target : Text) (place : Offset) : Prop where
  notBefore : max cursor.position.value 0 ≤ place.value
  stands : (cursor.moveTo place).standsHere target = true

/-- Whether a place is the least one at which a text is met. -/
structure FirstMeets (cursor : Cursor) (target : Text) (place : Offset) : Prop where
  meets : cursor.Meets target place
  least : ∀ other, cursor.Meets target other → place.value ≤ other.value

theorem meets_iff :
    cursor.Meets target place ↔
      max cursor.position.value 0 ≤ place.value ∧ cursor.source.StandsAt target place.value := by
  have stands : (cursor.moveTo place).standsHere target = true ↔
      cursor.source.StandsAt target place.value := (cursor.moveTo place).standsHere_iff
  constructor
  · intro meets
    exact ⟨meets.notBefore, stands.1 meets.stands⟩
  · rintro ⟨notBefore, there⟩
    exact ⟨notBefore, stands.2 there⟩

/-- A text is met at no place before the one where the search starts. -/
theorem Meets.exists_count (nonempty : target ≠ []) (meets : cursor.Meets target place) :
    ∃ count : Nat, place.value = (cursor.position.clip cursor.length + count : Nat) := by
  have positive := List.length_pos_iff.2 nonempty
  rcases meets_iff.1 meets with ⟨notBefore, empty | ⟨-, inside, -⟩⟩
  · exact absurd empty nonempty
  · refine ⟨(place.value - cursor.position.clip cursor.length).toNat, ?_⟩
    simp only [Offset.clip, length]
    omega

/-- A text that leads what is left of the source is met at that place. -/
theorem leads_iff_exists_meets (nonempty : target ≠ []) (count : Nat) :
    target <+: (cursor.source.drop (cursor.position.clip cursor.length)).drop count ↔
      ∃ place : Offset, place.value = (cursor.position.clip cursor.length + count : Nat) ∧
        cursor.Meets target place := by
  rw [List.drop_drop, ← Text.standsAt_natCast_iff]
  constructor
  · intro stands
    have positive := List.length_pos_iff.2 nonempty
    have fits := cursor.source_fits
    rcases id stands with empty | ⟨-, inside, -⟩
    · exact absurd empty nonempty
    have value : (Offset.clamp (cursor.position.clip cursor.length + count : Nat)).value =
        (cursor.position.clip cursor.length + count : Nat) :=
      Offset.value_clamp_of_fits (by omega) (by omega)
    refine ⟨_, value, meets_iff.2 ⟨?_, ?_⟩⟩
    · rw [value]
      simp only [Offset.clip, length] at inside ⊢
      omega
    · rwa [value]
  · rintro ⟨place, value, meets⟩
    rw [← value]
    exact (meets_iff.1 meets).2

theorem find?_eq_none_iff (nonempty : target ≠ []) :
    cursor.find? target = none ↔ ∀ place, ¬cursor.Meets target place := by
  rw [find?, Option.map_eq_none_iff, Text.indexOf?_eq_none_iff]
  constructor
  · intro nowhere place meets
    rcases meets.exists_count nonempty with ⟨count, value⟩
    exact nowhere count ((leads_iff_exists_meets nonempty count).2 ⟨place, value, meets⟩)
  · intro nowhere count leads
    rcases (leads_iff_exists_meets nonempty count).1 leads with ⟨place, -, meets⟩
    exact nowhere place meets

theorem find?_eq_some_iff (nonempty : target ≠ []) :
    cursor.find? target = some index ↔
      ∃ place : Offset, place.value = index ∧ cursor.FirstMeets target place := by
  rw [find?, Option.map_eq_some_iff]
  simp only [Text.indexOf?_eq_some_iff]
  constructor
  · rintro ⟨count, ⟨leads, earliest⟩, rfl⟩
    rcases (leads_iff_exists_meets nonempty count).1 leads with ⟨place, value, meets⟩
    refine ⟨place, value, meets, ?_⟩
    intro other otherMeets
    rcases otherMeets.exists_count nonempty with ⟨otherCount, otherValue⟩
    by_contra before
    apply earliest otherCount (by omega)
    exact (leads_iff_exists_meets nonempty otherCount).2 ⟨other, otherValue, otherMeets⟩
  · rintro ⟨place, value, meets, least⟩
    rcases meets.exists_count nonempty with ⟨count, sum⟩
    refine ⟨count, ⟨(leads_iff_exists_meets nonempty count).2 ⟨place, sum, meets⟩, ?_⟩, by omega⟩
    intro earlier before leads
    rcases (leads_iff_exists_meets nonempty earlier).1 leads with ⟨other, otherValue, otherMeets⟩
    have notAfter := least other otherMeets
    omega

theorem find?_nil (cursor : Cursor) :
    cursor.find? [] = some (cursor.position.clip cursor.length) := by
  rw [find?, Text.indexOf?_nil]
  rfl

theorem between_eq_segment (cursor : Cursor) (start stop : Offset) :
    cursor.between start stop = cursor.source.segment start.value stop.value := by
  rw [between, Text.segment_eq_drop_take]
  exact Text.drop_take_clipped cursor.source _ _

theorem jumpTo_of_find? (found : cursor.find? target = some index) :
    cursor.jumpTo target = (some index, cursor.moveTo (.clamp index)) := by
  rw [jumpTo, found]

theorem value_clamp_of_find? (found : cursor.find? target = some index) :
    (Offset.clamp index).value = index := by
  have inside := (find?_bounds found).2
  have fits := cursor.length_lt
  exact Offset.value_clamp_of_fits (by omega) (by omega)

theorem getUntil_of_find? (found : cursor.find? target = some index) :
    cursor.getUntil target =
      (some (cursor.source.segment (max cursor.position.value 0) index),
        cursor.moveTo (max cursor.position (.clamp index))) := by
  have start : (max cursor.position.value 0).toNat = cursor.position.value.toNat := by omega
  rw [getUntil, found]
  simp only [between_eq_segment, value_clamp_of_find? found, Text.segment_eq_drop_take, start]

theorem jumpTo_of_firstMeets (nonempty : target ≠ []) (first : cursor.FirstMeets target place) :
    cursor.jumpTo target = (some place.value.toNat, cursor.moveTo place) := by
  have notBefore := first.meets.notBefore
  have value : place.value = (place.value.toNat : Nat) := by omega
  rw [jumpTo_of_find? ((find?_eq_some_iff nonempty).2 ⟨place, value, first⟩), ← value,
    Offset.clamp_value]

theorem getUntil_of_firstMeets (nonempty : target ≠ []) (first : cursor.FirstMeets target place) :
    cursor.getUntil target =
      (some (cursor.source.segment (max cursor.position.value 0) place.value),
        cursor.moveTo place) := by
  have notBefore := first.meets.notBefore
  have value : place.value = (place.value.toNat : Nat) := by omega
  have forward : max cursor.position place = place := by
    apply Offset.ext
    rw [Offset.value_max]
    omega
  rw [getUntil_of_find? ((find?_eq_some_iff nonempty).2 ⟨place, value, first⟩), ← value,
    Offset.clamp_value, forward]

/-- A text that is met is met at a least place. -/
theorem Meets.exists_firstMeets (nonempty : target ≠ []) (meets : cursor.Meets target place) :
    ∃ first, cursor.FirstMeets target first := by
  cases found : cursor.find? target with
  | none => exact absurd meets ((find?_eq_none_iff nonempty).1 found place)
  | some index =>
      rcases (find?_eq_some_iff nonempty).1 found with ⟨first, -, firstMeets⟩
      exact ⟨first, firstMeets⟩

theorem search_of_not_meets (nonempty : target ≠ [])
    (nowhere : ∀ place, ¬cursor.Meets target place) :
    cursor.jumpTo target = (none, cursor.moveTo (.clamp (-1))) ∧
      cursor.getUntil target = (none, cursor) := by
  have missed := (find?_eq_none_iff nonempty).2 nowhere
  exact ⟨by rw [jumpTo, missed], by rw [getUntil, missed]⟩

/-- An empty text is found at the place of the source that is nearest to the cursor. -/
theorem search_nil (cursor : Cursor) :
    ∃ index : Nat, (index : Int) = max 0 (min cursor.position.value cursor.length) ∧
      cursor.jumpTo [] = (some index, cursor.moveTo (.clamp index)) ∧
      cursor.getUntil [] = (some [], cursor.moveTo (max cursor.position (.clamp index))) := by
  have found := cursor.find?_nil
  refine ⟨cursor.position.clip cursor.length, ?_, jumpTo_of_find? found, ?_⟩
  · rw [Offset.clip]
    omega
  · have nothing : cursor.source.segment (max cursor.position.value 0)
        (cursor.position.clip cursor.length : Nat) = [] := by
      rw [← List.length_eq_zero_iff, Text.length_segment, Offset.clip]
      omega
    rw [getUntil_of_find? found, nothing]

theorem position_le_getUntil (cursor : Cursor) (target : Text) :
    cursor.position.value ≤ (cursor.getUntil target).2.position.value := by
  cases found : cursor.find? target with
  | none =>
      simp only [getUntil, found, Int.le_refl]
  | some index =>
      rw [getUntil_of_find? found, position_moveTo, Offset.value_max]
      exact Int.le_max_left ..

/-- A jump goes back from after the end for an empty text, and where there is nothing to find. -/
theorem jumpTo_backward_iff (cursor : Cursor) (target : Text) :
    (cursor.jumpTo target).2.position.value < cursor.position.value ↔
      target = [] ∧ cursor.length < cursor.position.value ∨
        (cursor.jumpTo target).1 = none ∧ 0 ≤ cursor.position.value := by
  by_cases empty : target = []
  · subst empty
    have found := cursor.find?_nil
    rw [jumpTo_of_find? found, position_moveTo, value_clamp_of_find? found, Offset.clip]
    simp only [reduceCtorEq, false_and, or_false, true_and]
    omega
  · cases found : cursor.find? target with
    | none =>
        rw [jumpTo, found, position_moveTo, Offset.value_clamp]
        simp only [empty, false_and, false_or, true_and]
        omega
    | some index =>
        rcases (find?_eq_some_iff empty).1 found with ⟨place, value, first⟩
        have notBefore := first.meets.notBefore
        rw [jumpTo_of_find? found, position_moveTo, value_clamp_of_find? found]
        simp only [empty, reduceCtorEq, false_and, or_self, iff_false]
        omega

/--
A text that is not empty is found at the least place where it is met: a jump goes there, and a text
up to it is what the source has from the cursor to there. If it is met nowhere, a jump goes before
the source and nothing else changes. An empty text is found at the nearest place of the source.
Only a jump moves back, when it is for an empty text from after the end, or when it misses.
-/
theorem search_exact (cursor : Cursor) (target : Text) :
    (target ≠ [] →
      (∀ place, cursor.FirstMeets target place →
        cursor.jumpTo target = (some place.value.toNat, cursor.moveTo place) ∧
        cursor.getUntil target =
          (some (cursor.source.segment (max cursor.position.value 0) place.value),
            cursor.moveTo place)) ∧
      ((∃ place, cursor.Meets target place) → ∃ place, cursor.FirstMeets target place) ∧
      ((∀ place, ¬cursor.Meets target place) →
        cursor.jumpTo target = (none, cursor.moveTo (.clamp (-1))) ∧
        cursor.getUntil target = (none, cursor))) ∧
    (target = [] →
      ∃ index : Nat, (index : Int) = max 0 (min cursor.position.value cursor.length) ∧
        cursor.jumpTo target = (some index, cursor.moveTo (.clamp index)) ∧
        cursor.getUntil target = (some [], cursor.moveTo (max cursor.position (.clamp index)))) ∧
    cursor.position.value ≤ (cursor.getUntil target).2.position.value ∧
    ((cursor.jumpTo target).2.position.value < cursor.position.value ↔
      target = [] ∧ cursor.length < cursor.position.value ∨
        (cursor.jumpTo target).1 = none ∧ 0 ≤ cursor.position.value) := by
  refine ⟨?_, ?_, cursor.position_le_getUntil target, cursor.jumpTo_backward_iff target⟩
  · intro nonempty
    refine ⟨?_, ?_, search_of_not_meets nonempty⟩
    · intro place first
      exact ⟨jumpTo_of_firstMeets nonempty first, getUntil_of_firstMeets nonempty first⟩
    · rintro ⟨place, meets⟩
      exact meets.exists_firstMeets nonempty
  · rintro rfl
    exact cursor.search_nil

/-- An occurrence that begins before the cursor and overlaps with the first one is none. -/
theorem search_exact_overlapping :
    Cursor.FirstMeets ⟨"aabaaba".toList, .clamp 1, by decide⟩ "aaba".toList (.clamp 3) ∧
      Cursor.jumpTo ⟨"aabaaba".toList, .clamp 1, by decide⟩ "aaba".toList =
        (some 3, ⟨"aabaaba".toList, .clamp 3, by decide⟩) ∧
      Cursor.getUntil ⟨"aabaaba".toList, .clamp 1, by decide⟩ "aaba".toList =
        (some "ab".toList, ⟨"aabaaba".toList, .clamp 3, by decide⟩) := by
  have first : Cursor.FirstMeets ⟨"aabaaba".toList, .clamp 1, by decide⟩ "aaba".toList
      (.clamp 3) := by
    refine ⟨⟨by decide, by decide⟩, ?_⟩
    intro other meets
    rcases meets_iff.1 meets with ⟨notBefore, stands⟩
    rw [← Text.segment_eq_iff_standsAt] at stands
    have atLeast : 1 ≤ other.value := notBefore
    have first : (Offset.clamp 3).value = 3 := by decide
    rw [first]
    by_contra before
    have between : other.value = 1 ∨ other.value = 2 := by omega
    rcases between with value | value
    · rw [value] at stands
      exact absurd stands (by decide)
    · rw [value] at stands
      exact absurd stands (by decide)
  rcases (search_exact ⟨"aabaaba".toList, .clamp 1, by decide⟩ "aaba".toList).1 (by decide) with
    ⟨found, -, -⟩
  exact ⟨first, found (.clamp 3) first⟩

end Cursor

end TextCursor

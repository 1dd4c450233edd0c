import TextCursor.Proofs.Cursor.Searching

/-!
# Distances to texts

The distance to a text is the number of characters between the cursor and the place where a search
finds the text. `Cursor.FoundAt` is this place as a whole number of any size. A cursor that moves
towards it, and not past it, still finds the text there, so the distance tells how far the cursor
can walk: it becomes less by every character that is passed, the text stands nowhere on the way, and
it stands where the walk ends.
-/

namespace TextCursor

namespace Distance

theorem ofOffset_eq_chars_iff {offset : Offset} {count : Nat} :
    ofOffset offset = chars count ↔ (count : Int) = offset.value := by
  rw [← Offset.toNat?_eq_some_iff, ofOffset]
  cases offset.toNat? <;> simp

theorem ofOffset_eq_unreachable_iff {offset : Offset} :
    ofOffset offset = unreachable ↔ offset.value < 0 := by
  rw [ofOffset, Offset.toNat?]
  split <;> simp_all

end Distance

namespace Cursor

/--
Where a text is found: at the least place, not before the cursor, at which it stands in the source.
An empty text is found at the place of the source that is nearest to the cursor.
-/
inductive FoundAt (cursor : Cursor) : Text → Int → Prop
  | nearest {place : Int} (clipped : place = max 0 (min cursor.position.value cursor.length)) :
      FoundAt cursor [] place
  | least {target : Text} {place : Int} (nonempty : target ≠ [])
      (notBefore : max cursor.position.value 0 ≤ place)
      (stands : cursor.source.StandsAt target place)
      (least : ∀ other, max cursor.position.value 0 ≤ other →
        cursor.source.StandsAt target other → place ≤ other) :
      FoundAt cursor target place

variable {cursor : Cursor} {target : Text} {place : Int} {index count : Nat}

/-- A place where a text stands that is not empty is an offset. -/
theorem value_clamp_of_standsAt (nonempty : target ≠ [])
    (stands : cursor.source.StandsAt target place) : (Offset.clamp place).value = place := by
  have fits := cursor.source_fits
  rcases stands with empty | ⟨atLeast, atMost, -⟩
  · exact absurd empty nonempty
  · apply Offset.value_clamp_of_fits
    · omega
    · have positive := List.length_pos_iff.2 nonempty
      omega

theorem firstMeets_iff_foundAt (nonempty : target ≠ []) {place : Offset} :
    cursor.FirstMeets target place ↔ cursor.FoundAt target place.value := by
  constructor
  · intro first
    rcases meets_iff.1 first.meets with ⟨notBefore, stands⟩
    apply FoundAt.least nonempty notBefore stands
    intro other otherNotBefore otherStands
    have value := value_clamp_of_standsAt nonempty otherStands
    have later := first.least (.clamp other)
    rw [meets_iff, value] at later
    exact later ⟨otherNotBefore, otherStands⟩
  · intro found
    cases found with
    | nearest clipped => exact absurd rfl nonempty
    | least _ notBefore stands least =>
        refine ⟨meets_iff.2 ⟨notBefore, stands⟩, ?_⟩
        intro other meets
        rcases meets_iff.1 meets with ⟨otherNotBefore, otherStands⟩
        exact least other.value otherNotBefore otherStands

/-- A search finds a text where it is found. -/
theorem find?_eq_some_iff_foundAt :
    cursor.find? target = some index ↔ cursor.FoundAt target index := by
  by_cases empty : target = []
  · subst empty
    rw [find?_nil, Option.some.injEq, Offset.clip]
    constructor
    · intro same
      exact .nearest (by omega)
    · intro found
      cases found with
      | nearest clipped => omega
      | least nonempty notBefore stands least => exact absurd rfl nonempty
  · rw [find?_eq_some_iff empty]
    constructor
    · rintro ⟨place, value, first⟩
      rw [← value]
      exact (firstMeets_iff_foundAt empty).1 first
    · intro found
      have value : (Offset.clamp index).value = index := by
        cases found with
        | nearest clipped => exact absurd rfl empty
        | least nonempty notBefore stands least => exact value_clamp_of_standsAt nonempty stands
      refine ⟨.clamp index, value, ?_⟩
      rw [firstMeets_iff_foundAt empty, value]
      exact found

theorem FoundAt.notNegative (found : cursor.FoundAt target place) : 0 ≤ place := by
  cases found with
  | nearest clipped => omega
  | least nonempty notBefore stands least => omega

theorem FoundAt.find?_eq (found : cursor.FoundAt target place) :
    cursor.find? target = some place.toNat := by
  rw [find?_eq_some_iff_foundAt, Int.toNat_of_nonneg found.notNegative]
  exact found

/-- A text is found at one place only. -/
theorem FoundAt.eq {other : Int} (found : cursor.FoundAt target place)
    (otherFound : cursor.FoundAt target other) : other = place := by
  have same := otherFound.find?_eq
  rw [found.find?_eq, Option.some.injEq] at same
  have notNegative := found.notNegative
  have otherNotNegative := otherFound.notNegative
  omega

theorem FoundAt.le_length (found : cursor.FoundAt target place) : place ≤ cursor.length := by
  have inside := (find?_bounds found.find?_eq).2
  omega

/-! ### Distances -/

/-- The distance to a text that is found, in whole numbers: it stops at the greatest offset. -/
theorem FoundAt.exists_offset (found : cursor.FoundAt target place) :
    ∃ offset : Offset, cursor.distanceTo (.text target) = .ofOffset offset ∧
      offset.value = min (place - cursor.position.value) 9223372036854775807 - 1 := by
  have notNegative := found.notNegative
  have clamped := value_clamp_of_find? found.find?_eq
  rw [Int.toNat_of_nonneg notNegative] at clamped
  refine ⟨(Offset.clamp place - cursor.position).backward 1, ?_, ?_⟩
  · rw [distanceTo, found.find?_eq]
    dsimp only
    rw [Int.toNat_of_nonneg notNegative]
  · have below := cursor.position.value_lt
    rw [Offset.value_backward, Offset.value_sub, clamped]
    omega

theorem distanceTo_of_not_foundAt (nowhere : ∀ place, ¬cursor.FoundAt target place) :
    cursor.distanceTo (.text target) = .unreachable := by
  have missed : cursor.find? target = none := by
    rw [Option.eq_none_iff_forall_ne_some]
    intro index found
    exact nowhere index (find?_eq_some_iff_foundAt.1 found)
  rw [distanceTo, missed]

theorem distanceTo_eq_chars_iff :
    cursor.distanceTo (.text target) = .chars count ↔
      ∃ place, cursor.FoundAt target place ∧ cursor.position.value < place ∧
        (count : Int) = min (place - cursor.position.value) 9223372036854775807 - 1 := by
  constructor
  · intro reached
    by_cases somewhere : ∃ place, cursor.FoundAt target place
    · rcases somewhere with ⟨place, found⟩
      rcases found.exists_offset with ⟨offset, measured, value⟩
      rw [measured, Distance.ofOffset_eq_chars_iff] at reached
      exact ⟨place, found, by omega, by omega⟩
    · rw [distanceTo_of_not_foundAt (not_exists.1 somewhere)] at reached
      cases reached
  · rintro ⟨place, found, after, counted⟩
    rcases found.exists_offset with ⟨offset, measured, value⟩
    rw [measured, Distance.ofOffset_eq_chars_iff]
    omega

theorem distanceTo_eq_unreachable_iff :
    cursor.distanceTo (.text target) = .unreachable ↔
      ∀ place, cursor.FoundAt target place → place ≤ cursor.position.value := by
  constructor
  · intro unreached place found
    rcases found.exists_offset with ⟨offset, measured, value⟩
    rw [measured, Distance.ofOffset_eq_unreachable_iff] at unreached
    omega
  · intro behind
    by_cases somewhere : ∃ place, cursor.FoundAt target place
    · rcases somewhere with ⟨place, found⟩
      rcases found.exists_offset with ⟨offset, measured, value⟩
      have notAfter := behind place found
      rw [measured, Distance.ofOffset_eq_unreachable_iff]
      omega
    · exact distanceTo_of_not_foundAt (not_exists.1 somewhere)

/-! ### Walking -/

/-- A cursor that moves towards a text, and not past it, still finds it where it was found. -/
theorem FoundAt.moveTo (found : cursor.FoundAt target place) {reached : Offset}
    (onward : cursor.position.value ≤ reached.value) (notPast : reached.value ≤ place) :
    (cursor.moveTo reached).FoundAt target place := by
  cases found with
  | nearest clipped =>
      apply FoundAt.nearest
      change place = max 0 (min reached.value cursor.length)
      omega
  | least nonempty notBefore stands least =>
      apply FoundAt.least nonempty
      · rw [position_moveTo]
        omega
      · exact stands
      · intro other otherNotBefore otherStands
        rw [position_moveTo] at otherNotBefore
        exact least other (by omega) otherStands

theorem FoundAt.standsHere (found : cursor.FoundAt target place)
    (here : cursor.position.value = place) : cursor.standsHere target = true := by
  rw [standsHere_iff, here]
  cases found with
  | nearest clipped => exact Or.inl rfl
  | least nonempty notBefore stands least => exact stands

/-- A text that is not empty does not stand at a cursor before the place where it is found. -/
theorem FoundAt.not_standsHere (found : cursor.FoundAt target place) (nonempty : target ≠ [])
    (before : cursor.position.value < place) : cursor.standsHere target = false := by
  rw [← Bool.not_eq_true, standsHere_iff]
  intro stands
  cases found with
  | nearest clipped => exact absurd rfl nonempty
  | least _ notBefore _ least =>
      by_cases inside : 0 ≤ cursor.position.value
      · have notAfter := least _ (by omega) stands
        omega
      · exact Text.not_standsAt_of_outside nonempty (by omega) stands

theorem FoundAt.moveBy (found : cursor.FoundAt target place) {delta : Offset}
    (forward : 0 ≤ delta.value) (notPast : cursor.position.value + delta.value ≤ place) :
    (cursor.moveBy delta).position.value = cursor.position.value + delta.value ∧
      (cursor.moveBy delta).FoundAt target place := by
  have inside := found.le_length
  have fits := cursor.length_lt
  have least := cursor.position.least_le
  have moved : (cursor.position + delta).value = cursor.position.value + delta.value := by
    rw [Offset.value_add]
    omega
  exact ⟨moved, found.moveTo (by omega) (by omega)⟩

/-- On the way to a text every character that is passed makes the distance less by one. -/
theorem distanceTo_moveBy (found : cursor.FoundAt target place)
    (inRange : place - cursor.position.value ≤ 9223372036854775807)
    (measured : cursor.distanceTo (.text target) = .chars count) {delta : Offset}
    (forward : 0 ≤ delta.value) (notPast : delta.value ≤ count) :
    (cursor.moveBy delta).distanceTo (.text target) = .chars (count - delta.value.toNat) ∧
      (target ≠ [] → (cursor.moveBy delta).standsHere target = false) := by
  rcases distanceTo_eq_chars_iff.1 measured with ⟨other, otherFound, after, counted⟩
  rw [found.eq otherFound] at after counted
  rcases found.moveBy forward (by omega) with ⟨moved, stillFound⟩
  refine ⟨?_, ?_⟩
  · exact distanceTo_eq_chars_iff.2 ⟨place, stillFound, by omega, by omega⟩
  · intro nonempty
    exact stillFound.not_standsHere nonempty (by omega)

/--
The distance to a text is the number of characters between the cursor and the place after it where
the text is found, and at most the greatest offset less one. A text that is found nowhere after the
cursor is out of reach. Unless the distance has come up against that bound, a cursor that moves by
no more than the distance has so much less to go and does not stand at the text; it does when it
moves by one character more than the distance.
-/
theorem distanceTo_exact (cursor : Cursor) (target : Text) :
    (∀ count : Nat, cursor.distanceTo (.text target) = .chars count ↔
      ∃ place, cursor.FoundAt target place ∧ cursor.position.value < place ∧
        (count : Int) = min (place - cursor.position.value) 9223372036854775807 - 1) ∧
    (cursor.distanceTo (.text target) = .unreachable ↔
      ∀ place, cursor.FoundAt target place → place ≤ cursor.position.value) ∧
    ∀ place, cursor.FoundAt target place →
      place - cursor.position.value ≤ 9223372036854775807 →
      ∀ count : Nat, cursor.distanceTo (.text target) = .chars count →
        (∀ delta : Offset, 0 ≤ delta.value → delta.value ≤ count →
          (cursor.moveBy delta).distanceTo (.text target) =
            .chars (count - delta.value.toNat) ∧
          (target ≠ [] → (cursor.moveBy delta).standsHere target = false)) ∧
        ∃ delta : Offset, delta.value = count + 1 ∧
          (cursor.moveBy delta).standsHere target = true := by
  refine ⟨fun count => distanceTo_eq_chars_iff, distanceTo_eq_unreachable_iff, ?_⟩
  intro place found inRange count measured
  constructor
  · intro delta forward notPast
    exact distanceTo_moveBy found inRange measured forward notPast
  · rcases distanceTo_eq_chars_iff.1 measured with ⟨other, otherFound, after, counted⟩
    rw [found.eq otherFound] at after counted
    have value : (Offset.clamp (count + 1)).value = count + 1 := by
      apply Offset.value_clamp_of_fits <;> omega
    have forward : 0 ≤ (Offset.clamp (count + 1)).value := by omega
    rcases found.moveBy forward (by omega) with ⟨moved, stillFound⟩
    exact ⟨.clamp (count + 1), value, stillFound.standsHere (by omega)⟩

/-- Places before the source count as characters. -/
theorem distanceTo_exact_beforeSource :
    Cursor.FoundAt ⟨['x', 'a', 'b'], .clamp (-2), by decide⟩ ['a', 'b'] 1 ∧
      Cursor.distanceTo ⟨['x', 'a', 'b'], .clamp (-2), by decide⟩ (.text ['a', 'b']) = .chars 2 ∧
      Cursor.distanceTo (Cursor.moveBy ⟨['x', 'a', 'b'], .clamp (-2), by decide⟩ (.clamp 2))
        (.text ['a', 'b']) = .chars 0 ∧
      ∃ delta : Offset, delta.value = 3 ∧
        Cursor.standsHere (Cursor.moveBy ⟨['x', 'a', 'b'], .clamp (-2), by decide⟩ delta)
          ['a', 'b'] = true := by
  have found : Cursor.FoundAt ⟨['x', 'a', 'b'], .clamp (-2), by decide⟩ ['a', 'b'] 1 := by
    apply FoundAt.least (by decide) (by decide)
    · exact Or.inr (by decide)
    · intro other notBefore stands
      by_contra earlier
      have atLeast : max (-2) 0 ≤ other := notBefore
      have first : other = 0 := by omega
      rw [first, ← Text.segment_eq_iff_standsAt] at stands
      exact absurd stands (by decide)
  rcases distanceTo_exact ⟨['x', 'a', 'b'], .clamp (-2), by decide⟩ ['a', 'b'] with
    ⟨measured, -, walked⟩
  have distance := (measured 2).2 ⟨1, found, by decide, by decide⟩
  rcases walked 1 found (by decide) 2 distance with ⟨onTheWay, arrived⟩
  exact ⟨found, distance, (onTheWay (.clamp 2) (by decide) (by decide)).1, arrived⟩

end Cursor

end TextCursor

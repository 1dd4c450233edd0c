import TextCursor.Cursor.Checked
import TextCursor.Proofs.Cursor.Searching

/-!
# Cursors that keep to their bounds

The operations of a cursor are total, and nothing in them shows why. `Checked` does them by steps
that can fail, and every checked operation comes out as the operation itself, on every cursor that
there is: its type says that the places of the source have offsets, and a position that is kept
between the first of them and the last is in order with every other one.
-/

namespace TextCursor

theorem Offset.value_clamp_natCast {count : Nat} (fits : count < 9223372036854775808) :
    (clamp count).value = count :=
  value_clamp_of_fits (by omega) (by omega)

namespace Checked

theorem offset_eq {number : Nat} (fits : number < 9223372036854775808) :
    offset number = .ok (.clamp number) := by
  rw [offset, Offset.ofInt?_eq_some_iff.2 (Offset.value_clamp_natCast fits), require]

theorem count_eq {place : Offset} (notNegative : 0 ≤ place.value) :
    count place = .ok place.value.toNat := by
  have number : place.toNat? = some place.value.toNat :=
    Offset.toNat?_eq_some_iff.2 (Int.toNat_of_nonneg notNegative)
  rw [count, number, require]

/-- An offset that is below another number of its range has a next one. -/
theorem next_eq {place : Offset} (below : place.value < 9223372036854775807) :
    next place = .ok (place.forward 1) := by
  have value : (place.forward 1).value = place.value + 1 := by
    have least := place.least_le
    rw [Offset.value_forward]
    omega
  rw [next, Offset.ofInt?_eq_some_iff.2 value, require]

variable (cursor : Cursor)

/-! ### Places and parts of the source -/

@[simp]
theorem stop_eq : stop cursor = .ok cursor.stop := by
  have fits := cursor.length_lt
  have exact : Offset.clamp cursor.length = cursor.stop :=
    Offset.ext (Offset.value_clamp_natCast fits)
  rw [stop, offset_eq fits, exact]

@[simp]
theorem atEnd_eq : atEnd cursor = .ok cursor.atEnd := by
  rw [atEnd, stop_eq]
  rfl

/-- The bounds are in order, and what is kept between them is not negative. -/
@[simp]
theorem clip_eq (place : Offset) : clip cursor place = .ok (place.clip cursor.length) := by
  have stopValue : cursor.stop.value = cursor.length := rfl
  simp only [clip, stop_eq, ok_bind, confine, Offset.value_zero, stopValue]
  rw [if_neg (by omega)]
  split
  · next negative =>
      rw [ok_bind, count_eq (by simp), Offset.value_zero, Offset.clip]
      congr 1
      omega
  split
  · next above =>
      rw [ok_bind, count_eq (by omega), stopValue, Offset.clip]
      congr 1
      omega
  · rw [ok_bind, count_eq (by omega), Offset.clip]
    congr 1
    omega

/-- The first place of a window is not after the place that follows its last one. -/
theorem clip_le_clip_forward (start : Offset) (count limit : Nat) :
    start.clip limit ≤ (start.forward count).clip limit := by
  apply Offset.clip_mono
  have below := start.value_lt
  have least := start.least_le
  rw [Offset.value_forward]
  omega

@[simp]
theorem window_eq (start : Offset) (count : Nat) :
    window cursor start count = .ok (cursor.window start count) := by
  have inside := (start.forward count).clip_le cursor.length
  rw [window, clip_eq, ok_bind, clip_eq, ok_bind,
    part_eq (clip_le_clip_forward start count cursor.length) inside]
  rfl

theorem between_eq {start stop : Offset} (ordered : start.value ≤ stop.value)
    (near : stop.value - start.value < 9223372036854775808) :
    between cursor start stop = .ok (cursor.between start stop) := by
  have difference : (stop - start).value = stop.value - start.value := by
    rw [Offset.value_sub]
    omega
  have number : (stop - start).toNat? = some (stop.value - start.value).toNat := by
    rw [Offset.toNat?_eq_some_iff]
    omega
  have reached : start.value + (stop.value - start.value).toNat = stop.value := by omega
  rw [between, number, Option.getD_some, window_eq, Cursor.window_eq_segment, reached,
    Cursor.between_eq_segment]

@[simp]
theorem remaining_eq : remaining cursor = .ok cursor.remaining := by
  rw [remaining, window_eq, Cursor.remaining_eq_window, Cursor.window_eq_segment,
    Cursor.window_eq_segment, Text.segment, Text.segment, Offset.value_max, Offset.value_zero]
  congr 1
  apply Text.select_congr
  intro place inside
  have fits := cursor.source_fits
  have least := cursor.position.least_le
  rw [decide_eq_decide]
  omega

@[simp]
theorem standsHere_eq (target : Text) :
    standsHere cursor target = .ok (cursor.standsHere target) := by
  rw [standsHere, window_eq]
  rfl

@[simp]
theorem standsBefore_eq (target : Text) :
    standsBefore cursor target = .ok (cursor.standsBefore target) := by
  rw [standsBefore, window_eq]
  rfl

@[simp]
theorem standsAfter_eq (target : Text) :
    standsAfter cursor target = .ok (cursor.standsAfter target) := by
  rw [standsAfter, window_eq]
  rfl

/-! ### Searches -/

/-- What the windows on a text show first is what a search in the text finds. -/
theorem findIdx?_windows {target : Text} (nonempty : target ≠ []) (text : Text) :
    ((List.range (text.length + 1 - target.length)).map
      fun first => (text.drop first).take target.length).findIdx? (· == target) =
        Text.indexOf? target text := by
  have positive := List.length_pos_iff.2 nonempty
  have shows : ∀ first : Nat, ((text.drop first).take target.length == target) = true ↔
      target <+: text.drop first := by
    intro first
    rw [beq_iff_eq, List.prefix_iff_eq_take]
    exact eq_comm
  cases found : Text.indexOf? target text with
  | none =>
      rw [List.findIdx?_eq_none_iff]
      intro window mem
      rcases List.mem_map.1 mem with ⟨first, -, rfl⟩
      rw [← Bool.not_eq_true, shows]
      exact Text.indexOf?_eq_none_iff.1 found first
  | some index =>
      rcases Text.indexOf?_eq_some_iff.1 found with ⟨leads, least⟩
      have inside := leads.length_le
      rw [List.length_drop] at inside
      rw [List.findIdx?_eq_some_iff_getElem]
      refine ⟨by simp; omega, ?_, ?_⟩
      · rw [List.getElem_map, List.getElem_range, shows]
        exact leads
      · intro earlier before
        rw [List.getElem_map, List.getElem_range, shows]
        exact least earlier before

@[simp]
theorem find?_eq (target : Text) : find? cursor target = .ok (cursor.find? target) := by
  have start := cursor.position.clip_le cursor.length
  rw [find?, clip_eq, ok_bind]
  by_cases empty : target = []
  · rw [empty, if_pos List.isEmpty_nil, Cursor.find?_nil]
    rfl
  · have suffix : part cursor.source (cursor.position.clip cursor.length) cursor.length =
        .ok (cursor.source.drop (cursor.position.clip cursor.length)) := by
      rw [part_eq start (Nat.le_refl _), Cursor.length, List.take_length]
    rw [if_neg (by simpa using empty), suffix, ok_bind, windows, if_neg (by simpa using empty),
      ok_bind, findIdx?_windows empty, Cursor.find?]
    cases found : Text.indexOf? target
        (cursor.source.drop (cursor.position.clip cursor.length)) with
    | none => rfl
    | some index =>
        have inside := Text.indexOf?_le found
        have fits := cursor.source_fits
        rw [List.length_drop] at inside
        rw [Cursor.length] at start
        dsimp only
        rw [sum_eq (by rw [Cursor.length]; omega)]
        rfl

/-- What is found has an offset. -/
theorem offset_of_find? {target : Text} {index : Nat}
    (found : cursor.find? target = some index) : offset index = .ok (.clamp index) := by
  have inside := (Cursor.find?_bounds found).2
  have fits := cursor.length_lt
  exact offset_eq (by omega)

@[simp]
theorem distanceTo_eq (landmark : Landmark) :
    distanceTo cursor landmark = .ok (cursor.distanceTo landmark) := by
  cases landmark with
  | beginning => rfl
  | ending =>
      rw [distanceTo, stop_eq]
      rfl
  | text target =>
      rw [distanceTo, find?_eq, ok_bind, Cursor.distanceTo]
      cases found : cursor.find? target with
      | none => rfl
      | some index =>
          dsimp only
          rw [offset_of_find? cursor found]
          rfl

@[simp]
theorem closest_eq (targets : List Text) :
    closest cursor targets = .ok (cursor.closest targets) := by
  have each : (fun target => do return (target, ← distanceTo cursor (.text target))) =
      fun target => (pure (target, cursor.distanceTo (.text target)) : Checked _) := by
    funext target
    rw [distanceTo_eq]
    rfl
  rw [closest, each, List.mapM_pure]
  rfl

@[simp]
theorem jumpTo_eq (target : Text) : jumpTo cursor target = .ok (cursor.jumpTo target) := by
  rw [jumpTo, find?_eq, ok_bind, Cursor.jumpTo]
  cases found : cursor.find? target with
  | none => rfl
  | some index =>
      dsimp only
      rw [offset_of_find? cursor found]
      rfl

/-! ### Extraction -/

/-- A segment that would end before it starts is as empty as one that has no width. -/
theorem segment_of_width {lower : Int} (notNegative : 0 ≤ lower) (text : Text) (upper : Nat) :
    text.segment lower (lower + (upper - lower.toNat : Nat)) = text.segment lower upper := by
  by_cases ordered : lower ≤ upper
  · have same : lower + (upper - lower.toNat : Nat) = upper := by omega
    rw [same]
  · have nothing : ∀ stop : Int, stop ≤ lower → text.segment lower stop = [] := by
      intro stop before
      rw [← List.length_eq_zero_iff, Text.length_segment]
      omega
    rw [nothing _ (by omega), nothing _ (by omega)]

@[simp]
theorem getUntil_eq (target : Text) : getUntil cursor target = .ok (cursor.getUntil target) := by
  rw [getUntil, find?_eq, ok_bind]
  cases found : cursor.find? target with
  | none =>
      rw [Cursor.getUntil, found]
      rfl
  | some index =>
      have start : (max cursor.position 0).value = max cursor.position.value 0 :=
        Offset.value_max ..
      dsimp only
      rw [count_eq (by omega), ok_bind, window_eq, ok_bind, offset_of_find? cursor found, ok_bind,
        Cursor.window_eq_segment, Cursor.getUntil_of_find? found, start]
      congr 3
      exact segment_of_width (by omega) cursor.source index

@[simp]
theorem slice_eq (length : Offset) : slice cursor length = .ok (cursor.slice length) := by
  rw [slice, Cursor.slice]
  cases length.toNat? with
  | none => rfl
  | some count =>
      dsimp only
      rw [window_eq]
      rfl

@[simp]
theorem sliceToEnd_eq : sliceToEnd cursor = .ok cursor.sliceToEnd := by
  rw [sliceToEnd, window_eq, ← Cursor.remaining_eq_window, ok_bind, stop_eq]
  rfl

end Checked

end TextCursor

import Mathlib.Data.List.NodupEquivFin
import Mathlib.Data.List.Sort
import TextCursor.Proofs.Cursor.Distances

/-!
# Ranking texts

A ranking sorts texts by their distances. `Ranking.rank_lt_iff` says for any sort that keeps the
order of equals which item comes where: there is one place for each item, and an item is placed
before another one if its key is less, or if the keys are the same and it was given first. For
texts, the keys are distances, and a distance that has not come up against the greatest offset is as
great as the place of the text is far, so texts are ranked by where they are found.
-/

namespace TextCursor

namespace Distance

variable {left right other : Distance}

theorem chars_le_chars_iff {left right : Nat} : chars left ≤ chars right ↔ left ≤ right :=
  decide_eq_true_iff

theorem le_unreachable (distance : Distance) : distance ≤ unreachable := by
  cases distance <;> rfl

theorem not_unreachable_le_chars (count : Nat) : ¬unreachable ≤ chars count :=
  Bool.false_ne_true

protected theorem le_refl (distance : Distance) : distance ≤ distance := by
  cases distance with
  | chars count => exact chars_le_chars_iff.2 (Nat.le_refl count)
  | unreachable => exact le_unreachable _

protected theorem le_trans (first : left ≤ right) (second : right ≤ other) : left ≤ other := by
  cases other with
  | unreachable => exact le_unreachable left
  | chars count =>
      cases right with
      | unreachable => exact absurd second (not_unreachable_le_chars count)
      | chars between =>
          cases left with
          | unreachable => exact absurd first (not_unreachable_le_chars between)
          | chars least =>
              rw [chars_le_chars_iff] at first second ⊢
              exact Nat.le_trans first second

protected theorem le_total (left right : Distance) : left ≤ right ∨ right ≤ left := by
  cases left with
  | unreachable => exact Or.inr (le_unreachable right)
  | chars first =>
      cases right with
      | unreachable => exact Or.inl (le_unreachable _)
      | chars second =>
          rw [chars_le_chars_iff, chars_le_chars_iff]
          exact Nat.le_total first second

theorem isReachable_iff {distance : Distance} :
    distance.isReachable = true ↔ ∃ count, distance = chars count := by
  cases distance <;> simp [isReachable, count?]

end Distance

/-! ### Sorting by keys -/

namespace Ranking

variable {Item Key : Type} (le : Key → Key → Bool) (key : Item → Key) (items : List Item)

/-- The indices of some items in the order in which a sort by keys has the items. -/
def order : List (Fin items.length) :=
  (List.finRange items.length).mergeSort fun i j => le (key items[i]) (key items[j])

theorem order_perm : (order le key items).Perm (List.finRange items.length) :=
  List.mergeSort_perm _ _

theorem nodup_order : (order le key items).Nodup :=
  (order_perm le key items).nodup_iff.2 (List.nodup_finRange _)

theorem mem_order (i : Fin items.length) : i ∈ order le key items :=
  (order_perm le key items).mem_iff.2 (List.mem_finRange i)

theorem length_order : (order le key items).length = items.length := by
  rw [(order_perm le key items).length_eq, List.length_finRange]

theorem map_order : (order le key items).map (fun i => key items[i]) =
    (items.map key).mergeSort le := by
  have given : (List.finRange items.length).map (fun i => key items[i]) = items.map key := by
    conv_rhs => rw [← List.map_getElem_finRange items]
    rw [List.map_map]
    rfl
  rw [← given, order]
  apply List.map_mergeSort
  intro i _ j _
  rfl

/-- The place that each item has after a sort by keys. -/
def rank : Equiv.Perm (Fin items.length) :=
  ((nodup_order le key items).getEquivOfForallMemList _ (mem_order le key items)).symm.trans
    (finCongr (length_order le key items))

theorem val_rank (i : Fin items.length) :
    (rank le key items i).val = (order le key items).idxOf i := rfl

theorem getElem?_rank (i : Fin items.length) :
    ((items.map key).mergeSort le)[(rank le key items i).val]? = some (key items[i]) := by
  rw [← map_order, List.getElem?_map, val_rank, List.getElem?_idxOf (mem_order le key items i)]
  rfl

/-- In a list without repetitions, what comes first has the smaller index. -/
theorem pairwise_idxOf {indices : List (Fin items.length)} (distinct : indices.Nodup) :
    indices.Pairwise fun i j => indices.idxOf i < indices.idxOf j := by
  rw [List.pairwise_iff_getElem]
  intro first second firstInside secondInside ordered
  rwa [distinct.idxOf_getElem, distinct.idxOf_getElem]

variable {le key items} (trans : ∀ a b c, le a b = true → le b c = true → le a c = true)
  (total : ∀ a b, (le a b || le b a) = true) {i j : Fin items.length}

include trans total

theorem le_of_rank_lt (before : rank le key items i < rank le key items j) :
    le (key items[i]) (key items[j]) = true := by
  have sorted : (order le key items).Pairwise fun i j =>
      le (key items[i]) (key items[j]) = true := by
    apply List.pairwise_mergeSort
    · intro a b c
      exact trans _ _ _
    · intro a b
      exact total _ _
  have inOrder := List.pairwise_iff_getElem.1 sorted _ _
    (List.idxOf_lt_length_iff.2 (mem_order le key items i))
    (List.idxOf_lt_length_iff.2 (mem_order le key items j)) before
  rwa [List.getElem_idxOf, List.getElem_idxOf] at inOrder

/-- What is not greater and was given first stays before the other. -/
theorem rank_lt_of_lt (notGreater : le (key items[i]) (key items[j]) = true) (first : i < j) :
    rank le key items i < rank le key items j := by
  have given : [i, j].Sublist (List.finRange items.length) := by
    apply List.sublist_of_subperm_of_pairwise (r := (· < ·))
    · exact List.subperm_of_subset (by simp [first.ne]) (by simp)
    · exact List.pairwise_pair.2 first
    · exact List.pairwise_lt_finRange _
  have kept : [i, j].Sublist (order le key items) := by
    refine List.pair_sublist_mergeSort ?_ ?_ ?_ given
    · intro a b c
      exact trans _ _ _
    · intro a b
      exact total _ _
    · exact notGreater
  exact List.pairwise_iff_forall_sublist.1 (pairwise_idxOf items (nodup_order le key items)) kept

/--
An item is placed before another one exactly if its key is strictly less, or if it is not greater
and the item was given first.
-/
theorem rank_lt_iff :
    rank le key items i < rank le key items j ↔
      le (key items[j]) (key items[i]) = false ∨
        le (key items[i]) (key items[j]) = true ∧ i < j := by
  constructor
  · intro before
    cases strictly : le (key items[j]) (key items[i]) with
    | false => exact Or.inl rfl
    | true =>
        refine Or.inr ⟨le_of_rank_lt trans total before, ?_⟩
        by_contra notFirst
        rcases Fin.lt_or_eq_of_le (Fin.not_lt.1 notFirst) with after | same
        · exact Fin.lt_asymm before (rank_lt_of_lt trans total strictly after)
        · rw [same] at before
          exact Fin.lt_irrefl _ before
  · rintro (strictly | ⟨notGreater, first⟩)
    · by_contra notBefore
      rcases Fin.lt_or_eq_of_le (Fin.not_lt.1 notBefore) with after | same
      · have notGreater := le_of_rank_lt trans total after
        rw [strictly] at notGreater
        cases notGreater
      · have reflexive := total (key items[i]) (key items[i])
        rw [(rank le key items).injective same, Bool.or_self] at reflexive
        rw [(rank le key items).injective same, reflexive] at strictly
        cases strictly
    · exact rank_lt_of_lt trans total notGreater first

end Ranking

namespace Cursor

variable {cursor : Cursor} {target other : Text}

theorem le_trans_distance (a b c : Text × Distance) :
    decide (a.2 ≤ b.2) = true → decide (b.2 ≤ c.2) = true → decide (a.2 ≤ c.2) = true := by
  simp only [decide_eq_true_eq]
  exact Distance.le_trans

theorem le_total_distance (a b : Text × Distance) :
    (decide (a.2 ≤ b.2) || decide (b.2 ≤ a.2)) = true := by
  simp only [Bool.or_eq_true, decide_eq_true_eq]
  exact Distance.le_total a.2 b.2

/-- Each text has a place in the ranking, where it stands with its distance. -/
theorem exists_rank (cursor : Cursor) (targets : List Text) :
    ∃ rank : Equiv.Perm (Fin targets.length),
      (∀ i : Fin targets.length, (cursor.closest targets)[(rank i).val]? =
        some (targets[i], cursor.distanceTo (.text targets[i]))) ∧
      ∀ i j : Fin targets.length, rank i < rank j ↔
        ¬cursor.distanceTo (.text targets[j]) ≤ cursor.distanceTo (.text targets[i]) ∨
          cursor.distanceTo (.text targets[i]) ≤ cursor.distanceTo (.text targets[j]) ∧ i < j := by
  refine ⟨Ranking.rank (fun left right : Text × Distance => left.2 ≤ right.2)
    (fun target => (target, cursor.distanceTo (.text target))) targets, ?_, ?_⟩
  · intro i
    exact Ranking.getElem?_rank _ _ targets i
  · intro i j
    rw [Ranking.rank_lt_iff le_trans_distance le_total_distance]
    simp only [decide_eq_true_eq, decide_eq_false_iff_not]

/-- The distance to a text that is within reach and less than the greatest offset away. -/
theorem exists_foundAt_of_isReachable
    (inRange : cursor.length - 9223372036854775807 ≤ cursor.position.value)
    (reachable : (cursor.distanceTo (.text target)).isReachable = true) :
    ∃ (place : Int) (count : Nat), cursor.FoundAt target place ∧
      cursor.distanceTo (.text target) = .chars count ∧
      (count : Int) = place - cursor.position.value - 1 := by
  rcases Distance.isReachable_iff.1 reachable with ⟨count, measured⟩
  rcases distanceTo_eq_chars_iff.1 measured with ⟨place, found, after, counted⟩
  have inside := found.le_length
  exact ⟨place, count, found, measured, by omega⟩

/--
A ranking has every text that is given, as often as it is given, together with its distance. The
distances never decrease, and those out of reach come last. Texts at equal distances keep the order
in which they are given. As long as no distance comes up against the greatest offset, of two texts
within reach the one that is found earlier comes first, and the one given first if they are found
at the same place.
-/
theorem closest_stable (cursor : Cursor) (targets : List Text) :
    (cursor.closest targets).Perm
      (targets.map fun target => (target, cursor.distanceTo (.text target))) ∧
    (cursor.closest targets).Pairwise (fun left right => left.2 ≤ right.2) ∧
    ∃ rank : Equiv.Perm (Fin targets.length),
      (∀ i : Fin targets.length, (cursor.closest targets)[(rank i).val]? =
        some (targets[i], cursor.distanceTo (.text targets[i]))) ∧
      (∀ i j : Fin targets.length, (cursor.distanceTo (.text targets[i])).isReachable = true →
        (cursor.distanceTo (.text targets[j])).isReachable = false → rank i < rank j) ∧
      (∀ i j : Fin targets.length,
        cursor.distanceTo (.text targets[i]) = cursor.distanceTo (.text targets[j]) →
        (rank i < rank j ↔ i < j)) ∧
      (cursor.length - 9223372036854775807 ≤ cursor.position.value →
        ∀ i j : Fin targets.length, (cursor.distanceTo (.text targets[i])).isReachable = true →
          (cursor.distanceTo (.text targets[j])).isReachable = true →
          ∃ p q, cursor.FoundAt targets[i] p ∧ cursor.FoundAt targets[j] q ∧
            (rank i < rank j ↔ p < q ∨ p = q ∧ i < j)) := by
  refine ⟨List.mergeSort_perm _ _, ?_, ?_⟩
  · have sorted := List.pairwise_mergeSort le_trans_distance le_total_distance
      (targets.map fun target => (target, cursor.distanceTo (.text target)))
    simp only [decide_eq_true_eq] at sorted
    exact sorted
  rcases cursor.exists_rank targets with ⟨rank, entry, placed⟩
  refine ⟨rank, entry, ?_, ?_, ?_⟩
  · intro i j reachable unreachable
    rw [placed]
    rcases Distance.isReachable_iff.1 reachable with ⟨count, measured⟩
    cases last : cursor.distanceTo (.text targets[j]) with
    | chars other =>
        rw [last] at unreachable
        cases unreachable
    | unreachable =>
        rw [measured]
        exact Or.inl (Distance.not_unreachable_le_chars count)
  · intro i j same
    rw [placed, same]
    simp only [Distance.le_refl, not_true_eq_false, true_and, false_or]
  · intro inRange i j reachable otherReachable
    rcases exists_foundAt_of_isReachable inRange reachable with
      ⟨p, count, found, measured, counted⟩
    rcases exists_foundAt_of_isReachable inRange otherReachable with
      ⟨q, otherCount, otherFound, otherMeasured, otherCounted⟩
    refine ⟨p, q, found, otherFound, ?_⟩
    rw [placed, measured, otherMeasured, Distance.chars_le_chars_iff, Distance.chars_le_chars_iff]
    omega

/-- A text that is given twice has two places, and one that is not there comes after all others. -/
theorem closest_stable_repeated :
    ((3 : Nat) : Int) - 9223372036854775807 ≤ (0 : Offset).value ∧
      ∃ rank : Equiv.Perm (Fin 4),
        (∀ i : Fin 4, (Cursor.closest ⟨['x', 'a', 'b'], 0, by decide⟩
            [['b'], ['z'], ['b'], ['a']])[(rank i).val]? =
          some ([['b'], ['z'], ['b'], ['a']][i],
            Cursor.distanceTo ⟨['x', 'a', 'b'], 0, by decide⟩
              (.text [['b'], ['z'], ['b'], ['a']][i]))) ∧
        rank 3 < rank 0 ∧ rank 0 < rank 2 ∧ rank 2 < rank 1 := by
  have inRange : ((3 : Nat) : Int) - 9223372036854775807 ≤ (0 : Offset).value := by decide
  rcases closest_stable ⟨['x', 'a', 'b'], 0, by decide⟩ [['b'], ['z'], ['b'], ['a']] with
    ⟨-, -, rank, entry, unreached, tied, byPlace⟩
  refine ⟨inRange, rank, entry, ?_, ?_, ?_⟩
  · rcases byPlace inRange 3 0 rfl rfl with ⟨p, q, found, otherFound, earlier⟩
    rw [earlier]
    have first : p = (1 : Nat) := (find?_eq_some_iff_foundAt.1 rfl).eq found
    have second : q = (2 : Nat) := (find?_eq_some_iff_foundAt.1 rfl).eq otherFound
    omega
  · exact (tied 0 2 rfl).2 (by decide)
  · exact unreached 2 1 rfl rfl

end Cursor

end TextCursor

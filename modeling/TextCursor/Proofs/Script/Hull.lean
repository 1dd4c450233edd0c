import Mathlib.Data.List.Pairwise
import Mathlib.Order.Bounds.Basic
import Mathlib.Order.Lattice
import TextCursor.Proofs.Script.CheckedRun

/-!
# Hulls

Spans are ordered by what lies in them. The places of a span are those from its start to its stop,
both included, so that a span without bytes is a point and lies wherever its start does. In this
order the hull of two spans is their least upper bound, and spans form a semilattice: a hull of many
spans does not depend on the order in which they are taken. The tokens of a line come one after the
other, so their hull reaches from the start of the first to the stop of the last.
-/

namespace TextCursor

namespace Span

/-- One span lies in another if it does not start before it nor stop after it. -/
instance : LE Span := ⟨fun inner outer => outer.start ≤ inner.start ∧ inner.stop ≤ outer.stop⟩

variable {inner outer left right : Span} {spans others : List Span}

theorem start_le_stop (span : Span) : span.start ≤ span.stop := Nat.le_add_right ..

theorem le_iff : inner ≤ outer ↔ outer.start ≤ inner.start ∧ inner.stop ≤ outer.stop := Iff.rfl

theorem eq_of_bounds (sameStart : left.start = right.start) (sameStop : left.stop = right.stop) :
    left = right := by
  ext
  · exact sameStart
  · simp only [stop] at sameStop
    omega

/-- A span lies in another if all its places do, its start among them if it has no bytes. -/
theorem le_iff_forall_place :
    inner ≤ outer ↔
      ∀ place, inner.start ≤ place → place ≤ inner.stop →
        outer.start ≤ place ∧ place ≤ outer.stop := by
  rw [le_iff]
  constructor
  · rintro ⟨starts, stops⟩ place afterStart beforeStop
    omega
  · intro within
    have ordered := inner.start_le_stop
    exact ⟨(within inner.start (Nat.le_refl _) ordered).1,
      (within inner.stop ordered (Nat.le_refl _)).2⟩

instance : PartialOrder Span where
  le_refl span := ⟨Nat.le_refl _, Nat.le_refl _⟩
  le_trans first second third inSecond inThird := by
    rw [le_iff] at *
    omega
  le_antisymm left right inRight inLeft := by
    rw [le_iff] at *
    apply eq_of_bounds <;> omega

instance : SemilatticeSup Span where
  sup := hull
  le_sup_left left right := by
    rw [le_iff, start_hull, stop_hull]
    omega
  le_sup_right left right := by
    rw [le_iff, start_hull, stop_hull]
    omega
  sup_le left right whole leftInside rightInside := by
    rw [le_iff] at *
    rw [start_hull, stop_hull]
    omega

theorem hull_comm (left right : Span) : left.hull right = right.hull left := sup_comm left right

theorem hull_assoc (first second third : Span) :
    (first.hull second).hull third = first.hull (second.hull third) := sup_assoc first second third

theorem hull_self (span : Span) : span.hull span = span := sup_idem span

/-- A hull has both spans in it, and it lies in every span that has. -/
theorem isLeast_hull (left right : Span) :
    IsLeast {whole | left ≤ whole ∧ right ≤ whole} (left.hull right) :=
  ⟨⟨le_sup_left, le_sup_right⟩, fun _ inside => sup_le inside.1 inside.2⟩

theorem isLUB_hullAll (nonempty : spans ≠ []) : IsLUB {span | span ∈ spans} (hullAll spans) := by
  rcases hullAll_spec nonempty with ⟨contains, ⟨first, firstMem, starts⟩, last, lastMem, stops⟩
  constructor
  · intro span mem
    exact contains span mem
  · intro whole bounds
    have firstInside := bounds firstMem
    have lastInside := bounds lastMem
    rw [le_iff] at *
    omega

/-- Spans have the same hull in every order. -/
theorem hullAll_eq_of_perm (perm : spans.Perm others) : hullAll spans = hullAll others := by
  cases spans with
  | nil => rw [perm.nil_eq]
  | cons first rest =>
      have nonempty : first :: rest ≠ [] := List.cons_ne_nil first rest
      have othersNonempty : others ≠ [] := by
        rintro rfl
        exact nonempty perm.eq_nil
      have sameMembers : {span | span ∈ first :: rest} = {span | span ∈ others} := by
        ext span
        exact perm.mem_iff
      have least := isLUB_hullAll nonempty
      rw [sameMembers] at least
      exact least.unique (isLUB_hullAll othersNonempty)

/-- Spans that come one after the other have a hull from the first of them to the last. -/
theorem bounds_hullAll_of_pairwise (nonempty : spans ≠ [])
    (ordered : spans.Pairwise fun left right => left.stop ≤ right.start) :
    (hullAll spans).start = (spans.head nonempty).start ∧
      (hullAll spans).stop = (spans.getLast nonempty).stop := by
  have headFirst : ∀ span ∈ spans, (spans.head nonempty).start ≤ span.start := by
    have starts : spans.Pairwise fun left right => left.start ≤ right.start :=
      ordered.imp fun {left right} apart => left.start_le_stop.trans apart
    intro span mem
    exact starts.rel_head_of_rel_head_head mem (Nat.le_refl _)
  have lastLast : ∀ span ∈ spans, span.stop ≤ (spans.getLast nonempty).stop := by
    have stops : spans.Pairwise fun left right => left.stop ≤ right.stop :=
      ordered.imp fun {left right} apart => apart.trans right.start_le_stop
    intro span mem
    exact stops.rel_getLast_of_rel_getLast_getLast mem (Nat.le_refl _)
  rcases hullAll_spec nonempty with ⟨contains, ⟨first, firstMem, starts⟩, last, lastMem, stops⟩
  have headContained := contains _ (List.head_mem nonempty)
  have lastContained := contains _ (List.getLast_mem nonempty)
  have headBeforeFirst := headFirst first firstMem
  have lastAfterLast := lastLast last lastMem
  omega

end Span

namespace Script.Line

variable {start : Nat} {text : Text} {line : Line} {tokens : List (Spanned Token)}

theorem pairwise_span_tokens (found : read start text = .ok line) :
    (line.tokens.map Spanned.span).Pairwise fun left right => left.stop ≤ right.start := by
  rcases exists_layout_of_read found with ⟨layout, separated, rfl⟩
  rw [read_text separated] at found
  cases found
  exact List.pairwise_map.2 (layout.pairwise_tokens start)

/-- The span of a line reaches from its first token to its last. -/
theorem bounds_span (found : read start text = .ok line) (nonempty : line.tokens ≠ []) :
    line.span.start = (line.tokens.head nonempty).span.start ∧
      line.span.stop = (line.tokens.getLast nonempty).span.stop := by
  have spansNonempty : line.tokens.map Spanned.span ≠ [] := by simpa using nonempty
  have bounds := Span.bounds_hullAll_of_pairwise spansNonempty (pairwise_span_tokens found)
  rw [List.head_map, List.getLast_map] at bounds
  exact bounds

theorem hullAll_eq_span_of_perm (perm : tokens.Perm line.tokens) :
    Span.hullAll (tokens.map Spanned.span) = line.span :=
  Span.hullAll_eq_of_perm (perm.map Spanned.span)

theorem checkedHull_eq_span_of_perm {first : Spanned Token} {others : List (Spanned Token)}
    (fit : SpansFit line.tokens) (perm : (first :: others).Perm line.tokens) :
    checkedHull first.span others = .ok line.span := by
  have permFit : SpansFit (first :: others) := fun token mem => fit token (perm.mem_iff.1 mem)
  rcases List.forall_mem_cons.1 permFit with ⟨firstFits, othersFit⟩
  rw [checkedHull_eq firstFits othersFit, ← hullAll_eq_span_of_perm perm]
  rfl

end Script.Line

namespace Span

open Script

/--
Hulls of spans with ends of 64 bits have such ends and never fail. They are least upper bounds:
neither the order nor the grouping of spans matters nor does a span that is taken twice, and the
hull of two spans is the least span in which both lie, with all of their places. So the tokens of a
line have one hull, in whatever order they are taken, from the first of them to the last.
-/
theorem hull_exact :
    (∀ left right : Span, left.stop < 18446744073709551616 → right.stop < 18446744073709551616 →
        Checked.hull left right = .ok (left.hull right) ∧
          (left.hull right).stop < 18446744073709551616) ∧
      (∀ left right : Span, left.hull right = right.hull left) ∧
      (∀ first second third : Span,
        (first.hull second).hull third = first.hull (second.hull third)) ∧
      (∀ span : Span, span.hull span = span) ∧
      (∀ left right : Span, IsLeast {whole | left ≤ whole ∧ right ≤ whole} (left.hull right)) ∧
      (∀ inner outer : Span, inner ≤ outer ↔
        ∀ place, inner.start ≤ place → place ≤ inner.stop →
          outer.start ≤ place ∧ place ≤ outer.stop) ∧
      ∀ (start : Nat) (text : Text) (line : Line), Line.read start text = .ok line →
        ∀ nonempty : line.tokens ≠ [],
          line.span.start = (line.tokens.head nonempty).span.start ∧
            line.span.stop = (line.tokens.getLast nonempty).span.stop ∧
            ∀ (first : Spanned Token) (others : List (Spanned Token)),
              (first :: others).Perm line.tokens →
                hullAll ((first :: others).map Spanned.span) = line.span ∧
                  (start + text.utf8Size < 18446744073709551616 →
                    checkedHull first.span others = .ok line.span) := by
  refine ⟨?_, hull_comm, hull_assoc, hull_self, isLeast_hull, ?_, ?_⟩
  · intro left right leftFits rightFits
    refine ⟨Checked.hull_eq leftFits rightFits, ?_⟩
    rw [stop_hull]
    exact max_lt leftFits rightFits
  · intro inner outer
    exact le_iff_forall_place
  · intro start text line found nonempty
    rcases Line.bounds_span found nonempty with ⟨startEq, stopEq⟩
    refine ⟨startEq, stopEq, ?_⟩
    intro first others perm
    refine ⟨Line.hullAll_eq_span_of_perm perm, ?_⟩
    intro fits
    exact Line.checkedHull_eq_span_of_perm (Line.spansFit_tokens found fits) perm

/-- A point that comes after the other span, and the tokens of a line from the last to the first. -/
theorem hull_exact_backward :
    (⟨5, 0⟩ : Span).stop < 18446744073709551616 ∧ (⟨1, 2⟩ : Span).stop < 18446744073709551616 ∧
      Checked.hull ⟨5, 0⟩ ⟨1, 2⟩ = .ok ⟨1, 4⟩ ∧
      Line.read 3 "a \"é\"".toList =
        .ok ⟨[⟨.word ['a'], ⟨3, 1⟩⟩, ⟨.string ['é'], ⟨5, 4⟩⟩], none⟩ ∧
      ([⟨.string ['é'], ⟨5, 4⟩⟩, ⟨.word ['a'], ⟨3, 1⟩⟩] : List (Spanned Token)).Perm
        [⟨.word ['a'], ⟨3, 1⟩⟩, ⟨.string ['é'], ⟨5, 4⟩⟩] ∧
      3 + Text.utf8Size "a \"é\"".toList < 18446744073709551616 ∧
      hullAll [⟨5, 4⟩, ⟨3, 1⟩] = ⟨3, 6⟩ ∧
      checkedHull ⟨5, 4⟩ [⟨.word ['a'], ⟨3, 1⟩⟩] = .ok ⟨3, 6⟩ := by
  have pointFits : (⟨5, 0⟩ : Span).stop < 18446744073709551616 := by decide
  have otherFits : (⟨1, 2⟩ : Span).stop < 18446744073709551616 := by decide
  have separated : (Layout.lexeme (.word 'a' [] (by decide) (List.forall_mem_nil _))
      (.blank ' ' (by decide)
        (.lexeme (.string [.plain 'é' (by decide) (by decide)]) .done))).Separated := by
    refine ⟨?_, trivial, trivial⟩
    simp [Spelling.EndsBefore, Layout.text, isWordPart, isWordStart]
  have found : Line.read 3 "a \"é\"".toList =
      .ok ⟨[⟨.word ['a'], ⟨3, 1⟩⟩, ⟨.string ['é'], ⟨5, 4⟩⟩], none⟩ :=
    Line.read_text separated 3
  have fits : 3 + Text.utf8Size "a \"é\"".toList < 18446744073709551616 := by decide
  have perm : ([⟨.string ['é'], ⟨5, 4⟩⟩, ⟨.word ['a'], ⟨3, 1⟩⟩] : List (Spanned Token)).Perm
      [⟨.word ['a'], ⟨3, 1⟩⟩, ⟨.string ['é'], ⟨5, 4⟩⟩] := List.Perm.swap ..
  rcases hull_exact with ⟨checked, -, -, -, -, -, ofLine⟩
  rcases ofLine 3 _ _ found (List.cons_ne_nil _ _) with ⟨-, -, inOrder⟩
  rcases inOrder _ _ perm with ⟨hull, checkedHull⟩
  exact ⟨pointFits, otherFits, (checked _ _ pointFits otherFits).1, found, perm, fits, hull,
    checkedHull fits⟩

end Span

end TextCursor

import TextCursor.Proofs.Script.Tiling

/-!
# Excerpts

The tokens of a line take up a part of it, from the start of the first one to the end of the last.
That part is a line of its own, which says the same at the same place and expects nothing: what is
cut from the layout of a line is blanks, a comment or an expectation. The hull of the tokens is the
span of this part, since a hull reaches from the least start to the greatest end and no further.
-/

namespace TextCursor

namespace Span

/-- A hull contains every span of a list, and it begins and ends where one of them does. -/
theorem hullAll_spec {spans : List Span} (nonempty : spans ≠ []) :
    (∀ span ∈ spans, (hullAll spans).start ≤ span.start ∧ span.stop ≤ (hullAll spans).stop) ∧
      (∃ span ∈ spans, span.start = (hullAll spans).start) ∧
      ∃ span ∈ spans, span.stop = (hullAll spans).stop := by
  cases spans with
  | nil => exact absurd rfl nonempty
  | cons first rest =>
      induction rest generalizing first with
      | nil => simp [hullAll]
      | cons second rest ih =>
          have folded : hullAll (first :: second :: rest) = hullAll (first.hull second :: rest) :=
            rfl
          rw [folded]
          rcases ih (first.hull second) (by simp) with ⟨contains, starts, stops⟩
          simp only [List.mem_cons, forall_eq_or_imp, exists_eq_or_imp, start_hull,
            stop_hull] at contains starts stops ⊢
          rcases contains with ⟨inHull, inRest⟩
          refine ⟨⟨by omega, by omega, inRest⟩, ?_, ?_⟩
          · rcases starts with here | there
            · omega
            · exact Or.inr (Or.inr there)
          · rcases stops with here | there
            · omega
            · exact Or.inr (Or.inr there)

/-- A span is the hull of spans inside of it that reach its start and its end. -/
theorem hullAll_eq {spans : List Span} {whole : Span}
    (starts : ∃ span ∈ spans, span.start = whole.start)
    (stops : ∃ span ∈ spans, span.stop = whole.stop)
    (inside : ∀ span ∈ spans, whole.start ≤ span.start ∧ span.stop ≤ whole.stop) :
    hullAll spans = whole := by
  rcases starts with ⟨first, firstMem, firstStart⟩
  rcases stops with ⟨last, lastMem, lastStop⟩
  rcases hullAll_spec (List.ne_nil_of_mem firstMem) with
    ⟨contains, ⟨left, leftMem, leftStart⟩, ⟨right, rightMem, rightStop⟩⟩
  have firstContained := contains first firstMem
  have lastContained := contains last lastMem
  have leftInside := inside left leftMem
  have rightInside := inside right rightMem
  have sameStop : (hullAll spans).stop = whole.stop := by omega
  ext
  · omega
  · simp only [stop] at *
    omega

end Span

namespace Script

namespace Layout

/-- The layout without the blanks at its start. -/
def trimStart : Layout → Layout
  | blank _ _ rest => rest.trimStart
  | layout => layout

/-- The layout without what comes after its last lexeme. -/
def trimEnd : Layout → Layout
  | done => done
  | comment _ => done
  | expectation _ => done
  | blank c spacing rest => if rest.tokens.isEmpty then done else blank c spacing rest.trimEnd
  | lexeme spelling rest => lexeme spelling rest.trimEnd

variable {layout : Layout}

theorem tokens_line_eq_nil_iff (start : Nat) :
    (layout.line start).tokens = [] ↔ layout.tokens = [] := by
  rw [← value_tokens_line layout start, List.map_eq_nil_iff]

theorem trimEnd_of_tokens_eq_nil (empty : layout.tokens = []) : layout.trimEnd = done := by
  cases layout with
  | done => rfl
  | comment remark => rfl
  | expectation expected => rfl
  | blank c spacing rest =>
      rw [trimEnd, if_pos]
      exact List.isEmpty_iff.2 empty
  | lexeme spelling rest => cases empty

theorem text_trimEnd_leads (layout : Layout) : layout.trimEnd.text <+: layout.text := by
  induction layout with
  | done => exact List.prefix_refl _
  | comment remark => exact List.nil_prefix
  | expectation expected => exact List.nil_prefix
  | blank c spacing rest ih =>
      rw [trimEnd]
      split
      · exact List.nil_prefix
      · exact (List.prefix_cons_inj c).2 ih
  | lexeme spelling rest ih => exact (List.prefix_append_right_inj spelling.text).2 ih

theorem separated_trimEnd (separated : layout.Separated) : layout.trimEnd.Separated := by
  induction layout with
  | done => trivial
  | comment remark => trivial
  | expectation expected => trivial
  | blank c spacing rest ih =>
      rw [trimEnd]
      split
      · trivial
      · exact ih separated
  | lexeme spelling rest ih =>
      exact ⟨Spelling.endsBefore_of_leads rest.text_trimEnd_leads separated.1, ih separated.2⟩

theorem line_trimEnd (layout : Layout) (start : Nat) :
    layout.trimEnd.line start = ⟨(layout.line start).tokens, none⟩ := by
  induction layout generalizing start with
  | done => rfl
  | comment remark => rfl
  | expectation expected => rfl
  | blank c spacing rest ih =>
      rw [trimEnd]
      split
      · next empty =>
          rw [List.isEmpty_iff] at empty
          have none := (tokens_line_eq_nil_iff (start + c.utf8Size)).2 empty
          simp only [line, none]
      · exact ih (start + c.utf8Size)
  | lexeme spelling rest ih =>
      simp only [trimEnd, line, ih]
      rfl

/-- Without what comes after it, a line ends where its last token does. -/
theorem exists_stop_of_tokens_ne_nil (nonempty : layout.tokens ≠ []) (start : Nat) :
    ∃ token ∈ (layout.line start).tokens,
      token.span.stop = start + layout.trimEnd.text.utf8Size := by
  induction layout generalizing start with
  | done => exact absurd rfl nonempty
  | comment remark => exact absurd rfl nonempty
  | expectation expected => exact absurd rfl nonempty
  | blank c spacing rest ih =>
      have restNonempty : rest.tokens ≠ [] := nonempty
      rcases ih restNonempty (start + c.utf8Size) with ⟨token, mem, stop⟩
      refine ⟨token, mem, ?_⟩
      rw [trimEnd, if_neg (by simpa using restNonempty), text, Text.utf8Size_cons, stop,
        Nat.add_assoc]
  | lexeme spelling rest ih =>
      by_cases empty : rest.tokens = []
      · refine ⟨_, List.mem_cons_self .., ?_⟩
        simp only [trimEnd, trimEnd_of_tokens_eq_nil empty, text, List.append_nil]
        rfl
      · rcases ih empty (start + spelling.text.utf8Size) with ⟨token, mem, stop⟩
        refine ⟨token, List.mem_cons_of_mem _ mem, ?_⟩
        rw [trimEnd, text, Text.utf8Size_append, stop, Nat.add_assoc]

theorem exists_blanks_trimStart (layout : Layout) :
    ∃ blanks : Text, layout.text = blanks ++ layout.trimStart.text ∧
      (layout.Separated → layout.trimStart.Separated) ∧
      ∀ start, layout.line start = layout.trimStart.line (start + blanks.utf8Size) := by
  induction layout with
  | done => exact ⟨[], rfl, id, fun start => rfl⟩
  | comment remark => exact ⟨[], rfl, id, fun start => rfl⟩
  | expectation expected => exact ⟨[], rfl, id, fun start => rfl⟩
  | blank c spacing rest ih =>
      rcases ih with ⟨blanks, split, separated, same⟩
      refine ⟨c :: blanks, ?_, separated, ?_⟩
      · rw [text, split, trimStart, List.cons_append]
      · intro start
        rw [line, same, trimStart, Text.utf8Size_cons, Nat.add_assoc]
  | lexeme spelling rest ih => exact ⟨[], rfl, id, fun start => rfl⟩

theorem exists_lexeme_trimStart (nonempty : layout.tokens ≠ []) :
    ∃ spelling rest, layout.trimStart = lexeme spelling rest := by
  induction layout with
  | done => exact absurd rfl nonempty
  | comment remark => exact absurd rfl nonempty
  | expectation expected => exact absurd rfl nonempty
  | blank c spacing rest ih => exact ih nonempty
  | lexeme spelling rest ih => exact ⟨spelling, rest, rfl⟩

/-- The span of a line that begins with a lexeme reaches from there to the end of the last one. -/
theorem span_line_lexeme (spelling : Spelling) (rest : Layout) (start : Nat) :
    ((lexeme spelling rest).line start).span =
      ⟨start, (lexeme spelling rest).trimEnd.text.utf8Size⟩ := by
  have nonempty : (lexeme spelling rest).tokens ≠ [] := by simp [tokens]
  have tiles := (lexeme spelling rest).trimEnd.tiles start
  have content := congrArg Text.utf8Size (lexeme spelling rest).trimEnd.text_eq_append
  rw [line_trimEnd] at tiles
  rw [Text.utf8Size_append] at content
  apply Span.hullAll_eq
  · exact ⟨_, List.mem_map_of_mem (List.mem_cons_self ..), rfl⟩
  · rcases exists_stop_of_tokens_ne_nil nonempty start with ⟨token, mem, stop⟩
    exact ⟨token.span, List.mem_map_of_mem mem, stop⟩
  · intro span mem
    rcases List.mem_map.1 mem with ⟨token, tokenMem, rfl⟩
    have inside := tiles.inside token tokenMem
    refine ⟨start_le_of_mem_tokens tokenMem, ?_⟩
    simp only [Span.stop] at inside ⊢
    omega

end Layout

namespace Line

/-- The tokens of a line are those of a part of it, which is the span of the line. -/
theorem exists_excerpt {start : Nat} {text : Text} {line : Line}
    (found : read start text = .ok line) (nonempty : line.tokens ≠ []) :
    ∃ before part after : Text, text = before ++ (part ++ after) ∧
      line.span = ⟨start + before.utf8Size, part.utf8Size⟩ ∧
      read (start + before.utf8Size) part = .ok ⟨line.tokens, none⟩ := by
  rcases exists_layout_of_read found with ⟨layout, separated, rfl⟩
  rw [read_text separated] at found
  cases found
  rw [ne_eq, Layout.tokens_line_eq_nil_iff] at nonempty
  rcases layout.exists_blanks_trimStart with ⟨blanks, split, keepsSeparated, same⟩
  rcases Layout.exists_lexeme_trimStart nonempty with ⟨spelling, rest, trimmed⟩
  have trimmedSeparated := keepsSeparated separated
  rw [trimmed] at split same trimmedSeparated
  rcases (Layout.lexeme spelling rest).text_trimEnd_leads with ⟨after, whole⟩
  refine ⟨blanks, (Layout.lexeme spelling rest).trimEnd.text, after, ?_, ?_, ?_⟩
  · rw [split, whole]
  · rw [same, Layout.span_line_lexeme]
  · rw [read_text (Layout.separated_trimEnd trimmedSeparated), Layout.line_trimEnd, same]

end Line

end Script

end TextCursor

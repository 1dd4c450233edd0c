import TextCursor.Proofs.Script.Relocation
import TextCursor.Proofs.Text.Bytes

/-!
# Tilings

The spans of a line are read off its text: those of the tokens lie one after the other and have the
bytes of what each token is spelled by, everything between them is blank, and the expectation has
the bytes of its text after the arrow. `Line.Tiles` says so with bytes alone; the layout of the line
shows it, part by part. Where the line starts in the script shows nowhere else.
-/

namespace TextCursor

theorem Text.trimEnd_prefix (text : Text) : text.trimEnd <+: text := by
  have suffix := List.dropWhile_suffix (l := text.reverse) isWhiteSpace
  rw [← List.reverse_prefix, List.reverse_reverse] at suffix
  exact suffix

namespace Script

namespace Line

/--
Whether the spans of a line lie as they should on a text that starts at the byte `start`, the text
being what may hold tokens, and after it a comment, an expectation or nothing.
-/
structure Tiles (line : Line) (start : Nat) (text content ending : Text) : Prop where
  split : text = content ++ ending
  positive : ∀ token ∈ line.tokens, 0 < token.span.length
  inside : ∀ token ∈ line.tokens, token.span.stop ≤ start + content.utf8Size
  /-- The bytes of a span are the spelling of its token, and of nothing else. -/
  spelled : ∀ token ∈ line.tokens, ∃ spelling, token.span.Marks start text spelling ∧
    ∀ base, read base spelling = .ok ⟨[⟨token.value, ⟨base, spelling.utf8Size⟩⟩], none⟩
  ordered : line.tokens.Pairwise fun left right => left.span.stop ≤ right.span.start
  /-- A character that begins in no span is a blank. -/
  gaps : ∀ (before : Text) (c : Char) (after : Text), content = before ++ c :: after →
    (∀ token ∈ line.tokens, ¬token.span.Contains (start + before.utf8Size)) → isBlank c = true
  unexpecting : line.expectation? = none → ending = [] ∨ ending.head? = some '#'
  expecting : ∀ expectation ∈ line.expectation?, (∃ rest, ending = '=' :: '>' :: rest) ∧
    start + content.utf8Size + 2 ≤ expectation.span.start ∧
    expectation.span.Marks start text expectation.value

end Line

theorem Line.marks_readExpectation (start : Nat) (content rest : Text) :
    (readExpectation (start + content.utf8Size + 2) rest).span.Marks start
      (content ++ '=' :: '>' :: rest)
      (readExpectation (start + content.utf8Size + 2) rest).value := by
  rcases Text.trimEnd_prefix (rest.dropWhile isBlank) with ⟨trailing, trimmed⟩
  have split : content ++ '=' :: '>' :: rest =
      (content ++ '=' :: '>' :: rest.takeWhile isBlank) ++
        (Text.trimEnd (rest.dropWhile isBlank) ++ trailing) := by
    rw [trimmed, List.append_assoc, List.cons_append, List.cons_append,
      List.takeWhile_append_dropWhile]
  have before : start + content.utf8Size + 2 + Text.utf8Size (rest.takeWhile isBlank) =
      start + Text.utf8Size (content ++ '=' :: '>' :: rest.takeWhile isBlank) := by
    have equalsSign : '='.utf8Size = 1 := rfl
    have greaterSign : '>'.utf8Size = 1 := rfl
    simp only [Text.utf8Size_append, Text.utf8Size_cons, equalsSign, greaterSign]
    omega
  rw [readExpectation, before]
  exact Span.marks_of_append split start

namespace Layout

/-- The part of a text in which there are blanks and lexemes. -/
def content : Layout → Text
  | done => []
  | comment _ => []
  | expectation _ => []
  | blank c _ rest => c :: rest.content
  | lexeme spelling rest => spelling.text ++ rest.content

/-- The comment or the expectation at the end, if there is one. -/
def ending : Layout → Text
  | done => []
  | comment remark => '#' :: remark
  | expectation expected => '=' :: '>' :: expected
  | blank _ _ rest => rest.ending
  | lexeme _ rest => rest.ending

theorem text_eq_append (layout : Layout) : layout.text = layout.content ++ layout.ending := by
  induction layout with
  | done => rfl
  | comment remark => rfl
  | expectation expected => rfl
  | blank c spacing rest ih => simp only [text, content, ending, ih, List.cons_append]
  | lexeme spelling rest ih => simp only [text, content, ending, ih, List.append_assoc]

/-- A token has the span of its spelling. -/
theorem exists_spelling_of_mem_tokens {layout : Layout} {start : Nat} {token : Spanned Token}
    (mem : token ∈ (layout.line start).tokens) :
    ∃ (before after : Text) (spelling : Spelling),
      layout.content = before ++ (spelling.text ++ after) ∧
      token = ⟨spelling.token, ⟨start + before.utf8Size, spelling.text.utf8Size⟩⟩ := by
  induction layout generalizing start with
  | done => cases mem
  | comment remark => cases mem
  | expectation expected => cases mem
  | blank c spacing rest ih =>
      rcases ih mem with ⟨before, after, spelling, split, same⟩
      refine ⟨c :: before, after, spelling, ?_, ?_⟩
      · simp only [content, split, List.cons_append]
      · rw [same, Text.utf8Size_cons, Nat.add_assoc]
  | lexeme first rest ih =>
      rcases List.mem_cons.1 mem with rfl | mem
      · exact ⟨[], rest.content, first, rfl, rfl⟩
      · rcases ih mem with ⟨before, after, spelling, split, same⟩
        refine ⟨first.text ++ before, after, spelling, ?_, ?_⟩
        · simp only [content, split, List.append_assoc]
        · rw [same, Text.utf8Size_append, Nat.add_assoc]

theorem start_le_of_mem_tokens {layout : Layout} {start : Nat} {token : Spanned Token}
    (mem : token ∈ (layout.line start).tokens) : start ≤ token.span.start := by
  rcases exists_spelling_of_mem_tokens mem with ⟨before, after, spelling, -, rfl⟩
  exact Nat.le_add_right ..

theorem pairwise_tokens (layout : Layout) (start : Nat) :
    (layout.line start).tokens.Pairwise fun left right => left.span.stop ≤ right.span.start := by
  induction layout generalizing start with
  | done => exact List.Pairwise.nil
  | comment remark => exact List.Pairwise.nil
  | expectation expected => exact List.Pairwise.nil
  | blank c spacing rest ih => exact ih (start + c.utf8Size)
  | lexeme spelling rest ih =>
      apply List.Pairwise.cons
      · intro token mem
        exact start_le_of_mem_tokens mem
      · exact ih (start + spelling.text.utf8Size)

/-- What is not in the span of a token is a blank. -/
theorem isBlank_of_not_contains {layout : Layout} {start : Nat} {before after : Text} {c : Char}
    (split : layout.content = before ++ c :: after)
    (apart : ∀ token ∈ (layout.line start).tokens,
      ¬token.span.Contains (start + before.utf8Size)) : isBlank c = true := by
  induction layout generalizing start before with
  | done => simp [content] at split
  | comment remark => simp [content] at split
  | expectation expected => simp [content] at split
  | blank d spacing rest ih =>
      cases before with
      | nil =>
          simp only [content, List.nil_append, List.cons.injEq] at split
          rw [← split.1]
          exact spacing
      | cons e between =>
          simp only [content, List.cons_append, List.cons.injEq] at split
          rcases split with ⟨rfl, restSplit⟩
          have restApart : ∀ token ∈ (rest.line (start + d.utf8Size)).tokens,
              ¬token.span.Contains (start + d.utf8Size + Text.utf8Size between) := by
            intro token mem contained
            apply apart token mem
            rwa [Text.utf8Size_cons, ← Nat.add_assoc]
          exact ih restSplit restApart
  | lexeme spelling rest ih =>
      -- The character is after the first lexeme, or it begins in the span of that lexeme.
      have later : ∀ between : Text, before = spelling.text ++ between →
          rest.content = between ++ c :: after → isBlank c = true := by
        intro between same restSplit
        have restApart : ∀ token ∈ (rest.line (start + spelling.text.utf8Size)).tokens,
            ¬token.span.Contains (start + spelling.text.utf8Size + between.utf8Size) := by
          intro token mem contained
          apply apart token (List.mem_cons_of_mem _ mem)
          rwa [same, Text.utf8Size_append, ← Nat.add_assoc]
        exact ih restSplit restApart
      rcases List.append_eq_append_iff.1 split with
        ⟨between, same, restSplit⟩ | ⟨within, same, tail⟩
      · exact later between same restSplit
      · cases within with
        | nil =>
            rw [List.append_nil] at same
            exact later [] (by rw [same, List.append_nil]) tail.symm
        | cons d more =>
            exfalso
            apply apart _ (List.mem_cons_self ..)
            have positive := d.utf8Size_pos
            simp only [Span.Contains, Span.stop, Lexeme.spanned, Spelling.lexeme, same,
              Text.utf8Size_append, Text.utf8Size_cons]
            omega

theorem ending_of_expectation_eq_none {layout : Layout} {start : Nat}
    (absent : (layout.line start).expectation? = none) :
    layout.ending = [] ∨ layout.ending.head? = some '#' := by
  induction layout generalizing start with
  | done => exact Or.inl rfl
  | comment remark => exact Or.inr rfl
  | expectation expected => cases absent
  | blank c spacing rest ih => exact ih absent
  | lexeme spelling rest ih => exact ih absent

/-- An expectation is what comes after the arrow at the end. -/
theorem ending_of_mem_expectation {layout : Layout} {start : Nat} {expectation : Spanned Text}
    (mem : expectation ∈ (layout.line start).expectation?) :
    ∃ rest, layout.ending = '=' :: '>' :: rest ∧
      expectation = Line.readExpectation (start + layout.content.utf8Size + 2) rest := by
  induction layout generalizing start with
  | done => cases mem
  | comment remark => cases mem
  | expectation expected =>
      cases mem
      exact ⟨expected, rfl, rfl⟩
  | blank c spacing rest ih =>
      rcases ih mem with ⟨expected, same, found⟩
      refine ⟨expected, same, ?_⟩
      rw [found, content, Text.utf8Size_cons, Nat.add_assoc start]
  | lexeme spelling rest ih =>
      rcases ih mem with ⟨expected, same, found⟩
      refine ⟨expected, same, ?_⟩
      rw [found, content, Text.utf8Size_append, Nat.add_assoc start]

/-- The spans of the line that a separated layout is tile its text. -/
theorem tiles (layout : Layout) (start : Nat) :
    (layout.line start).Tiles start layout.text layout.content layout.ending where
  split := layout.text_eq_append
  positive := by
    intro token mem
    rcases exists_spelling_of_mem_tokens mem with ⟨before, after, spelling, -, rfl⟩
    exact Text.utf8Size_pos spelling.text_ne_nil
  inside := by
    intro token mem
    rcases exists_spelling_of_mem_tokens mem with ⟨before, after, spelling, split, rfl⟩
    simp only [Span.stop, split, Text.utf8Size_append]
    omega
  spelled := by
    intro token mem
    rcases exists_spelling_of_mem_tokens mem with ⟨before, after, spelling, split, rfl⟩
    have whole : layout.text = before ++ (spelling.text ++ (after ++ layout.ending)) := by
      rw [text_eq_append, split, List.append_assoc, List.append_assoc]
    exact ⟨spelling.text, Span.marks_of_append whole start, Line.read_alone spelling⟩
  ordered := layout.pairwise_tokens start
  gaps := by
    intro before c after split apart
    exact isBlank_of_not_contains split apart
  unexpecting := ending_of_expectation_eq_none
  expecting := by
    intro expectation mem
    rcases ending_of_mem_expectation mem with ⟨rest, ending, rfl⟩
    refine ⟨⟨rest, ending⟩, Nat.le_add_right .., ?_⟩
    rw [text_eq_append, ending]
    exact Line.marks_readExpectation start layout.content rest

end Layout

end Script

end TextCursor

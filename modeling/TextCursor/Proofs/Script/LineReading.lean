import TextCursor.Proofs.Script.LexemeReading

/-!
# Reading lines

`Line.read` accepts exactly the texts that have a separated layout. `Line.read_text` reads the text
of every separated layout, `Line.exists_layout_of_read` finds the layout of everything that is read,
and `Layout.eq_of_text_eq` says that a text has no second one.
-/

namespace TextCursor.Script

namespace Line

/-- A line with tokens before those of its own. -/
def following (tokens : List (Spanned Token)) (line : Line) : Line :=
  { line with tokens := tokens ++ line.tokens }

theorem map_following_nil (result : Except Error Line) : result.map (following []) = result := by
  cases result <;> rfl

theorem map_following_cons (tokens : List (Spanned Token)) (token : Spanned Token)
    (result : Except Error Line) :
    (result.map (cons token)).map (following tokens) =
      result.map (following (tokens ++ [token])) := by
  cases result with
  | error error => rfl
  | ok line => simp [Except.map, following, cons]

variable {c : Char} {rest : Text}

theorem read_blank (blank : isBlank c = true) (start : Nat) :
    read start (c :: rest) = read (start + c.utf8Size) rest := by
  rw [read, if_pos blank]

theorem read_comment (start : Nat) (remark : Text) :
    read start ('#' :: remark) = .ok ⟨[], none⟩ := by
  rw [read, if_neg (by decide), if_pos rfl]

theorem read_arrow (start : Nat) (expected : Text) :
    read start ('=' :: '>' :: expected) =
      .ok ⟨[], some (readExpectation (start + 2) expected)⟩ := by
  rw [read, if_neg (by decide), if_neg (by decide), if_pos ⟨rfl, rfl⟩]
  rfl

theorem read_lexeme {lexeme : Lexeme} (solid : isBlank c = false) (noComment : c ≠ '#')
    (noArrow : ¬(c = '=' ∧ rest.head? = some '>')) (found : Lexeme.read c rest = .ok lexeme)
    (start : Nat) :
    read start (c :: rest) =
      (read (start + lexeme.spelling.utf8Size) lexeme.rest).map (cons (lexeme.spanned start)) := by
  rw [read, if_neg (by simp [solid]), if_neg noComment, if_neg noArrow]
  split
  · next misspelling failed =>
      rw [found] at failed
      cases failed
  · next other read =>
      rw [found] at read
      cases read
      rfl

theorem read_misspelling {misspelling : Misspelling} (solid : isBlank c = false)
    (noComment : c ≠ '#') (noArrow : ¬(c = '=' ∧ rest.head? = some '>'))
    (failed : Lexeme.read c rest = .error misspelling) (start : Nat) :
    read start (c :: rest) = .error (misspelling.error start) := by
  rw [read, if_neg (by simp [solid]), if_neg noComment, if_neg noArrow]
  split
  · next other read =>
      rw [failed] at read
      cases read
      rfl
  · next lexeme found =>
      rw [failed] at found
      cases found

theorem read_spelling {spelling : Spelling} (ends : spelling.EndsBefore rest) (start : Nat) :
    read start (spelling.text ++ rest) =
      (read (start + spelling.text.utf8Size) rest).map
        (cons ((spelling.lexeme rest).spanned start)) := by
  have nonempty : spelling.text ++ rest ≠ [] := by simp [spelling.text_ne_nil]
  rcases List.exists_cons_of_ne_nil nonempty with ⟨c, tail, split⟩
  rcases Spelling.head_of_append_eq split with ⟨solid, noComment, noArrow⟩
  rw [split, read_lexeme solid noComment (fun arrow => noArrow arrow.1)
    (Lexeme.read_spelling ends split)]
  rfl

/-- A line that is one lexeme is read as its token. -/
theorem read_alone (spelling : Spelling) (start : Nat) :
    read start spelling.text =
      .ok ⟨[⟨spelling.token, ⟨start, spelling.text.utf8Size⟩⟩], none⟩ := by
  have found := read_spelling spelling.endsBefore_nil start
  rw [List.append_nil, read] at found
  exact found

/-- The text of a separated layout is read as what the layout says. -/
theorem read_text {layout : Layout} (separated : layout.Separated) (start : Nat) :
    read start layout.text = .ok (layout.line start) := by
  induction layout generalizing start with
  | done => rw [Layout.text, read, Layout.line]
  | comment remark => rw [Layout.text, read_comment, Layout.line]
  | expectation expected => rw [Layout.text, read_arrow, Layout.line]
  | blank c spacing rest ih =>
      rw [Layout.text, read_blank spacing, ih separated, Layout.line]
  | lexeme spelling rest ih =>
      rcases separated with ⟨ends, restSeparated⟩
      rw [Layout.text, read_spelling ends, ih restSeparated, Layout.line]
      rfl

/-- Everything that is read has a separated layout. -/
theorem exists_layout_of_read {start : Nat} {text : Text} {line : Line}
    (found : read start text = .ok line) :
    ∃ layout : Layout, layout.Separated ∧ layout.text = text := by
  fun_induction read start text generalizing line with
  | case1 start => exact ⟨.done, trivial, rfl⟩
  | case2 start c rest blank ih =>
      rcases ih found with ⟨layout, separated, rfl⟩
      exact ⟨.blank c blank layout, separated, rfl⟩
  | case3 start rest blank => exact ⟨.comment rest, trivial, rfl⟩
  | case4 start c rest blank noComment arrow =>
      rcases arrow with ⟨rfl, follows⟩
      cases rest with
      | nil => simp at follows
      | cons d expected =>
          simp only [List.head?_cons, Option.some.injEq] at follows
          subst follows
          exact ⟨.expectation expected, trivial, rfl⟩
  | case5 => cases found
  | case6 start c rest blank noComment noArrow lexeme lexemeFound shorter ih =>
      cases restRead : read (start + lexeme.spelling.utf8Size) lexeme.rest with
      | error error =>
          rw [restRead] at found
          cases found
      | ok inner =>
          rcases ih restRead with ⟨layout, separated, text⟩
          rcases Lexeme.exists_spelling_of_read lexemeFound with ⟨spelling, ends, same⟩
          refine ⟨.lexeme spelling layout, ⟨?_, separated⟩, ?_⟩
          · rw [text]
            exact ends
          · have whole := Lexeme.append_of_read lexemeFound
            rw [same] at whole
            rw [Layout.text, text]
            exact whole

end Line

namespace Layout

theorem eq_done_of_text_eq {layout : Layout} (same : layout.text = []) : layout = done := by
  cases layout with
  | done => rfl
  | comment remark => simp [text] at same
  | expectation expected => simp [text] at same
  | blank c spacing rest => simp [text] at same
  | lexeme spelling rest => simp [text, spelling.text_ne_nil] at same

theorem eq_comment_of_text_eq {layout : Layout} {remark : Text}
    (same : layout.text = '#' :: remark) : layout = comment remark := by
  cases layout with
  | done => simp [text] at same
  | comment other =>
      simp only [text, List.cons.injEq, true_and] at same
      rw [same]
  | expectation expected => simp [text] at same
  | blank c spacing rest =>
      simp only [text, List.cons.injEq] at same
      rw [same.1] at spacing
      exact absurd spacing (by decide)
  | lexeme spelling rest => exact absurd rfl (Spelling.head_of_append_eq same).2.1

theorem eq_expectation_of_text_eq {layout : Layout} {expected : Text}
    (same : layout.text = '=' :: '>' :: expected) : layout = expectation expected := by
  cases layout with
  | done => simp [text] at same
  | comment remark => simp [text] at same
  | expectation other =>
      simp only [text, List.cons.injEq, true_and] at same
      rw [same]
  | blank c spacing rest =>
      simp only [text, List.cons.injEq] at same
      rw [same.1] at spacing
      exact absurd spacing (by decide)
  | lexeme spelling rest => exact absurd rfl (Spelling.head_of_append_eq same).2.2

theorem exists_blank_of_text_eq {layout : Layout} {c : Char} {tail : Text}
    (spacing : isBlank c = true) (same : layout.text = c :: tail) :
    ∃ rest : Layout, layout = blank c spacing rest ∧ rest.text = tail := by
  cases layout with
  | done => simp [text] at same
  | comment remark =>
      simp only [text, List.cons.injEq] at same
      rw [← same.1] at spacing
      exact absurd spacing (by decide)
  | expectation expected =>
      simp only [text, List.cons.injEq] at same
      rw [← same.1] at spacing
      exact absurd spacing (by decide)
  | blank d otherSpacing rest =>
      simp only [text, List.cons.injEq] at same
      rcases same with ⟨rfl, sameRest⟩
      exact ⟨rest, rfl, sameRest⟩
  | lexeme spelling rest =>
      have solid := (Spelling.head_of_append_eq same).1
      rw [spacing] at solid
      cases solid

theorem exists_lexeme_of_text_eq {layout : Layout} {spelling : Spelling} {tail : Text}
    (separated : layout.Separated) (ends : spelling.EndsBefore tail)
    (same : layout.text = spelling.text ++ tail) :
    ∃ rest : Layout, layout = lexeme spelling rest ∧ rest.text = tail := by
  cases layout with
  | done =>
      have empty := List.append_eq_nil_iff.1 same.symm
      exact absurd empty.1 spelling.text_ne_nil
  | comment remark => exact absurd rfl (Spelling.head_of_append_eq same.symm).2.1
  | expectation expected => exact absurd rfl (Spelling.head_of_append_eq same.symm).2.2
  | blank c spacing rest =>
      have solid := (Spelling.head_of_append_eq same.symm).1
      rw [spacing] at solid
      cases solid
  | lexeme other rest =>
      have agree := Spelling.text_eq_of_append_eq separated.1 ends same
      exact ⟨rest, by rw [Spelling.eq_of_text_eq agree.1], agree.2.2⟩

/-- A text has at most one separated layout. -/
theorem eq_of_text_eq {left right : Layout} (leftSeparated : left.Separated)
    (rightSeparated : right.Separated) (same : left.text = right.text) : left = right := by
  induction left generalizing right with
  | done => exact (eq_done_of_text_eq same.symm).symm
  | comment remark => exact (eq_comment_of_text_eq same.symm).symm
  | expectation expected => exact (eq_expectation_of_text_eq same.symm).symm
  | blank c spacing rest ih =>
      rcases exists_blank_of_text_eq spacing same.symm with ⟨other, rfl, sameRest⟩
      have otherSeparated : other.Separated := rightSeparated
      rw [ih leftSeparated otherSeparated sameRest.symm]
  | lexeme spelling rest ih =>
      rcases exists_lexeme_of_text_eq rightSeparated leftSeparated.1 same.symm with
        ⟨other, rfl, sameRest⟩
      rw [ih leftSeparated.2 rightSeparated.2 sameRest.symm]

end Layout

end TextCursor.Script

import TextCursor.Proofs.Script.CommandSpelling
import TextCursor.Proofs.Script.LineRun
import TextCursor.Proofs.Text.SelfDelimiting

/-!
# Faithful renderings

Outcomes of one kind that are rendered alike are the same. What is not there has a rendering of its
own, decimals and quoted texts determine what they stand for, and a place of a ranking shows where
it ends, whatever text stands in it. A command has outcomes of one kind only, so that an expectation
that is met tells all about the outcome.
-/

namespace TextCursor

open Text

namespace Decimal

theorem ofNat_ne_of_mem {word : Text} {c : Char} (mem : c ∈ word) (noDigit : c.isDigit = false)
    (number : Nat) : Decimal.ofNat number ≠ word := by
  rintro rfl
  rw [Decimal.isDigit_of_mem_ofNat mem] at noDigit
  cases noDigit

end Decimal

namespace Distance

theorem render_injective : Function.Injective render := by
  have noNumber (count : Nat) : Decimal.ofNat count ≠ "unreachable".toList :=
    Decimal.ofNat_ne_of_mem (c := 'u') (by decide) (by decide) count
  intro left right same
  cases left with
  | chars count =>
      cases right with
      | chars other =>
          rw [render_chars, render_chars] at same
          rw [Decimal.ofNat_injective same]
      | unreachable =>
          rw [render_chars, render_unreachable] at same
          exact absurd same (noNumber count)
  | unreachable =>
      cases right with
      | chars other =>
          rw [render_chars, render_unreachable] at same
          exact absurd same.symm (noNumber other)
      | unreachable => rfl

theorem parenthesis_notMem_render (distance : Distance) : ')' ∉ distance.render := by
  cases distance with
  | chars count =>
      intro mem
      exact absurd (Decimal.isDigit_of_mem_ofNat mem) (by decide)
  | unreachable => decide

end Distance

namespace Script

/-- The kinds of outcomes. -/
inductive OutcomeKind where
  | done
  | character
  | flag
  | offset
  | index
  | distance
  | ranking
  | text
  | textIfAny
  deriving DecidableEq

/-- The kind of outcome that a command has, by its verb. -/
def Verb.outcomeKind : Verb → OutcomeKind
  | input => .done
  | current => .character
  | advance => .character
  | retreat => .character
  | peek => .character
  | position => .offset
  | remaining => .text
  | standsHere => .flag
  | standsBefore => .flag
  | standsAfter => .flag
  | distanceTo => .distance
  | closest => .ranking
  | checkpoint => .done
  | rollback => .done
  | getUntil => .textIfAny
  | slice => .text
  | moveBy => .done
  | moveTo => .done
  | jumpTo => .index
  | consume => .text

namespace Outcome

def kind : Outcome → OutcomeKind
  | done => .done
  | character _ => .character
  | flag _ => .flag
  | offset _ => .offset
  | index _ => .index
  | distance _ => .distance
  | ranking _ => .ranking
  | text _ => .text
  | textIfAny _ => .textIfAny

theorem selfDelimiting_renderPlace : SelfDelimiting renderPlace := by
  have distances : SelfDelimiting fun distance : Distance => distance.render ++ [')'] :=
    selfDelimiting_of_notMem Distance.render_injective Distance.parenthesis_notMem_render
  have places := (Quoted.selfDelimiting_text.pair (distances.after ", ".toList)).after ['(']
  have same : renderPlace = fun place : Text × Distance =>
      ['('] ++ (Quoted.text place.1 ++ (", ".toList ++ (place.2.render ++ [')']))) := by
    funext place
    simp [renderPlace]
  rw [same]
  exact places

theorem intercalate_cons (separator first : Text) (rest : List Text) :
    List.intercalate separator (first :: rest) = first ++ rest.flatMap (separator ++ ·) := by
  induction rest generalizing first with
  | nil => simp
  | cons second rest ih =>
      rw [List.intercalate_cons_of_ne_nil (by simp), ih, List.flatMap_cons]
      simp only [List.append_assoc]

theorem render_ranking_cons (first : Text × Distance) (rest : List (Text × Distance)) :
    (ranking (first :: rest)).render =
      '[' :: (renderPlace first ++
        (rest.flatMap (fun place => ", ".toList ++ renderPlace place) ++ [']'])) := by
  simp only [render, List.map_cons, intercalate_cons, List.flatMap_map, List.append_assoc]

theorem ranking_injective {left right : List (Text × Distance)}
    (same : (ranking left).render = (ranking right).render) : left = right := by
  have rest : SelfDelimiting fun places : List (Text × Distance) =>
      places.flatMap (fun place => ", ".toList ++ renderPlace place) ++ [']'] := by
    apply (selfDelimiting_renderPlace.after ", ".toList).row
    intro place rest tail
    simp
  cases left with
  | nil =>
      cases right with
      | nil => rfl
      | cons other others => simp [render, renderPlace] at same
  | cons first others =>
      cases right with
      | nil => simp [render, renderPlace] at same
      | cons other others =>
          rw [render_ranking_cons, render_ranking_cons, List.cons.injEq] at same
          rcases selfDelimiting_renderPlace same.2 with ⟨rfl, sameRest⟩
          rw [rest.injective sameRest]

/-- What may be absent is faithfully rendered if nothing that is there looks as if it were not. -/
theorem optional_injective {Value : Type} {render : Value → Text}
    (distinct : Function.Injective render) (present : ∀ value, render value ≠ absent) :
    Function.Injective fun value? : Option Value => value?.elim absent render := by
  intro left right same
  cases left with
  | none =>
      cases right with
      | none => rfl
      | some value => exact absurd same.symm (present value)
  | some value =>
      cases right with
      | none => exact absurd same (present value)
      | some other => rw [distinct same]

theorem render_character (c? : Option Char) :
    (character c?).render = c?.elim absent Quoted.character := by
  cases c? <;> rfl

theorem render_index (place? : Option Nat) :
    (index place?).render = place?.elim absent Decimal.ofNat := by
  cases place? <;> rfl

theorem render_textIfAny (content? : Option Text) :
    (textIfAny content?).render = content?.elim absent Quoted.text := by
  cases content? <;> rfl

theorem character_injective :
    Function.Injective fun c? : Option Char => c?.elim absent Quoted.character := by
  apply optional_injective Quoted.character_injective
  intro c
  simp [Quoted.character, Quoted.enclose, absent]

theorem index_injective :
    Function.Injective fun place? : Option Nat => place?.elim absent Decimal.ofNat := by
  apply optional_injective Decimal.ofNat_injective
  exact Decimal.ofNat_ne_of_mem (c := 'n') (by decide) (by decide)

theorem textIfAny_injective :
    Function.Injective fun content? : Option Text => content?.elim absent Quoted.text := by
  apply optional_injective Quoted.selfDelimiting_text.injective
  intro content
  simp [Quoted.text, Quoted.enclose, absent]

/-- Outcomes of one kind that are rendered alike are the same. -/
theorem eq_of_render_eq {left right : Outcome} (sameKind : left.kind = right.kind)
    (same : left.render = right.render) : left = right := by
  cases left with
  | done =>
      cases right <;> cases sameKind
      rfl
  | character c? =>
      cases right <;> cases sameKind
      rw [render_character, render_character] at same
      rw [character_injective same]
  | flag value =>
      have distinct : ∀ value other, (flag value).render = (flag other).render → value = other := by
        decide
      cases right <;> cases sameKind
      rw [distinct _ _ same]
  | offset place =>
      cases right <;> cases sameKind
      rw [Offset.ext (Decimal.ofInt_injective same)]
  | index place? =>
      cases right <;> cases sameKind
      rw [render_index, render_index] at same
      rw [index_injective same]
  | distance amount =>
      cases right <;> cases sameKind
      rw [Distance.render_injective same]
  | ranking places =>
      cases right <;> cases sameKind
      rw [ranking_injective same]
  | text content =>
      cases right <;> cases sameKind
      rw [Quoted.selfDelimiting_text.injective same]
  | textIfAny content? =>
      cases right <;> cases sameKind
      rw [render_textIfAny, render_textIfAny] at same
      rw [textIfAny_injective same]

end Outcome

end Script

namespace Session

open Script

variable {session left : Session} {command : Command} {outcome : Outcome}

/-- The verb of a command tells which kind of outcome it has. -/
theorem kind_of_execute (executed : session.execute command = (.ok outcome, left)) :
    outcome.kind = command.verb.outcomeKind := by
  cases command with
  | rollback name =>
      simp only [execute] at executed
      split at executed <;> cases executed
      rfl
  | slice length? =>
      cases length? with
      | none =>
          cases executed
          rfl
      | some length =>
          simp only [execute] at executed
          split at executed <;> cases executed
          rfl
  | input text => cases executed; rfl
  | current => cases executed; rfl
  | advance => cases executed; rfl
  | retreat => cases executed; rfl
  | peek => cases executed; rfl
  | position => cases executed; rfl
  | remaining => cases executed; rfl
  | standsHere target => cases executed; rfl
  | standsBefore target => cases executed; rfl
  | standsAfter target => cases executed; rfl
  | distanceTo landmark => cases executed; rfl
  | closest targets => cases executed; rfl
  | checkpoint name => cases executed; rfl
  | getUntil target => cases executed; rfl
  | moveBy delta => cases executed; rfl
  | moveTo place => cases executed; rfl
  | jumpTo target => cases executed; rfl
  | consume targets => cases executed; rfl

theorem outcome_of_passes {placed : PlacedLine} {line : Line} {expectation : Spanned Text}
    {step : Step} (passes : session.Passes placed (some step) left)
    (read : placed.read = .ok line) (expected : line.expectation? = some expectation) :
    ∃ command, Command.ofTokens line.tokens = .ok command ∧
      step = ⟨placed.number, command.verb, step.outcome, line.span⟩ ∧
      step.outcome.kind = command.verb.outcomeKind ∧
      step.outcome.render = expectation.value := by
  cases passes with
  | command entry same executed =>
      subst same
      have sameLine := entry.read
      rw [read, Except.ok.injEq] at sameLine
      subst sameLine
      exact ⟨entry.command, entry.parsed, rfl, kind_of_execute executed,
        entry.asExpected expectation expected⟩

/--
Outcomes of one kind are the same exactly if they are rendered alike. If a line with an expectation
passes on two sessions, its step is the same on both.
-/
theorem rendering_faithful :
    (∀ left right : Outcome,
      left.kind = right.kind ∧ left.render = right.render ↔ left = right) ∧
    ∀ (first second firstLeft secondLeft : Session) (placed : PlacedLine) (line : Line)
      (expectation : Spanned Text) (firstStep secondStep : Step),
      placed.read = .ok line → line.expectation? = some expectation →
      first.runLine placed.number placed.start placed.text = (.ok (some firstStep), firstLeft) →
      second.runLine placed.number placed.start placed.text = (.ok (some secondStep), secondLeft) →
      firstStep = secondStep := by
  constructor
  · intro left right
    constructor
    · rintro ⟨sameKind, same⟩
      exact Outcome.eq_of_render_eq sameKind same
    · rintro rfl
      exact ⟨rfl, rfl⟩
  · intro first second firstLeft secondLeft placed line expectation firstStep secondStep read
      expected firstRan secondRan
    rcases outcome_of_passes (runLine_eq_ok_iff.1 firstRan) read expected with
      ⟨command, parsed, firstEq, firstKind, firstRender⟩
    rcases outcome_of_passes (runLine_eq_ok_iff.1 secondRan) read expected with
      ⟨other, otherParsed, secondEq, secondKind, secondRender⟩
    rw [parsed, Except.ok.injEq] at otherParsed
    subst otherParsed
    have sameOutcome := Outcome.eq_of_render_eq (firstKind.trans secondKind.symm)
      (firstRender.trans secondRender.symm)
    rw [firstEq, secondEq, sameOutcome]

/--
A backslash with a letter after it is not rendered as the line break that they would stand for, and
`cursor => 0` has the same step on two different sources.
-/
theorem rendering_faithful_samples :
    ((Outcome.text ['\\', 'n']).kind = (Outcome.text ['\n']).kind ∧
      (Outcome.text ['\\', 'n']).render ≠ (Outcome.text ['\n']).render) ∧
    ∃ firstStep secondStep,
      (ofText []).runLine 1 0 "cursor => 0".toList = (.ok (some firstStep), ofText []) ∧
      (ofText ['a']).runLine 1 0 "cursor => 0".toList = (.ok (some secondStep), ofText ['a']) ∧
      firstStep = secondStep := by
  constructor
  · refine ⟨rfl, ?_⟩
    intro same
    have equal := (rendering_faithful.1 (.text ['\\', 'n']) (.text ['\n'])).1 ⟨rfl, same⟩
    exact absurd equal (by decide)
  · have read : Line.read 0 "cursor => 0".toList =
        .ok ⟨[⟨.word "cursor".toList, ⟨0, 6⟩⟩], some ⟨"0".toList, ⟨10, 1⟩⟩⟩ := by
      have found := Line.read_verb .position (' ' :: '=' :: '>' :: " 0".toList)
        (by simp [isWordPart, isWordStart]) 0
      rw [Line.read_blank (by decide), Line.read_arrow] at found
      exact found
    have ran (session : Session) (atStart : session.cursor.position = 0) :
        session.runLine 1 0 "cursor => 0".toList =
          (.ok (some ⟨1, .position, .offset 0, ⟨0, 6⟩⟩), session) := by
      have parsed : Command.ofTokens [⟨.word "cursor".toList, ⟨0, 6⟩⟩] = .ok .position := rfl
      rw [runLine, read]
      simp only [runTokens, parsed, execute, atStart]
      rfl
    refine ⟨_, _, ran (ofText []) rfl, ran (ofText ['a']) rfl, ?_⟩
    exact rendering_faithful.2 (ofText []) (ofText ['a']) _ _ ⟨1, 0, "cursor => 0".toList⟩ _ _ _ _
      read rfl (ran (ofText []) rfl) (ran (ofText ['a']) rfl)

end Session

end TextCursor

import Mathlib.Algebra.Group.Nat.Defs
import TextCursor.Proofs.Script.CommandSpelling
import TextCursor.Proofs.Script.FirstOffence
import TextCursor.Proofs.Script.NeatRendering

/-!
# Integer literals

An integer literal is a row of decimal digits, of any length and with any number of zeros in front,
and it may have a minus sign. Its value is that of its digits at their places, and where the value
is an offset, the literal is read as this offset; where it is not, the line is refused for this
literal. What is shown for an offset is a literal of its value, so it can be written as an argument.
-/

namespace TextCursor

namespace Decimal

/-- What digits are worth, each one tens of tens for the places after it. -/
def placeValue : Text → Nat
  | [] => 0
  | digit :: rest => (digit.toNat - '0'.toNat) * 10 ^ rest.length + placeValue rest

theorem toNat_eq_placeValue (digits : Text) : toNat digits = placeValue digits := by
  induction digits with
  | nil => rfl
  | cons digit rest ih =>
      simp only [toNat] at ih
      simp only [toNat, placeValue, Nat.ofDigitChars_cons, Nat.mul_zero, Nat.zero_add]
      rw [Nat.ofDigitChars_eq_ofDigitChars_zero, ih, Nat.mul_comm]

/-- Decimal digits, and whether a minus sign is before them. -/
structure Literal where
  negative : Bool
  digits : Text
  nonempty : digits ≠ []
  decimal : ∀ c ∈ digits, c.isDigit = true

namespace Literal

def text (literal : Literal) : Text := sign literal.negative ++ literal.digits

/-- The whole number that a literal stands for. -/
def value (literal : Literal) : Int := signed literal.negative (placeValue literal.digits)

theorem value_eq (literal : Literal) :
    literal.value = signed literal.negative (toNat literal.digits) := by
  simp only [value, toNat_eq_placeValue]

end Literal

end Decimal

namespace Script

/-- The spelling of a literal whose value is an offset. -/
def Spelling.ofLiteral (literal : Decimal.Literal) (number : Offset)
    (same : number.value = literal.value) : Spelling :=
  .integer literal.negative literal.digits number literal.nonempty literal.decimal
    (same.trans literal.value_eq)

namespace Line

variable {literal : Decimal.Literal} {rest : Text}

/-- A literal of an offset is one token, and the rest of the line is read after it. -/
theorem read_literal {number : Offset} (same : number.value = literal.value)
    (stops : ∀ c ∈ rest.head?, isWordPart c = false) (start : Nat) :
    read start (literal.text ++ rest) =
      (read (start + literal.text.utf8Size) rest).map
        (following [⟨.integer number, ⟨start, literal.text.utf8Size⟩⟩]) := by
  have ends : (Spelling.ofLiteral literal number same).EndsBefore rest := stops
  exact read_spelling ends start

/-- A literal of a number that is no offset is refused. -/
theorem read_literal_outOfRange
    (outside : literal.value < -9223372036854775808 ∨ 9223372036854775808 ≤ literal.value)
    (stops : ∀ c ∈ rest.head?, isWordPart c = false) (start : Nat) :
    read start (literal.text ++ rest) =
      .error ⟨.integerOutOfRange, ⟨start, literal.text.utf8Size⟩⟩ := by
  rw [literal.value_eq] at outside
  exact read_offending (.integerOutOfRange literal.nonempty literal.decimal stops outside)

end Line

end Script

namespace Session

open Script

theorem exists_literal_of_offset (place : Offset) :
    ∃ literal : Decimal.Literal, literal.text = (Outcome.offset place).render ∧
      place.value = literal.value := by
  let literal : Decimal.Literal :=
    ⟨decide (place.value < 0), Decimal.ofNat place.value.natAbs, Nat.toDigits_ne_nil,
      fun _ => Decimal.isDigit_of_mem_ofNat⟩
  refine ⟨literal, (Decimal.ofInt_eq_sign_append place.value).symm, ?_⟩
  simp only [literal, Decimal.Literal.value_eq, Decimal.toNat_ofNat, Decimal.signed,
    decide_eq_true_eq]
  split
  · omega
  · omega

theorem spelledBy_moveTo {blanks : Text} (apart : blanks ≠ [])
    (spacing : ∀ c ∈ blanks, isBlank c = true) (place : Offset) :
    Command.SpelledBy (.moveTo place)
      (Verb.moveTo.word ++ (blanks ++ (Outcome.offset place).render)) := by
  rcases exists_literal_of_offset place with ⟨literal, text, value⟩
  have written : (Spelling.ofLiteral literal place value).text = (Outcome.offset place).render :=
    text
  have oneLine : '\n' ∉ (Spelling.ofLiteral literal place value).text := by
    rw [written]
    exact (Outcome.neat_render (.offset place)).lineBreak_notMem
  refine ⟨[⟨blanks, Spelling.ofLiteral literal place value, apart, spacing, oneLine⟩], rfl, ?_⟩
  simp only [List.flatMap_cons, List.flatMap_nil, List.append_nil, WrittenArgument.text, written]
  rfl

/-- A line that spells a command which succeeds is a step of a script. -/
theorem passes_of_spelledBy {session left : Session} {command : Command} {outcome : Outcome}
    {text : Text} (spelled : command.SpelledBy text)
    (executed : session.execute command = (.ok outcome, left)) (number start : Nat) :
    ∃ span, session.Passes ⟨number, start, text⟩ (some ⟨number, command.verb, outcome, span⟩)
      left := by
  rcases (Command.writes_of_spelledBy spelled).read start with ⟨line, read, values, unexpecting⟩
  have asExpected : ∀ expectation ∈ line.expectation?, outcome.render = expectation.value := by
    simp only [unexpecting, Option.mem_def, reduceCtorEq, false_implies, implies_true]
  let entry : Entry := ⟨⟨number, start, text⟩, line, command, outcome, read,
    Command.ofTokens_of_values values, asExpected⟩
  exact ⟨line.span, .command entry rfl executed⟩

/--
Where a lexeme starts, an integer literal that no character continues is read as the whole number
that it stands for if that is an offset, and the line is refused as out of range if it is not. What
is shown for an offset can be written after the verb of a move, and then the cursor moves there.
-/
theorem integers_exact :
    (∀ (front : Layout) (literal : Decimal.Literal) (rest : Text) (start : Nat),
        front.LeadsTo (literal.text ++ rest) → (∀ c ∈ rest.head?, isWordPart c = false) →
          let place : Span := ⟨start + front.text.utf8Size, literal.text.utf8Size⟩
          (∀ (atLeast : -9223372036854775808 ≤ literal.value)
              (below : literal.value < 9223372036854775808),
              Line.read start (front.text ++ (literal.text ++ rest)) =
                (Line.read place.stop rest).map
                  (Line.following ((front.line start).tokens ++
                    [⟨.integer ⟨literal.value, atLeast, below⟩, place⟩]))) ∧
            (literal.value < -9223372036854775808 ∨ 9223372036854775808 ≤ literal.value →
              Line.read start (front.text ++ (literal.text ++ rest)) =
                .error ⟨.integerOutOfRange, place⟩)) ∧
      ∀ (session : Session) (number start : Nat) (blanks : Text) (place : Offset),
        blanks ≠ [] → (∀ c ∈ blanks, isBlank c = true) →
          ∃ span, session.runLine number start
              (Verb.moveTo.word ++ (blanks ++ (Outcome.offset place).render)) =
            (.ok (some ⟨number, .moveTo, .done, span⟩),
              session.withCursor (session.cursor.moveTo place)) := by
  constructor
  · intro front literal rest start leads stops place
    constructor
    · intro atLeast below
      have same : (⟨literal.value, atLeast, below⟩ : Offset).value = literal.value := rfl
      rw [Line.read_append leads, Line.read_literal same stops]
      simp only [Span.stop, place]
      cases Line.read (start + front.text.utf8Size + literal.text.utf8Size) rest with
      | error error => rfl
      | ok line => simp only [Except.map, Line.following, List.append_assoc]
    · intro outside
      exact Line.read_append_error leads (Line.read_literal_outOfRange outside stops _)
  · intro session number start blanks place apart spacing
    have executed : session.execute (.moveTo place) =
        (.ok .done, session.withCursor (session.cursor.moveTo place)) := rfl
    rcases passes_of_spelledBy (spelledBy_moveTo apart spacing place) executed number start with
      ⟨span, passes⟩
    exact ⟨span, runLine_of_passes passes⟩

/-- The least offset can have zeros in front and can be moved to, and its negative is no offset. -/
theorem integers_exact_least :
    let least : Decimal.Literal :=
      ⟨true, "009223372036854775808".toList, by decide, List.all_eq_true.1 rfl⟩
    let beyond : Decimal.Literal :=
      ⟨false, "9223372036854775808".toList, by decide, List.all_eq_true.1 rfl⟩
    Layout.done.LeadsTo (least.text ++ []) ∧ Layout.done.LeadsTo (beyond.text ++ []) ∧
      (∀ c ∈ ([] : Text).head?, isWordPart c = false) ∧
      Line.read 0 "-009223372036854775808".toList =
        .ok ⟨[⟨.integer .least, ⟨0, 22⟩⟩], none⟩ ∧
      Line.read 0 "9223372036854775808".toList = .error ⟨.integerOutOfRange, ⟨0, 19⟩⟩ ∧
      ∃ span, (default : Session).runLine 1 0 "move-to -9223372036854775808".toList =
        (.ok (some ⟨1, .moveTo, .done, span⟩),
          (default : Session).withCursor ((default : Session).cursor.moveTo .least)) := by
  intro least beyond
  have stops : ∀ c ∈ ([] : Text).head?, isWordPart c = false := by simp
  rcases integers_exact with ⟨exact, restores⟩
  refine ⟨trivial, trivial, stops, ?_, ?_, ?_⟩
  · have value : least.value = -9223372036854775808 := by decide
    have read := (exact .done least [] 0 trivial stops).1 (by omega) (by omega)
    rw [Line.read] at read
    exact read
  · have value : beyond.value = 9223372036854775808 := by decide
    exact (exact .done beyond [] 0 trivial stops).2 (by omega)
  · have shown : (Outcome.offset .least).render = "-9223372036854775808".toList := rfl
    have moved := restores default 1 0 [' '] .least (by decide) (List.all_eq_true.1 rfl)
    rw [shown] at moved
    exact moved

end Session

end TextCursor

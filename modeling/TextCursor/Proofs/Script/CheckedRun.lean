import TextCursor.Proofs.Script.CheckedParsing
import TextCursor.Proofs.Script.CheckedReading
import TextCursor.Proofs.Script.ErrorPlace
import TextCursor.Proofs.Script.Expectation

/-!
# Checked runs

Scripts are read, parsed and executed here in checked steps. A run gives every step the span of its
line, which is the hull of the spans of its tokens: their ends have to be numbers of 64 bits, and a
hull must not end before it starts. Spans that come from a line lie on it, and lines lie on the
script. So a script whose bytes can be counted by offsets is run without a failing step, and what it
comes to is what `Session.run` says. The machine is one that stops where a sum does not fit.
-/

namespace TextCursor

namespace Script

variable {tokens : List (Spanned Token)}

/-- The spans of a line have ends of 64 bits if the bytes up to its end can be counted so far. -/
theorem Line.spansFit_tokens {start : Nat} {text : Text} {line : Line}
    (found : read start text = .ok line)
    (fits : start + text.utf8Size < 18446744073709551616) : SpansFit line.tokens := by
  intro token mem
  have inside := (isRangeOf_of_mem_tokens found mem).stop_le
  omega

/-- The smallest span around the spans of a row of tokens, the first of which has the given one. -/
def checkedHull (span : Span) : List (Spanned Token) → Checked Span
  | [] => return span
  | token :: rest => do
      checkedHull (← Checked.hull span token.span) rest

theorem checkedHull_eq {span : Span} (spanFits : span.stop < 18446744073709551616)
    (fit : SpansFit tokens) :
    checkedHull span tokens = .ok ((tokens.map Spanned.span).foldl Span.hull span) := by
  induction tokens generalizing span with
  | nil => rfl
  | cons token rest ih =>
      rcases List.forall_mem_cons.1 fit with ⟨tokenFits, restFit⟩
      have widerFits : (span.hull token.span).stop < 18446744073709551616 := by
        rw [Span.stop_hull]
        omega
      rw [checkedHull, Checked.hull_eq spanFits tokenFits, Checked.ok_bind, ih widerFits restFit]
      rfl

end Script

namespace Session

open Script

/-- Executes a command in checked steps. -/
def checkedExecute (session : Session) (command : Command) :
    Checked (Except Fault Outcome × Session) :=
  let cursor := session.cursor
  match command with
  | .input text => return (.ok .done, .ofText text)
  | .current => return (.ok (.character cursor.current), session)
  | .advance => return (.ok (.character cursor.advance.current), session.withCursor cursor.advance)
  | .retreat => return (.ok (.character cursor.retreat.current), session.withCursor cursor.retreat)
  | .peek => return (.ok (.character cursor.peek), session)
  | .position => return (.ok (.offset cursor.position), session)
  | .remaining => return (.ok (.text (← Checked.remaining cursor)), session)
  | .standsHere target => return (.ok (.flag (← Checked.standsHere cursor target)), session)
  | .standsBefore target => return (.ok (.flag (← Checked.standsBefore cursor target)), session)
  | .standsAfter target => return (.ok (.flag (← Checked.standsAfter cursor target)), session)
  | .distanceTo landmark =>
      return (.ok (.distance (← Checked.distanceTo cursor landmark)), session)
  | .closest targets => return (.ok (.ranking (← Checked.closest cursor targets)), session)
  | .checkpoint name => return (.ok .done, session.checkpoint name)
  | .rollback name =>
      match session.rollback? name with
      | some restored => return (.ok .done, restored)
      | none => return (.error (.unknownCheckpoint name), session)
  | .getUntil target => do
      let (content?, reached) ← Checked.getUntil cursor target
      return (.ok (.textIfAny content?), session.withCursor reached)
  | .slice (some length) => do
      match ← Checked.slice cursor length with
      | .ok (content, reached) => return (.ok (.text content), session.withCursor reached)
      | .error cause => return (.error (.backwardSlice cause), session)
  | .slice none => do
      let (content, reached) ← Checked.sliceToEnd cursor
      return (.ok (.text content), session.withCursor reached)
  | .moveBy delta => return (.ok .done, session.withCursor (cursor.moveBy delta))
  | .moveTo place => return (.ok .done, session.withCursor (cursor.moveTo place))
  | .jumpTo target => do
      let (place?, reached) ← Checked.jumpTo cursor target
      return (.ok (.index place?), session.withCursor reached)
  | .consume targets => do
      let (content, reached) ← Checked.consume cursor targets
      return (.ok (.text content), session.withCursor reached)

/-- Executes a line that was read, in checked steps. -/
def checkedTokens (session : Session) (number : Nat) (line : Line) :
    Checked (Except Error (Option Step) × Session) :=
  match line.tokens, line.expectation? with
  | [], none => return (.ok none, session)
  | [], some expectation => return (.error ⟨.missingCommand, expectation.span⟩, session)
  | first :: others, _ => do
      match ← Command.checkedTokens (first :: others) with
      | .error error => return (.error error, session)
      | .ok command =>
          let span ← checkedHull first.span others
          match ← session.checkedExecute command with
          | (.error fault, left) => return (.error ⟨fault, span⟩, left)
          | (.ok outcome, left) =>
              match line.mismatch? outcome with
              | some error => return (.error error, left)
              | none => return (.ok (some ⟨number, command.verb, outcome, span⟩), left)

/-- Reads a line with a scanner and executes it. -/
def checkedLine (session : Session) (number start : Nat) (text : Text) :
    Checked (Except Error (Option Step) × Session) := do
  match ← (Scanner.ofLine .trapping start text).readLine [] with
  | .error error => return (.error error, session)
  | .ok line => session.checkedTokens number line

/-- Runs lines in order. The place after the line break of each is added up before the line runs. -/
def checkedLines (session : Session) (number start : Nat) :
    List Text → Checked (Except Error (List Step) × Session)
  | [] => return (.ok [], session)
  | text :: rest => do
      let following ← Checked.sum start (text.utf8Size + 1)
      match ← session.checkedLine number start text with
      | (.error error, left) => return (.error error, left)
      | (.ok step?, left) =>
          let next ← Checked.sum number 1
          let (result, final) ← left.checkedLines next following rest
          return (result.map (step?.toList ++ ·), final)

/-- Runs a script in checked steps. -/
def checkedRun (session : Session) (script : Text) : Checked (Except Error (List Step) × Session) :=
  session.checkedLines 1 0 script.lines

theorem checkedExecute_eq (session : Session) (command : Command) :
    session.checkedExecute command = .ok (session.execute command) := by
  cases command with
  | rollback name =>
      rw [checkedExecute, execute]
      cases session.rollback? name <;> rfl
  | slice length? =>
      cases length? with
      | none => simp [checkedExecute, execute]
      | some length =>
          rw [checkedExecute, Checked.slice_eq, execute]
          cases session.cursor.slice length <;> rfl
  | _ => simp [checkedExecute, execute]

/-- A line that was read has no span that is out of range. -/
theorem checkedTokens_eq (session : Session) (number : Nat) {line : Line}
    (fit : SpansFit line.tokens) :
    session.checkedTokens number line = .ok (session.runTokens number line) := by
  rcases line with ⟨tokens, expectation?⟩
  cases tokens with
  | nil => cases expectation? <;> rfl
  | cons first others =>
      rcases List.forall_mem_cons.1 fit with ⟨firstFits, othersFit⟩
      have span : checkedHull first.span others =
          .ok (Line.span ⟨first :: others, expectation?⟩) := checkedHull_eq firstFits othersFit
      simp only [checkedTokens, Command.checkedTokens_eq fit, Checked.ok_bind, runTokens]
      cases Command.ofTokens (first :: others) with
      | error error => rfl
      | ok command =>
          simp only [span, checkedExecute_eq, Checked.ok_bind]
          rcases session.execute command with ⟨fault | outcome, left⟩
          · rfl
          · dsimp only
            cases Line.mismatch? ⟨first :: others, expectation?⟩ outcome <;> rfl

theorem checkedLine_eq (session : Session) (number : Nat) {start : Nat} {text : Text}
    (fits : text.length < 9223372036854775808)
    (bytesFit : start + text.utf8Size < 18446744073709551616) :
    session.checkedLine number start text = .ok (session.runLine number start text) := by
  rw [checkedLine, Scanner.readLine_ofLine .trapping fits bytesFit, runLine, Checked.ok_bind]
  cases read : Line.read start text with
  | error error => rfl
  | ok line => exact checkedTokens_eq session number (Line.spansFit_tokens read bytesFit)

/-- Every line has a byte at least, its line break, so its number stays close to its start. -/
theorem checkedLines_eq (session : Session) {number start : Nat} {texts : List Text}
    (numbered : number ≤ start + 1)
    (fit : start + Text.linesSize texts < 9223372036854775809) :
    session.checkedLines number start texts = .ok (session.runLines number start texts) := by
  induction texts generalizing session number start with
  | nil => rfl
  | cons text rest ih =>
      have counted := text.length_le_utf8Size
      rw [Text.linesSize_cons] at fit
      rw [checkedLines, Checked.sum_eq (by omega), Checked.ok_bind,
        checkedLine_eq session number (by omega) (by omega), Checked.ok_bind, runLines]
      rcases session.runLine number start text with ⟨error | step?, left⟩
      · rfl
      · dsimp only
        rw [Checked.sum_eq (by omega), Checked.ok_bind, ih left (by omega) (by omega)]
        rfl

/--
Nothing fails that could: neither in an operation, to any depth, from any session, nor in a loop
over the characters that any test accepts, nor in reading, parsing and running a script of any text,
as long as its bytes can be counted by offsets.
-/
theorem no_breach :
    (∀ (operation : Operation) (session : Session),
        operation.checked session = .ok (operation.run session)) ∧
      (∀ (State : Type) (cursor : Cursor) (accept : State → Char → Bool × State) (state : State),
        Checked.consumeWhile cursor accept state = .ok (cursor.consumeWhile accept state)) ∧
      ∀ (session : Session) (script : Text), script.utf8Size < 9223372036854775808 →
        session.checkedRun script = .ok (session.run script) := by
  refine ⟨Operation.checked_eq, ?_, ?_⟩
  · intro State cursor accept state
    exact Checked.consumeWhile_eq cursor accept state
  · intro session script fits
    apply checkedLines_eq session (Nat.le_refl 1)
    rw [Text.linesSize_lines]
    omega

/-- A cursor at the greatest offset, far from its source, cannot advance, and nothing breaks. -/
theorem no_breach_atGreatest :
    Text.utf8Size "advance".toList < 9223372036854775808 ∧
      checkedRun ⟨⟨['é'], .greatest, by decide⟩, .empty⟩ "advance".toList =
        .ok (.ok [⟨1, .advance, .character none, ⟨0, 7⟩⟩],
          ⟨⟨['é'], .greatest, by decide⟩, .empty⟩) := by
  have fits : Text.utf8Size "advance".toList < 9223372036854775808 := by decide
  have parts : ∀ c ∈ "dvance".toList, isWordPart c = true := List.all_eq_true.1 rfl
  have read : Line.read 0 "advance".toList = .ok ⟨[⟨.word "advance".toList, ⟨0, 7⟩⟩], none⟩ :=
    Line.read_alone (.word 'a' "dvance".toList (by decide) parts) 0
  have ran : run ⟨⟨['é'], .greatest, by decide⟩, .empty⟩ "advance".toList =
      (.ok [⟨1, .advance, .character none, ⟨0, 7⟩⟩], ⟨⟨['é'], .greatest, by decide⟩, .empty⟩) := by
    rw [run_of_read _ read (by decide)]
    rfl
  refine ⟨fits, ?_⟩
  rw [← ran]
  exact no_breach.2.2 _ _ fits

end Session

end TextCursor

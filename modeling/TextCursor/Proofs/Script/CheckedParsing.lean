import TextCursor.Checked
import TextCursor.Proofs.Script.ViablePrefix

/-!
# Checked parsing

A parser widens the span of a command by each argument that it takes, so it adds up the ends of the
spans of its tokens. As long as they are numbers of 64 bits, no step of it fails, and it reads what
`Command.ofTokens` reads: it accepts the command table and refuses what the command table refuses.
If the end of the span of a verb or of its first argument is no such number, it breaks off.
-/

namespace TextCursor

namespace Checked

/-- The smallest span around two spans. -/
def hull (left right : Span) : Checked Span := do
  let leftStop ← sum left.start left.length
  let rightStop ← sum right.start right.length
  spanning (.included (min left.start right.start)) (.excluded (max leftStop rightStop))

theorem hull_eq {left right : Span} (leftFits : left.stop < 18446744073709551616)
    (rightFits : right.stop < 18446744073709551616) :
    hull left right = .ok (left.hull right) := by
  have leftStop : left.start ≤ left.stop := Nat.le_add_right ..
  have ordered : min left.start right.start ≤ max left.stop right.stop := by omega
  rw [hull, sum_eq leftFits, ok_bind, sum_eq rightFits, ok_bind]
  exact spanning_eq ordered

/-- The ends of both spans are added up, and a sum that does not fit breaks off. -/
theorem hull_eq_overflow {left right : Span}
    (beyond : 18446744073709551616 ≤ left.stop ∨ 18446744073709551616 ≤ right.stop) :
    hull left right = .error .overflow := by
  rw [hull]
  by_cases leftFits : left.start + left.length < 18446744073709551616
  · have rightBeyond := beyond.resolve_left (Nat.not_le.2 leftFits)
    rw [sum_eq leftFits, ok_bind, sum_eq_overflow rightBeyond]
    rfl
  · rw [sum_eq_overflow (Nat.not_lt.1 leftFits)]
    rfl

end Checked

namespace Script

/-- Whether the ends of the spans of some tokens are numbers of 64 bits. -/
def SpansFit (tokens : List (Spanned Token)) : Prop :=
  ∀ token ∈ tokens, token.span.stop < 18446744073709551616

variable {Value : Type} {tokens : List (Spanned Token)}

namespace Parameter

/-- Reads an argument and widens the span of its command by it. -/
def checked (parameter : Parameter Value) (verb : Verb) (span : Span) (token : Spanned Token) :
    Checked (Except Error (Value × Span)) := do
  let wider ← Checked.hull span token.span
  match parameter.read verb token with
  | .ok value => return .ok (value, wider)
  | .error error => return .error error

/-- Reads arguments until none is left. -/
def checkedAll (parameter : Parameter Value) (verb : Verb) (span : Span) :
    List (Spanned Token) → Checked (Except Error (List Value))
  | [] => return .ok []
  | token :: rest => do
      match ← parameter.checked verb span token with
      | .error error => return .error error
      | .ok (value, wider) =>
          match ← parameter.checkedAll verb wider rest with
          | .error error => return .error error
          | .ok values => return .ok (value :: values)

theorem checked_eq (parameter : Parameter Value) (verb : Verb) {span : Span}
    {token : Spanned Token} (spanFits : span.stop < 18446744073709551616)
    (tokenFits : token.span.stop < 18446744073709551616) :
    parameter.checked verb span token =
      .ok ((parameter.read verb token).map (·, span.hull token.span)) := by
  rw [checked, Checked.hull_eq spanFits tokenFits, Checked.ok_bind]
  cases parameter.read verb token <;> rfl

theorem checkedAll_eq (parameter : Parameter Value) (verb : Verb) {span : Span}
    (spanFits : span.stop < 18446744073709551616) (fit : SpansFit tokens) :
    parameter.checkedAll verb span tokens = .ok (tokens.mapM (parameter.read verb)) := by
  induction tokens generalizing span with
  | nil => rfl
  | cons token rest ih =>
      rcases List.forall_mem_cons.1 fit with ⟨tokenFits, restFit⟩
      have widerFits : (span.hull token.span).stop < 18446744073709551616 := by
        rw [Span.stop_hull]
        omega
      rw [checkedAll, checked_eq parameter verb spanFits tokenFits, List.mapM_cons]
      cases parameter.read verb token with
      | error error => rfl
      | ok value =>
          simp only [Except.map, Checked.ok_bind, ih widerFits restFit]
          cases rest.mapM (parameter.read verb) <;> rfl

end Parameter

namespace Command

def checkedOne (head : Spanned Verb) (parameter : Parameter Value) (command : Value → Command) :
    List (Spanned Token) → Checked (Except Error Command)
  | [] => return .error ⟨.missingArgument head.value parameter.kind, head.span⟩
  | token :: rest => do
      match ← parameter.checked head.value head.span token with
      | .error error => return .error error
      | .ok (value, _) => return (command value).finish rest

def checkedMany (head : Spanned Verb) (parameter : Parameter Value)
    (command : List Value → Command) (tokens : List (Spanned Token)) :
    Checked (Except Error Command) := do
  match ← parameter.checkedAll head.value head.span tokens with
  | .error error => return .error error
  | .ok values => return .ok (command values)

/-- Parses the arguments of a command in checked steps. -/
def checkedArguments (head : Spanned Verb) (tokens : List (Spanned Token)) :
    Checked (Except Error Command) :=
  match head.value with
  | .input => checkedOne head .string input tokens
  | .current => return finish current tokens
  | .advance => return finish advance tokens
  | .retreat => return finish retreat tokens
  | .peek => return finish peek tokens
  | .position => return finish position tokens
  | .remaining => return finish remaining tokens
  | .standsHere => checkedOne head .string standsHere tokens
  | .standsBefore => checkedOne head .string standsBefore tokens
  | .standsAfter => checkedOne head .string standsAfter tokens
  | .distanceTo => checkedOne head .landmark distanceTo tokens
  | .closest => checkedMany head .string closest tokens
  | .checkpoint => checkedOne head .checkpointName checkpoint tokens
  | .rollback => checkedOne head .checkpointName rollback tokens
  | .getUntil => checkedOne head .string getUntil tokens
  | .slice => checkedOne head .length slice tokens
  | .moveBy => checkedOne head .integer moveBy tokens
  | .moveTo => checkedOne head .integer moveTo tokens
  | .jumpTo => checkedOne head .string jumpTo tokens
  | .consume => checkedMany head .string consume tokens

/-- Parses the tokens of a line in checked steps. -/
def checkedTokens : List (Spanned Token) → Checked (Except Error Command)
  | [] => return .error ⟨.missingCommand, .origin⟩
  | head :: arguments =>
      match verb? head.value with
      | some verb => checkedArguments ⟨verb, head.span⟩ arguments
      | none => return .error ⟨.unknownCommand (misnomer head.value), head.span⟩

variable {head : Spanned Verb}

theorem checkedOne_eq (parameter : Parameter Value) (command : Value → Command)
    (headFits : head.span.stop < 18446744073709551616) (fit : SpansFit tokens) :
    checkedOne head parameter command tokens = .ok (withOne head parameter command tokens) := by
  cases tokens with
  | nil => rfl
  | cons token rest =>
      have tokenFits := (List.forall_mem_cons.1 fit).1
      rw [checkedOne, Parameter.checked_eq parameter head.value headFits tokenFits, withOne]
      cases parameter.read head.value token <;> rfl

theorem checkedMany_eq (parameter : Parameter Value) (command : List Value → Command)
    (headFits : head.span.stop < 18446744073709551616) (fit : SpansFit tokens) :
    checkedMany head parameter command tokens =
      .ok (withMany head.value parameter command tokens) := by
  rw [checkedMany, Parameter.checkedAll_eq parameter head.value headFits fit, withMany]
  cases tokens.mapM (parameter.read head.value) <;> rfl

theorem checkedArguments_eq (headFits : head.span.stop < 18446744073709551616)
    (fit : SpansFit tokens) : checkedArguments head tokens = .ok (ofArguments head tokens) := by
  rcases head with ⟨verb, span⟩
  have one : ∀ {Value : Type} (parameter : Parameter Value) (command : Value → Command),
      checkedOne ⟨verb, span⟩ parameter command tokens =
        .ok (withOne ⟨verb, span⟩ parameter command tokens) :=
    fun parameter command => checkedOne_eq parameter command headFits fit
  have many : ∀ {Value : Type} (parameter : Parameter Value) (command : List Value → Command),
      checkedMany ⟨verb, span⟩ parameter command tokens =
        .ok (withMany verb parameter command tokens) :=
    fun parameter command => checkedMany_eq parameter command headFits fit
  cases verb <;> simp only [checkedArguments, one, many] <;> rfl

/-- Tokens are parsed without a failing step if the ends of their spans fit. -/
theorem checkedTokens_eq (fit : SpansFit tokens) :
    checkedTokens tokens = .ok (ofTokens tokens) := by
  cases tokens with
  | nil => rfl
  | cons head arguments =>
      rcases List.forall_mem_cons.1 fit with ⟨headFits, argumentsFit⟩
      rw [checkedTokens, ofTokens]
      cases verb? head.value with
      | none => rfl
      | some verb => exact checkedArguments_eq headFits argumentsFit

theorem checkedTokens_eq_ok_iff {command : Command} (fit : SpansFit tokens) :
    checkedTokens tokens = .ok (.ok command) ↔
      ∃ arguments ∈ command.argumentForms,
        tokens.map Spanned.value = .word command.verb.word :: arguments := by
  rw [checkedTokens_eq fit, Except.ok.injEq, ofTokens_eq_ok_iff]

/-! ### Spans whose ends do not fit -/

section

variable {token : Spanned Token}

theorem checkedOne_eq_overflow (parameter : Parameter Value) (command : Value → Command)
    (beyond : 18446744073709551616 ≤ head.span.stop ∨ 18446744073709551616 ≤ token.span.stop)
    (rest : List (Spanned Token)) :
    checkedOne head parameter command (token :: rest) = .error .overflow := by
  rw [checkedOne, Parameter.checked, Checked.hull_eq_overflow beyond]
  rfl

theorem checkedMany_eq_overflow (parameter : Parameter Value) (command : List Value → Command)
    (beyond : 18446744073709551616 ≤ head.span.stop ∨ 18446744073709551616 ≤ token.span.stop)
    (rest : List (Spanned Token)) :
    checkedMany head parameter command (token :: rest) = .error .overflow := by
  rw [checkedMany, Parameter.checkedAll, Parameter.checked, Checked.hull_eq_overflow beyond]
  rfl

theorem checkedArguments_eq_overflow (takes : ∃ other, Viable (ofArguments head) [other])
    (beyond : 18446744073709551616 ≤ head.span.stop ∨ 18446744073709551616 ≤ token.span.stop)
    (rest : List (Spanned Token)) :
    checkedArguments head (token :: rest) = .error .overflow := by
  rcases head with ⟨verb, span⟩
  rcases takes with ⟨other, more, made, accepted⟩
  have one : ∀ {Value : Type} (parameter : Parameter Value) (command : Value → Command),
      checkedOne ⟨verb, span⟩ parameter command (token :: rest) = .error .overflow :=
    fun parameter command => checkedOne_eq_overflow parameter command beyond rest
  have many : ∀ {Value : Type} (parameter : Parameter Value) (command : List Value → Command),
      checkedMany ⟨verb, span⟩ parameter command (token :: rest) = .error .overflow :=
    fun parameter command => checkedMany_eq_overflow parameter command beyond rest
  -- A verb without arguments accepts no other token, so only the two other shapes are left.
  cases verb <;> first
    | exact one _ _
    | exact many _ _
    | cases accepted

/--
A verb that takes an argument adds up the ends of its own span and of the span of the token after
it. The parser breaks off if one of them is out of range, whatever that token is.
-/
theorem checkedTokens_eq_overflow {first : Spanned Token} {verb : Verb}
    (called : verb? first.value = some verb)
    (takes : ∃ other, Viable (ofArguments ⟨verb, first.span⟩) [other])
    (beyond : 18446744073709551616 ≤ first.span.stop ∨ 18446744073709551616 ≤ token.span.stop)
    (rest : List (Spanned Token)) :
    checkedTokens (first :: token :: rest) = .error .overflow := by
  rw [checkedTokens, called]
  exact checkedArguments_eq_overflow takes beyond rest

end

example : checkedTokens [⟨.word "matches".toList, ⟨0, 7⟩⟩,
    ⟨.string ['a'], ⟨18446744073709551615, 1⟩⟩] = .error .overflow := rfl

end Command

end Script

end TextCursor

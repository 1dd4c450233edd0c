import TextCursor.Script.Command

/-!
# Spans that change

The reader of commands looks at what tokens say and not at where they stand. If the span of every
token is changed in one way, the same command is read, and an error that is found instead has the
same fault and a span that is changed in that way, too. The one error that is about no token is that
of a line without any. Each part of the reader has one lemma for this.
-/

namespace TextCursor

/-- The same value with a changed span. -/
def Spanned.mapSpan {Value : Type} (change : Span → Span) (spanned : Spanned Value) :
    Spanned Value :=
  ⟨spanned.value, change spanned.span⟩

@[simp]
theorem Spanned.value_mapSpan {Value : Type} (change : Span → Span) (spanned : Spanned Value) :
    (spanned.mapSpan change).value = spanned.value := rfl

namespace Script

variable {Value Other : Type}

/-! ### One reading after another -/

theorem bind_eq_ok_iff {result : Except Error Value} {next : Value → Except Error Other}
    {other : Other} :
    result >>= next = .ok other ↔ ∃ value, result = .ok value ∧ next value = .ok other := by
  cases result with
  | error error => simp [bind, Except.bind]
  | ok value => simp [bind, Except.bind]

theorem bind_eq_error_iff {result : Except Error Value} {next : Value → Except Error Other}
    {error : Error} :
    result >>= next = .error error ↔
      result = .error error ∨ ∃ value, result = .ok value ∧ next value = .error error := by
  cases result with
  | error other => simp [bind, Except.bind]
  | ok value => simp [bind, Except.bind]

theorem map_eq_ok_iff {result : Except Error Value} {build : Value → Other} {other : Other} :
    build <$> result = .ok other ↔ ∃ value, result = .ok value ∧ build value = other := by
  cases result with
  | error error => simp [Functor.map, Except.map]
  | ok value => simp [Functor.map, Except.map]

theorem map_eq_error_iff {result : Except Error Value} {build : Value → Other} {error : Error} :
    build <$> result = .error error ↔ result = .error error := by
  cases result with
  | error other => simp [Functor.map, Except.map]
  | ok value => simp [Functor.map, Except.map]

variable (change : Span → Span)

theorem mapError_bind (result : Except Error Value) (next : Value → Except Error Other) :
    (result >>= next).mapError (Spanned.mapSpan change) =
      result.mapError (Spanned.mapSpan change) >>= fun value =>
        (next value).mapError (Spanned.mapSpan change) := by
  cases result <;> rfl

theorem mapError_map (result : Except Error Value) (build : Value → Other) :
    (build <$> result).mapError (Spanned.mapSpan change) =
      build <$> result.mapError (Spanned.mapSpan change) := by
  cases result <;> rfl

/-! ### Reading tokens with changed spans -/

theorem Parameter.read_mapSpan (parameter : Parameter Value) (verb : Verb)
    (token : Spanned Token) :
    parameter.read verb (token.mapSpan change) =
      (parameter.read verb token).mapError (Spanned.mapSpan change) := by
  rw [read, read, Spanned.value_mapSpan]
  cases parameter.accept? token.value with
  | some value => rfl
  | none => rfl

theorem Parameter.mapM_read_mapSpan (parameter : Parameter Value) (verb : Verb)
    (tokens : List (Spanned Token)) :
    (tokens.map (Spanned.mapSpan change)).mapM (parameter.read verb) =
      (tokens.mapM (parameter.read verb)).mapError (Spanned.mapSpan change) := by
  induction tokens with
  | nil => rfl
  | cons token rest ih =>
      simp only [List.map_cons, List.mapM_cons, ih, read_mapSpan, mapError_bind]
      rfl

namespace Command

theorem finish_mapSpan (command : Command) (tokens : List (Spanned Token)) :
    command.finish (tokens.map (Spanned.mapSpan change)) =
      (command.finish tokens).mapError (Spanned.mapSpan change) := by
  cases tokens with
  | nil => rfl
  | cons token rest => rfl

theorem withOne_mapSpan (head : Spanned Verb) (parameter : Parameter Value)
    (command : Value → Command) (tokens : List (Spanned Token)) :
    withOne (head.mapSpan change) parameter command (tokens.map (Spanned.mapSpan change)) =
      (withOne head parameter command tokens).mapError (Spanned.mapSpan change) := by
  cases tokens with
  | nil => rfl
  | cons token rest =>
      simp only [List.map_cons, withOne, Spanned.value_mapSpan, Parameter.read_mapSpan,
        finish_mapSpan, mapError_bind]

theorem withMany_mapSpan (verb : Verb) (parameter : Parameter Value)
    (command : List Value → Command) (tokens : List (Spanned Token)) :
    withMany verb parameter command (tokens.map (Spanned.mapSpan change)) =
      (withMany verb parameter command tokens).mapError (Spanned.mapSpan change) := by
  rw [withMany, withMany, Parameter.mapM_read_mapSpan, mapError_map]

theorem ofArguments_mapSpan (head : Spanned Verb) (tokens : List (Spanned Token)) :
    ofArguments (head.mapSpan change) (tokens.map (Spanned.mapSpan change)) =
      (ofArguments head tokens).mapError (Spanned.mapSpan change) := by
  rcases head with ⟨verb, span⟩
  rcases ofArguments_shape verb with
    ⟨command, shape⟩ | ⟨Value, parameter, command, shape⟩ | ⟨command, shape⟩
  · rw [Spanned.mapSpan, shape, shape]
    exact finish_mapSpan change command tokens
  · rw [Spanned.mapSpan, shape, shape]
    exact withOne_mapSpan change ⟨verb, span⟩ parameter command tokens
  · rw [Spanned.mapSpan, shape, shape]
    exact withMany_mapSpan change verb .string command tokens

/-- Without tokens there is no place, and the error is about the start of the script. -/
theorem ofTokens_mapSpan {tokens : List (Spanned Token)} (nonempty : tokens ≠ []) :
    ofTokens (tokens.map (Spanned.mapSpan change)) =
      (ofTokens tokens).mapError (Spanned.mapSpan change) := by
  cases tokens with
  | nil => exact absurd rfl nonempty
  | cons head arguments =>
      simp only [List.map_cons, ofTokens, Spanned.value_mapSpan]
      cases verb? head.value with
      | some verb => exact ofArguments_mapSpan change ⟨verb, head.span⟩ arguments
      | none => rfl

end Command

end Script

end TextCursor

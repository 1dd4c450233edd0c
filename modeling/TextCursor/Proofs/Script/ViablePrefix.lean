import TextCursor.Proofs.Script.CommandTable

/-!
# Viable prefixes

Tokens are viable for a reader if they begin a list that it accepts. Of tokens that are refused,
either all are viable, and then an argument is missing at the end, or there is a first token that
cannot stand where it stands, and the error is about that one: it is the verb if it is the first of
all, it is invalid if another token could have stood there, and too many if none could. So no error
is found before one that comes earlier in the line, whatever else is wrong with the line.
-/

namespace TextCursor.Script

/-- Whether tokens begin a list that a reader accepts. -/
def Viable (read : List (Spanned Token) → Except Error Command) (tokens : List (Spanned Token)) :
    Prop :=
  ∃ rest command, read (tokens ++ rest) = .ok command

/-- Whether the token at a place is the first one after which nothing is accepted. -/
structure BreaksAt (read : List (Spanned Token) → Except Error Command)
    (tokens : List (Spanned Token)) (place : Nat) : Prop where
  viable : Viable read (tokens.take place)
  stuck : ¬Viable read (tokens.take (place + 1))

section

variable {read : List (Spanned Token) → Except Error Command}
  {tokens before after : List (Spanned Token)} {token : Spanned Token} {place other : Nat}

theorem Viable.take (viable : Viable read tokens) (place : Nat) :
    Viable read (tokens.take place) := by
  rcases viable with ⟨rest, command, accepted⟩
  refine ⟨tokens.drop place ++ rest, command, ?_⟩
  rwa [← List.append_assoc, List.take_append_drop]

theorem Viable.take_of_le (viable : Viable read (tokens.take other)) (atMost : place ≤ other) :
    Viable read (tokens.take place) := by
  have shorter := viable.take place
  rwa [List.take_take, Nat.min_eq_left atMost] at shorter

theorem Viable.of_accepted {command : Command} (accepted : read tokens = .ok command) :
    Viable read tokens :=
  ⟨[], command, by rw [List.append_nil, accepted]⟩

/-- Tokens that are viable and not accepted leave room for another one. -/
theorem Viable.exists_next {error : Error} (viable : Viable read before)
    (refused : read before = .error error) : ∃ next, Viable read (before ++ [next]) := by
  rcases viable with ⟨rest, command, accepted⟩
  cases rest with
  | nil =>
      rw [List.append_nil, refused] at accepted
      cases accepted
  | cons next rest =>
      rw [List.append_cons] at accepted
      exact ⟨next, rest, command, accepted⟩

/-- There is at most one such place. -/
theorem BreaksAt.eq (breaks : BreaksAt read tokens place) (others : BreaksAt read tokens other) :
    other = place := by
  by_contra differ
  rcases Nat.lt_or_gt_of_ne differ with earlier | later
  · exact others.stuck (breaks.viable.take_of_le earlier)
  · exact breaks.stuck (others.viable.take_of_le later)

end

/-- What is said of the arguments of a verb when they are refused, and of which of them. -/
inductive Refuses (head : Spanned Verb) (tokens : List (Spanned Token)) : Error → Prop
  | missing (expected : ArgumentKind) (viable : Viable (Command.ofArguments head) tokens) :
      Refuses head tokens ⟨.missingArgument head.value expected, head.span⟩
  | invalid {before after : List (Spanned Token)} {token : Spanned Token} (expected : ArgumentKind)
      (split : tokens = before ++ token :: after)
      (viable : Viable (Command.ofArguments head) before)
      (takes : ∃ other, Viable (Command.ofArguments head) (before ++ [other]))
      (stuck : ¬Viable (Command.ofArguments head) (before ++ [token])) :
      Refuses head tokens ⟨.invalidArgument head.value expected token.value.kind, token.span⟩
  | unexpected {before after : List (Spanned Token)} {token : Spanned Token}
      (split : tokens = before ++ token :: after)
      (viable : Viable (Command.ofArguments head) before)
      (full : ∀ other, ¬Viable (Command.ofArguments head) (before ++ [other])) :
      Refuses head tokens ⟨.unexpectedArgument head.value, token.span⟩

namespace Parameter

variable {Value : Type} {parameter : Parameter Value} {verb : Verb} {error : Error}

theorem read_eq_error_iff {token : Spanned Token} :
    parameter.read verb token = .error error ↔
      parameter.accept? token.value = none ∧
        error = ⟨.invalidArgument verb parameter.kind token.value.kind, token.span⟩ := by
  rw [read]
  cases parameter.accept? token.value with
  | none => simp [eq_comm]
  | some value => simp

theorem exists_first_of_mapM_read {tokens : List (Spanned Token)}
    (failed : tokens.mapM (parameter.read verb) = .error error) :
    ∃ before token after values, tokens = before ++ token :: after ∧
      before.mapM (parameter.read verb) = .ok values ∧
      parameter.read verb token = .error error := by
  induction tokens with
  | nil => cases failed
  | cons token rest ih =>
      rw [List.mapM_cons, bind_eq_error_iff] at failed
      rcases failed with first | ⟨value, first, others⟩
      · exact ⟨[], token, rest, [], rfl, rfl, first⟩
      · rcases bind_eq_error_iff.1 others with others | ⟨values, -, impossible⟩
        · rcases ih others with ⟨before, second, after, values, rfl, accepted, refused⟩
          refine ⟨token :: before, second, after, value :: values, rfl, ?_, refused⟩
          rw [List.mapM_cons, first, accepted]
          rfl
        · cases impossible

end Parameter

namespace Command

variable {verb : Verb} {span : Span} {tokens : List (Spanned Token)} {error : Error}

/-- Every verb has a command that it calls for. -/
theorem exists_verb_eq (verb : Verb) : ∃ command : Command, command.verb = verb := by
  cases verb with
  | input => exact ⟨input [], rfl⟩
  | current => exact ⟨current, rfl⟩
  | advance => exact ⟨advance, rfl⟩
  | retreat => exact ⟨retreat, rfl⟩
  | peek => exact ⟨peek, rfl⟩
  | position => exact ⟨position, rfl⟩
  | remaining => exact ⟨remaining, rfl⟩
  | standsHere => exact ⟨standsHere [], rfl⟩
  | standsBefore => exact ⟨standsBefore [], rfl⟩
  | standsAfter => exact ⟨standsAfter [], rfl⟩
  | distanceTo => exact ⟨distanceTo .beginning, rfl⟩
  | closest => exact ⟨closest [], rfl⟩
  | checkpoint => exact ⟨checkpoint [], rfl⟩
  | rollback => exact ⟨rollback [], rfl⟩
  | getUntil => exact ⟨getUntil [], rfl⟩
  | slice => exact ⟨slice none, rfl⟩
  | moveBy => exact ⟨moveBy 0, rfl⟩
  | moveTo => exact ⟨moveTo 0, rfl⟩
  | jumpTo => exact ⟨jumpTo [], rfl⟩
  | consume => exact ⟨consume [], rfl⟩

/-- A verb alone is viable. -/
theorem viable_nil (verb : Verb) (span : Span) : Viable (ofArguments ⟨verb, span⟩) [] := by
  rcases exists_verb_eq verb with ⟨command, rfl⟩
  refine ⟨command.arguments.map fun token => ⟨token, .origin⟩, command, ?_⟩
  apply ofArguments_of_values
  simp [Function.comp_def]

theorem refuses_of_finish {made : Command}
    (shape : ∀ span, ofArguments ⟨verb, span⟩ = finish made)
    (failed : ofArguments ⟨verb, span⟩ tokens = .error error) :
    Refuses ⟨verb, span⟩ tokens error := by
  have called : made.verb = verb := by
    have accepted : ofArguments ⟨verb, span⟩ [] = .ok made := by rw [shape, finish]
    exact (fits_of_ofArguments accepted).1
  rw [shape] at failed
  cases tokens with
  | nil => cases failed
  | cons token rest =>
      cases failed
      rw [called]
      refine .unexpected (List.nil_append _).symm (viable_nil verb span) ?_
      rintro other ⟨more, command, accepted⟩
      rw [shape] at accepted
      cases accepted

theorem refuses_of_withOne {Value : Type} {parameter : Parameter Value} {make : Value → Command}
    (shape : ∀ span, ofArguments ⟨verb, span⟩ = withOne ⟨verb, span⟩ parameter make)
    (failed : ofArguments ⟨verb, span⟩ tokens = .error error) :
    Refuses ⟨verb, span⟩ tokens error := by
  have viable := viable_nil verb span
  have missing : ofArguments ⟨verb, span⟩ [] =
      .error ⟨.missingArgument verb parameter.kind, span⟩ := by
    rw [shape, withOne]
  cases tokens with
  | nil =>
      rw [missing] at failed
      cases failed
      exact .missing parameter.kind viable
  | cons token rest =>
      rw [shape, withOne, bind_eq_error_iff] at failed
      rcases failed with first | ⟨value, first, finished⟩
      · rcases Parameter.read_eq_error_iff.1 first with ⟨-, rfl⟩
        refine .invalid parameter.kind (List.nil_append _).symm viable
          (viable.exists_next missing) ?_
        rintro ⟨more, command, accepted⟩
        rw [List.nil_append, List.singleton_append, shape, withOne, first] at accepted
        cases accepted
      · have accepted : ofArguments ⟨verb, span⟩ [token] = .ok (make value) := by
          rw [shape, withOne, first]
          rfl
        cases rest with
        | nil => cases finished
        | cons second rest =>
            cases finished
            rw [(fits_of_ofArguments accepted).1]
            refine .unexpected List.singleton_append.symm (.of_accepted accepted) ?_
            rintro other ⟨more, command, accepted⟩
            rw [shape, List.append_assoc, List.singleton_append, withOne, first] at accepted
            cases accepted

theorem refuses_of_withMany {make : List Text → Command}
    (shape : ∀ span, ofArguments ⟨verb, span⟩ = withMany verb .string make)
    (failed : ofArguments ⟨verb, span⟩ tokens = .error error) :
    Refuses ⟨verb, span⟩ tokens error := by
  rw [shape, withMany, map_eq_error_iff] at failed
  rcases Parameter.exists_first_of_mapM_read failed with
    ⟨before, token, after, values, rfl, accepted, refused⟩
  rcases Parameter.read_eq_error_iff.1 refused with ⟨-, rfl⟩
  have accepts {more : List (Spanned Token)} {others : List Text}
      (read : more.mapM (Parameter.string.read verb) = .ok others) :
      Viable (ofArguments ⟨verb, span⟩) more := by
    have made : ofArguments ⟨verb, span⟩ more = .ok (make others) := by
      rw [shape, withMany, read]
      rfl
    exact .of_accepted made
  have another : List.mapM (Parameter.string.read verb) (before ++ [⟨.string [], .origin⟩]) =
      .ok (values ++ [[]]) := by
    rw [List.mapM_append, accepted]
    rfl
  refine .invalid .string rfl (accepts accepted) ⟨⟨.string [], .origin⟩, accepts another⟩ ?_
  rintro ⟨more, command, read⟩
  rw [shape, withMany, List.append_assoc, List.mapM_append, accepted, List.singleton_append,
    List.mapM_cons, refused] at read
  cases read

theorem refuses_of_ofArguments {head : Spanned Verb}
    (failed : ofArguments head tokens = .error error) : Refuses head tokens error := by
  rcases ofArguments_shape head.value with
    ⟨command, shape⟩ | ⟨Value, parameter, command, shape⟩ | ⟨command, shape⟩
  · exact refuses_of_finish shape failed
  · exact refuses_of_withOne shape failed
  · exact refuses_of_withMany shape failed

/-! ### Whole lines of tokens -/

/-- A line of tokens is refused for its verb or for the arguments after it. -/
theorem ofTokens_error_cases {head : Spanned Token} {arguments : List (Spanned Token)}
    (failed : ofTokens (head :: arguments) = .error error) :
    (verb? head.value = none ∧ error = ⟨.unknownCommand (misnomer head.value), head.span⟩) ∨
      ∃ verb, verb? head.value = some verb ∧ Refuses ⟨verb, head.span⟩ arguments error := by
  rw [ofTokens] at failed
  cases called : verb? head.value with
  | none =>
      rw [called] at failed
      cases failed
      exact .inl ⟨rfl, rfl⟩
  | some verb =>
      rw [called] at failed
      exact .inr ⟨verb, rfl, refuses_of_ofArguments failed⟩

end Command

end TextCursor.Script

import TextCursor.Proofs.Script.CommandSpelling
import TextCursor.Proofs.Script.Respanning

/-!
# The command table

The verb of a command and the tokens that its arguments can be written with are a row of the command
table, where a name has two rows, as a word and as a string. The reader of commands accepts the rows
of the table and nothing else, by `Command.ofTokens_eq_ok_iff`: an argument place takes the tokens
that stand for its value, and what is left over or missing is refused. Where the tokens stand does
not matter.
-/

namespace TextCursor.Script

theorem Verb.word_injective : Function.Injective Verb.word := by
  intro verb other same
  have found := ofText?_word verb
  rw [same, ofText?_word, Option.some.injEq] at found
  exact found.symm

namespace Parameter

/-! ### The tokens of an argument place -/

theorem string_cases {motive : Token → Text → Prop}
    (string : ∀ content, motive (.string content) content) {token : Token} {content : Text}
    (accepted : Parameter.string.accept? token = some content) : motive token content := by
  cases token with
  | string other =>
      cases accepted
      exact string content
  | word spelling => cases accepted
  | integer number => cases accepted
  | marker sign => cases accepted

theorem integer_cases {motive : Token → Offset → Prop}
    (integer : ∀ number, motive (.integer number) number) {token : Token} {number : Offset}
    (accepted : Parameter.integer.accept? token = some number) : motive token number := by
  cases token with
  | integer other =>
      cases accepted
      exact integer number
  | word spelling => cases accepted
  | string content => cases accepted
  | marker sign => cases accepted

theorem checkpointName_cases {motive : Token → Text → Prop}
    (word : ∀ name, motive (.word name) name) (string : ∀ name, motive (.string name) name)
    {token : Token} {name : Text}
    (accepted : Parameter.checkpointName.accept? token = some name) : motive token name := by
  cases token with
  | word other =>
      cases accepted
      exact word name
  | string other =>
      cases accepted
      exact string name
  | integer number => cases accepted
  | marker sign => cases accepted

theorem landmark_cases {motive : Token → Landmark → Prop}
    (string : ∀ target, motive (.string target) (.text target))
    (beginning : motive (.marker .beginning) .beginning)
    (ending : motive (.marker .ending) .ending) {token : Token} {landmark : Landmark}
    (accepted : Parameter.landmark.accept? token = some landmark) : motive token landmark := by
  cases token with
  | string target =>
      cases accepted
      exact string target
  | marker sign =>
      cases sign with
      | beginning =>
          cases accepted
          exact beginning
      | ending =>
          cases accepted
          exact ending
      | rest => cases accepted
  | word spelling => cases accepted
  | integer number => cases accepted

theorem length_cases {motive : Token → Option Offset → Prop}
    (integer : ∀ number, motive (.integer number) (some number))
    (rest : motive (.marker .rest) none) {token : Token} {length? : Option Offset}
    (accepted : Parameter.length.accept? token = some length?) : motive token length? := by
  cases token with
  | integer number =>
      cases accepted
      exact integer number
  | marker sign =>
      cases sign with
      | rest =>
          cases accepted
          exact rest
      | beginning => cases accepted
      | ending => cases accepted
  | word spelling => cases accepted
  | string content => cases accepted

theorem read_eq_ok_iff {Value : Type} {parameter : Parameter Value} {verb : Verb}
    {token : Spanned Token} {value : Value} :
    parameter.read verb token = .ok value ↔ parameter.accept? token.value = some value := by
  rw [read]
  cases parameter.accept? token.value with
  | none => simp
  | some other => simp

end Parameter

namespace Command

/-- The lists of tokens that the arguments of a command can be written with. -/
def argumentForms : Command → List (List Token)
  | checkpoint name => [[.word name], [.string name]]
  | rollback name => [[.word name], [.string name]]
  | command => [command.arguments]

theorem mem_argumentForms_iff {command : Command} {tokens : List Token} :
    tokens ∈ command.argumentForms ↔
      tokens = command.arguments ∨
        ∃ name, tokens = [.word name] ∧
          (command = .checkpoint name ∨ command = .rollback name) := by
  cases command <;> simp [argumentForms, arguments, or_comm]

variable {verb : Verb} {span : Span} {command : Command} {tokens : List (Spanned Token)}

/-- Whether tokens are the arguments of a command that a verb calls for. -/
def Fits (verb : Verb) (tokens : List Token) (command : Command) : Prop :=
  command.verb = verb ∧ tokens ∈ command.argumentForms

/-! ### What is accepted fits -/

theorem fits_of_finish {made : Command} (row : Fits verb [] made)
    (parsed : made.finish tokens = .ok command) :
    Fits verb (tokens.map Spanned.value) command := by
  cases tokens with
  | nil =>
      cases parsed
      exact row
  | cons token rest => cases parsed

theorem fits_of_withOne {Value : Type} {parameter : Parameter Value} {make : Value → Command}
    (row : ∀ {token value}, parameter.accept? token = some value → Fits verb [token] (make value))
    (parsed : withOne ⟨verb, span⟩ parameter make tokens = .ok command) :
    Fits verb (tokens.map Spanned.value) command := by
  cases tokens with
  | nil => cases parsed
  | cons token rest =>
      rw [withOne, bind_eq_ok_iff] at parsed
      rcases parsed with ⟨value, read, finished⟩
      cases rest with
      | nil =>
          cases finished
          exact row (Parameter.read_eq_ok_iff.1 read)
      | cons second rest => cases finished

theorem fits_of_string {make : Text → Command}
    (row : ∀ content, Fits verb [.string content] (make content))
    (parsed : withOne ⟨verb, span⟩ .string make tokens = .ok command) :
    Fits verb (tokens.map Spanned.value) command := by
  apply fits_of_withOne _ parsed
  apply Parameter.string_cases
  exact row

theorem values_of_mapM_read {targets : List Text}
    (read : tokens.mapM (Parameter.string.read verb) = .ok targets) :
    tokens.map Spanned.value = targets.map Token.string := by
  induction tokens generalizing targets with
  | nil =>
      cases read
      rfl
  | cons token rest ih =>
      rw [List.mapM_cons, bind_eq_ok_iff] at read
      rcases read with ⟨target, first, read⟩
      rw [bind_eq_ok_iff] at read
      rcases read with ⟨others, restRead, made⟩
      cases made
      have value : token.value = .string target :=
        Parameter.string_cases (motive := fun token target => token = .string target)
          (fun _ => rfl) (Parameter.read_eq_ok_iff.1 first)
      rw [List.map_cons, List.map_cons, value, ih restRead]

theorem fits_of_withMany {make : List Text → Command}
    (row : ∀ targets : List Text, Fits verb (targets.map .string) (make targets))
    (parsed : withMany verb .string make tokens = .ok command) :
    Fits verb (tokens.map Spanned.value) command := by
  rw [withMany, map_eq_ok_iff] at parsed
  rcases parsed with ⟨targets, read, rfl⟩
  rw [values_of_mapM_read read]
  exact row targets

theorem fits_arguments (command : Command) : Fits command.verb command.arguments command :=
  ⟨rfl, mem_argumentForms_iff.2 (.inl rfl)⟩

theorem fits_of_ofArguments (parsed : ofArguments ⟨verb, span⟩ tokens = .ok command) :
    Fits verb (tokens.map Spanned.value) command := by
  cases verb with
  | input => exact fits_of_string (fun text => fits_arguments (input text)) parsed
  | current => exact fits_of_finish (fits_arguments current) parsed
  | advance => exact fits_of_finish (fits_arguments advance) parsed
  | retreat => exact fits_of_finish (fits_arguments retreat) parsed
  | peek => exact fits_of_finish (fits_arguments peek) parsed
  | position => exact fits_of_finish (fits_arguments position) parsed
  | remaining => exact fits_of_finish (fits_arguments remaining) parsed
  | standsHere =>
      exact fits_of_string (fun target => fits_arguments (standsHere target)) parsed
  | standsBefore =>
      exact fits_of_string (fun target => fits_arguments (standsBefore target)) parsed
  | standsAfter =>
      exact fits_of_string (fun target => fits_arguments (standsAfter target)) parsed
  | distanceTo =>
      apply fits_of_withOne _ parsed
      apply Parameter.landmark_cases
      · exact fun target => fits_arguments (distanceTo (.text target))
      · exact fits_arguments (distanceTo .beginning)
      · exact fits_arguments (distanceTo .ending)
  | closest => exact fits_of_withMany (fun targets => fits_arguments (closest targets)) parsed
  | checkpoint =>
      apply fits_of_withOne _ parsed
      apply Parameter.checkpointName_cases
      · exact fun name => ⟨rfl, mem_argumentForms_iff.2 (.inr ⟨name, rfl, .inl rfl⟩)⟩
      · exact fun name => fits_arguments (checkpoint name)
  | rollback =>
      apply fits_of_withOne _ parsed
      apply Parameter.checkpointName_cases
      · exact fun name => ⟨rfl, mem_argumentForms_iff.2 (.inr ⟨name, rfl, .inr rfl⟩)⟩
      · exact fun name => fits_arguments (rollback name)
  | getUntil =>
      exact fits_of_string (fun target => fits_arguments (getUntil target)) parsed
  | slice =>
      apply fits_of_withOne _ parsed
      apply Parameter.length_cases
      · exact fun length => fits_arguments (slice (some length))
      · exact fits_arguments (slice none)
  | moveBy =>
      apply fits_of_withOne _ parsed
      apply Parameter.integer_cases
      exact fun delta => fits_arguments (moveBy delta)
  | moveTo =>
      apply fits_of_withOne _ parsed
      apply Parameter.integer_cases
      exact fun place => fits_arguments (moveTo place)
  | jumpTo =>
      exact fits_of_string (fun target => fits_arguments (jumpTo target)) parsed
  | consume => exact fits_of_withMany (fun targets => fits_arguments (consume targets)) parsed

/-! ### What fits is accepted -/

theorem ofArguments_of_fits (span : Span) (fits : Fits verb (tokens.map Spanned.value) command) :
    ofArguments ⟨verb, span⟩ tokens = .ok command := by
  rcases fits with ⟨rfl, form⟩
  rcases mem_argumentForms_iff.1 form with same | ⟨name, word, rfl | rfl⟩
  · exact ofArguments_of_values span same
  · exact withOne_of_value rfl word
  · exact withOne_of_value rfl word

theorem ofArguments_eq_ok_iff :
    ofArguments ⟨verb, span⟩ tokens = .ok command ↔
      Fits verb (tokens.map Spanned.value) command :=
  ⟨fits_of_ofArguments, ofArguments_of_fits span⟩

theorem verb?_eq_some_iff {token : Token} : verb? token = some verb ↔ token = .word verb.word := by
  cases token with
  | word spelling => simp [verb?, Verb.ofText?_eq_some_iff]
  | string content => simp [verb?]
  | integer number => simp [verb?]
  | marker sign => simp [verb?]

theorem ofTokens_eq_ok_iff :
    ofTokens tokens = .ok command ↔
      ∃ arguments ∈ command.argumentForms,
        tokens.map Spanned.value = .word command.verb.word :: arguments := by
  cases tokens with
  | nil => simp [ofTokens]
  | cons head rest =>
      rw [ofTokens, List.map_cons]
      cases called : verb? head.value with
      | none =>
          have nameless : head.value ≠ .word command.verb.word := by
            intro word
            rw [word, verb?_eq_some_iff.2 rfl] at called
            cases called
          simp [nameless]
      | some verb =>
          have sameWord : verb.word = command.verb.word ↔ command.verb = verb := by
            rw [eq_comm, Verb.word_injective.eq_iff]
          rw [verb?_eq_some_iff.1 called]
          simp only [ofArguments_eq_ok_iff, Fits, List.cons.injEq, Token.word.injEq, sameWord]
          constructor
          · rintro ⟨called, form⟩
            exact ⟨_, form, called, rfl⟩
          · rintro ⟨arguments, form, called, rfl⟩
            exact ⟨called, form⟩

end Command

end TextCursor.Script

import TextCursor.Proofs.Script.LineReading
import TextCursor.Script.Command

/-!
# Spellings of commands

A command is written as its verb and, each after blanks, its arguments, names among them as strings.
`Command.ofTokens_of_values` reads a command back from any tokens with these values, and
`Command.writes_of_spelledBy` finds these values on any line that spells the command. Every command
has such a line, since every text and every offset has a lexeme without a line break.
-/

namespace TextCursor.Script

namespace Command

/-- The tokens of the arguments. -/
def arguments : Command → List Token
  | input text => [.string text]
  | current => []
  | advance => []
  | retreat => []
  | peek => []
  | position => []
  | remaining => []
  | standsHere target => [.string target]
  | standsBefore target => [.string target]
  | standsAfter target => [.string target]
  | distanceTo .beginning => [.marker .beginning]
  | distanceTo .ending => [.marker .ending]
  | distanceTo (.text target) => [.string target]
  | closest targets => targets.map .string
  | checkpoint name => [.string name]
  | rollback name => [.string name]
  | getUntil target => [.string target]
  | slice (some length) => [.integer length]
  | slice none => [.marker .rest]
  | moveBy delta => [.integer delta]
  | moveTo place => [.integer place]
  | jumpTo target => [.string target]
  | consume targets => targets.map .string

theorem withOne_of_value {Value : Type} {head : Spanned Verb} {parameter : Parameter Value}
    {command : Value → Command} {token : Token} {value : Value} {tokens : List (Spanned Token)}
    (accepted : parameter.accept? token = some value)
    (values : tokens.map Spanned.value = [token]) :
    withOne head parameter command tokens = .ok (command value) := by
  rcases List.map_eq_singleton_iff.1 values with ⟨only, rfl, rfl⟩
  simp only [withOne, Parameter.read, accepted]
  rfl

theorem mapM_read_of_values {verb : Verb} {targets : List Text} {tokens : List (Spanned Token)}
    (values : tokens.map Spanned.value = targets.map Token.string) :
    tokens.mapM (Parameter.string.read verb) = .ok targets := by
  induction tokens generalizing targets with
  | nil =>
      cases targets with
      | nil => rfl
      | cons target targets => cases values
  | cons token tokens ih =>
      cases targets with
      | nil => cases values
      | cons target targets =>
          simp only [List.map_cons, List.cons.injEq] at values
          rcases values with ⟨value, rest⟩
          have read : Parameter.string.read verb token = .ok target := by
            simp only [Parameter.read, value, Parameter.string]
          rw [List.mapM_cons, read, ih rest]
          rfl

theorem withMany_of_values {verb : Verb} {command : List Text → Command} {targets : List Text}
    {tokens : List (Spanned Token)}
    (values : tokens.map Spanned.value = targets.map Token.string) :
    withMany verb .string command tokens = .ok (command targets) := by
  rw [withMany, mapM_read_of_values values]
  rfl

theorem finish_of_values {command : Command} {tokens : List (Spanned Token)}
    (values : tokens.map Spanned.value = []) : command.finish tokens = .ok command := by
  rw [List.map_eq_nil_iff] at values
  rw [values, finish]

theorem ofArguments_of_values {command : Command} {tokens : List (Spanned Token)} (span : Span)
    (values : tokens.map Spanned.value = command.arguments) :
    ofArguments ⟨command.verb, span⟩ tokens = .ok command := by
  cases command with
  | input text => exact withOne_of_value rfl values
  | current => exact finish_of_values values
  | advance => exact finish_of_values values
  | retreat => exact finish_of_values values
  | peek => exact finish_of_values values
  | position => exact finish_of_values values
  | remaining => exact finish_of_values values
  | standsHere target => exact withOne_of_value rfl values
  | standsBefore target => exact withOne_of_value rfl values
  | standsAfter target => exact withOne_of_value rfl values
  | distanceTo landmark =>
      cases landmark with
      | beginning => exact withOne_of_value rfl values
      | ending => exact withOne_of_value rfl values
      | text target => exact withOne_of_value rfl values
  | closest targets => exact withMany_of_values values
  | checkpoint name => exact withOne_of_value rfl values
  | rollback name => exact withOne_of_value rfl values
  | getUntil target => exact withOne_of_value rfl values
  | slice length? =>
      cases length? with
      | none => exact withOne_of_value rfl values
      | some length => exact withOne_of_value rfl values
  | moveBy delta => exact withOne_of_value rfl values
  | moveTo place => exact withOne_of_value rfl values
  | jumpTo target => exact withOne_of_value rfl values
  | consume targets => exact withMany_of_values values

/-- A command is read back from its verb and its arguments, wherever they stand. -/
theorem ofTokens_of_values {command : Command} {tokens : List (Spanned Token)}
    (values : tokens.map Spanned.value = .word command.verb.word :: command.arguments) :
    ofTokens tokens = .ok command := by
  cases tokens with
  | nil => cases values
  | cons head rest =>
      simp only [List.map_cons, List.cons.injEq] at values
      rcases values with ⟨word, restValues⟩
      simp only [ofTokens, word, verb?, Verb.ofText?_word]
      exact ofArguments_of_values head.span restValues

end Command

namespace Layout

/-- Whether a text is a line of the given tokens without an expectation. -/
def Writes (text : Text) (tokens : List Token) : Prop :=
  ∃ layout : Layout, layout.Separated ∧ layout.text = text ∧ layout.tokens = tokens ∧
    layout.expected? = none

theorem writes_nil : Writes [] [] := ⟨done, trivial, rfl, rfl, rfl⟩

namespace Writes

variable {text : Text} {tokens : List Token}

theorem blanks {blanks : Text} (spacing : ∀ c ∈ blanks, isBlank c = true)
    (written : Writes text tokens) : Writes (blanks ++ text) tokens := by
  induction blanks with
  | nil => exact written
  | cons c blanks ih =>
      have restSpacing : ∀ d ∈ blanks, isBlank d = true := by
        intro d mem
        exact spacing d (by simp [mem])
      rcases ih restSpacing with ⟨layout, separated, same, layoutTokens, none⟩
      refine ⟨blank c (spacing c (by simp)) layout, separated, ?_, layoutTokens, none⟩
      rw [Layout.text, same, List.cons_append]

theorem spelling {spelling : Spelling} (ends : spelling.EndsBefore text)
    (written : Writes text tokens) :
    Writes (spelling.text ++ text) (spelling.token :: tokens) := by
  rcases written with ⟨layout, separated, rfl, rfl, none⟩
  exact ⟨lexeme spelling layout, ⟨ends, separated⟩, rfl, rfl, none⟩

theorem read (written : Writes text tokens) (start : Nat) :
    ∃ line, Line.read start text = .ok line ∧ line.tokens.map Spanned.value = tokens ∧
      line.expectation? = none := by
  rcases written with ⟨layout, separated, rfl, rfl, none⟩
  refine ⟨layout.line start, Line.read_text separated start,
    layout.value_tokens_line start, ?_⟩
  have absent := layout.value_expectation_line start
  rw [none, Option.map_eq_none_iff] at absent
  exact absent

end Writes

end Layout

namespace Glyph

/-- Every text can be written in a string literal without a line break. -/
theorem exists_glyphs_of_content (content : Text) :
    ∃ glyphs : List Glyph, glyphs.map char = content ∧ '\n' ∉ spell glyphs := by
  induction content with
  | nil => exact ⟨[], rfl, by simp⟩
  | cons c rest ih =>
      rcases ih with ⟨glyphs, rfl, oneLine⟩
      by_cases quote : c = '"'
      · subst quote
        exact ⟨.escaped '"' '"' rfl :: glyphs, rfl, by simp [text, oneLine]⟩
      by_cases backslash : c = '\\'
      · subst backslash
        exact ⟨.escaped '\\' '\\' rfl :: glyphs, rfl, by simp [text, oneLine]⟩
      by_cases lineBreak : c = '\n'
      · subst lineBreak
        exact ⟨.escaped 'n' '\n' rfl :: glyphs, rfl, by simp [text, oneLine]⟩
      · refine ⟨.plain c quote backslash :: glyphs, rfl, ?_⟩
        simp [text, oneLine, Ne.symm lineBreak]

end Glyph

namespace Spelling

theorem endsBefore_of_stops {spelling : Spelling} {rest : Text}
    (stops : ∀ c ∈ rest.head?, isWordPart c = false) : spelling.EndsBefore rest := by
  cases spelling with
  | word first more starts continues => exact stops
  | integer negative digits number nonempty decimal value => exact stops
  | string glyphs => trivial
  | marker sign => trivial

theorem exists_of_word {word : Text} (starts : word.head?.any isWordStart = true)
    (continues : word.all isWordPart = true) :
    ∃ spelling : Spelling, spelling.text = word ∧ spelling.token = .word word := by
  cases word with
  | nil => simp at starts
  | cons first rest =>
      simp only [List.head?_cons, Option.any_some] at starts
      simp only [List.all_cons, Bool.and_eq_true, List.all_eq_true] at continues
      exact ⟨.word first rest starts continues.2, rfl, rfl⟩

theorem exists_of_verb (verb : Verb) :
    ∃ spelling : Spelling, spelling.text = verb.word ∧ spelling.token = .word verb.word := by
  apply exists_of_word
  · cases verb <;> decide
  · cases verb <;> decide

theorem exists_of_string (content : Text) :
    ∃ spelling : Spelling, spelling.token = .string content ∧ '\n' ∉ spelling.text := by
  rcases Glyph.exists_glyphs_of_content content with ⟨glyphs, rfl, oneLine⟩
  exact ⟨.string glyphs, rfl, by simp [text, oneLine]⟩

theorem exists_of_integer (number : Offset) :
    ∃ spelling : Spelling, spelling.token = .integer number ∧ '\n' ∉ spelling.text := by
  have decimal : ∀ c ∈ Decimal.ofNat number.value.natAbs, c.isDigit = true := by
    intro c mem
    exact Nat.isDigit_of_mem_toDigits (by decide) (by decide) mem
  have value : number.value = Decimal.signed (decide (number.value < 0))
      (Decimal.toNat (Decimal.ofNat number.value.natAbs)) := by
    rw [Decimal.toNat_ofNat, Decimal.signed]
    by_cases negative : number.value < 0
    · rw [decide_eq_true negative, if_pos rfl]
      omega
    · rw [decide_eq_false negative, if_neg Bool.false_ne_true]
      omega
  refine ⟨.integer (decide (number.value < 0)) (Decimal.ofNat number.value.natAbs) number
    Nat.toDigits_ne_nil decimal value, rfl, ?_⟩
  intro mem
  rcases List.mem_append.1 mem with sign | digit
  · cases negative : decide (number.value < 0) <;> simp [negative, Decimal.sign] at sign
  · exact absurd (decimal _ digit) (by decide)

end Spelling

theorem Line.read_verb (verb : Verb) (rest : Text)
    (stops : ∀ c ∈ rest.head?, isWordPart c = false) (start : Nat) :
    Line.read start (verb.word ++ rest) =
      (Line.read (start + verb.word.utf8Size) rest).map
        (Line.cons ⟨.word verb.word, ⟨start, verb.word.utf8Size⟩⟩) := by
  rcases Spelling.exists_of_verb verb with ⟨spelling, text, token⟩
  have found := Line.read_spelling (spelling.endsBefore_of_stops stops) start
  rw [Lexeme.spanned, Spelling.lexeme, text, token] at found
  exact found

/-- An argument as it is written on a line, after at least one blank. -/
structure WrittenArgument where
  blanks : Text
  spelling : Spelling
  apart : blanks ≠ []
  spacing : ∀ c ∈ blanks, isBlank c = true
  oneLine : '\n' ∉ spelling.text

namespace WrittenArgument

def text (argument : WrittenArgument) : Text := argument.blanks ++ argument.spelling.text

def token (argument : WrittenArgument) : Token := argument.spelling.token

theorem stops_flatMap_text (written : List WrittenArgument) :
    ∀ c ∈ (written.flatMap text).head?, isWordPart c = false := by
  intro c first
  cases written with
  | nil => simp at first
  | cons argument rest =>
      rcases List.exists_cons_of_ne_nil argument.apart with ⟨blank, blanks, split⟩
      simp only [List.flatMap_cons, text, split, List.cons_append, List.head?_cons,
        Option.mem_def, Option.some.injEq] at first
      subst first
      have spacing := argument.spacing blank (by simp [split])
      by_contra part
      rw [Bool.not_eq_false] at part
      rw [(reserved_of_isWordPart part).1] at spacing
      cases spacing

theorem writes_flatMap_text (written : List WrittenArgument) :
    Layout.Writes (written.flatMap text) (written.map token) := by
  induction written with
  | nil => exact Layout.writes_nil
  | cons argument rest ih =>
      have ends : argument.spelling.EndsBefore (rest.flatMap text) :=
        Spelling.endsBefore_of_stops (stops_flatMap_text rest)
      have line := (ih.spelling ends).blanks argument.spacing
      rw [← List.append_assoc] at line
      exact line

theorem exists_of_tokens {tokens : List Token}
    (spelled : ∀ token ∈ tokens, ∃ spelling : Spelling,
      spelling.token = token ∧ '\n' ∉ spelling.text) :
    ∃ written : List WrittenArgument, written.map token = tokens := by
  induction tokens with
  | nil => exact ⟨[], rfl⟩
  | cons token rest ih =>
      rcases spelled token (by simp) with ⟨spelling, rfl, oneLine⟩
      rcases ih (fun other mem => spelled other (by simp [mem])) with ⟨written, rfl⟩
      have spacing : ∀ c ∈ [' '], isBlank c = true := by
        intro c mem
        rw [List.mem_singleton.1 mem]
        rfl
      exact ⟨⟨[' '], spelling, by simp, spacing, oneLine⟩ :: written, rfl⟩

end WrittenArgument

namespace Command

/-- Whether a text is the verb of a command and its arguments, each after blanks. -/
def SpelledBy (command : Command) (text : Text) : Prop :=
  ∃ written : List WrittenArgument, written.map WrittenArgument.token = command.arguments ∧
    text = command.verb.word ++ written.flatMap WrittenArgument.text

theorem exists_spelling_of_mem_arguments {command : Command} {token : Token}
    (mem : token ∈ command.arguments) :
    ∃ spelling : Spelling, spelling.token = token ∧ '\n' ∉ spelling.text := by
  cases token with
  | string content => exact Spelling.exists_of_string content
  | integer number => exact Spelling.exists_of_integer number
  | marker sign =>
      refine ⟨.marker sign, rfl, ?_⟩
      cases sign <;> decide
  | word spelling =>
      rw [arguments.eq_def] at mem
      split at mem <;> simp at mem

theorem exists_spelledBy (command : Command) : ∃ text, command.SpelledBy text := by
  have spelled : ∀ token ∈ command.arguments, ∃ spelling : Spelling,
      spelling.token = token ∧ '\n' ∉ spelling.text := by
    intro token mem
    exact exists_spelling_of_mem_arguments mem
  rcases WrittenArgument.exists_of_tokens spelled with ⟨written, tokens⟩
  exact ⟨_, written, tokens, rfl⟩

theorem writes_of_spelledBy {command : Command} {text : Text} (spelled : command.SpelledBy text) :
    Layout.Writes text (.word command.verb.word :: command.arguments) := by
  rcases spelled with ⟨written, tokens, rfl⟩
  rcases Spelling.exists_of_verb command.verb with ⟨spelling, text, token⟩
  have ends : spelling.EndsBefore (written.flatMap WrittenArgument.text) :=
    Spelling.endsBefore_of_stops (WrittenArgument.stops_flatMap_text written)
  have line := (WrittenArgument.writes_flatMap_text written).spelling ends
  rw [text, token, tokens] at line
  exact line

/--
Every command can be written on a line, and from every line on which it is written, wherever that
line starts, the command is read back without an expectation.
-/
theorem read_back (command : Command) :
    (∃ text, command.SpelledBy text) ∧
      ∀ text, command.SpelledBy text → ∀ start, ∃ line, Line.read start text = .ok line ∧
        line.expectation? = none ∧ ofTokens line.tokens = .ok command := by
  refine ⟨command.exists_spelledBy, ?_⟩
  intro text spelled start
  rcases (writes_of_spelledBy spelled).read start with ⟨line, found, values, none⟩
  exact ⟨line, found, none, ofTokens_of_values values⟩

end Command

end TextCursor.Script

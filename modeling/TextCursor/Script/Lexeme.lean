import TextCursor.Script.Fault

/-!
# Lexemes

A lexeme is a word, a string literal, an integer or a marker together with its spelling. Reading
takes the lexeme that a text begins with and leaves the rest, or tells which part of the text
offends. `Lexeme.append_of_read` says that nothing is lost: spelling and rest are the text.
-/

namespace TextCursor.Script

def isWordStart (c : Char) : Bool := c = '_' || c.isAlpha

/-- A character that continues a word, and that may not follow an integer. -/
def isWordPart (c : Char) : Bool := c = '-' || isWordStart c || c.isDigit

/-- What a character stands for after a backslash, if it may stand there. -/
def unescape? : Char → Option Char
  | 'n' => some '\n'
  | 't' => some '\t'
  | 'r' => some '\r'
  | '0' => some '\x00'
  | '\\' => some '\\'
  | '"' => some '"'
  | '\'' => some '\''
  | _ => none

/-- The token that a text begins with, how it is spelled, and what comes after it. -/
structure Lexeme where
  token : Token
  spelling : Text
  rest : Text

/-- A text that begins with no lexeme: the part that offends and what was read before it. -/
structure Misspelling where
  fault : Fault
  before : Text
  offending : Text

/-- The part of a string literal that follows its opening quote. -/
structure StringTail where
  content : Text
  spelling : Text
  rest : Text

/-- Why a text is not the part of a string literal that follows its opening quote. -/
inductive StringFault where
  | unterminated
  | unknownEscape (before : Text) (c : Char)

namespace StringTail

/-- A tail with one more character in front, which is spelled as given. -/
def cons (c : Char) (spelling : Text) (tail : StringTail) : StringTail :=
  ⟨c :: tail.content, spelling ++ tail.spelling, tail.rest⟩

/-- Reads up to the closing quote and past it. -/
def read : Text → Except StringFault StringTail
  | [] => .error .unterminated
  | '"' :: rest => .ok ⟨[], ['"'], rest⟩
  | ['\\'] => .error .unterminated
  | '\\' :: letter :: rest =>
      match unescape? letter with
      | some meant => prepend meant ['\\', letter] (read rest)
      | none => .error (.unknownEscape [] letter)
  | c :: rest => prepend c [c] (read rest)
where
  prepend (meant : Char) (spelling : Text) :
      Except StringFault StringTail → Except StringFault StringTail
    | .ok tail => .ok (tail.cons meant spelling)
    | .error (.unknownEscape before c) => .error (.unknownEscape (spelling ++ before) c)
    | .error .unterminated => .error .unterminated

theorem append_of_prepend {meant : Char} {spelling : Text}
    {result : Except StringFault StringTail} {tail : StringTail}
    (found : read.prepend meant spelling result = .ok tail) :
    ∃ inner, result = .ok inner ∧ tail = inner.cons meant spelling := by
  unfold read.prepend at found
  split at found <;> cases found
  exact ⟨_, rfl, rfl⟩

/-- Spelling and rest of a tail are the text that it was read from. -/
theorem append_of_read {text : Text} {tail : StringTail} (found : read text = .ok tail) :
    tail.spelling ++ tail.rest = text := by
  fun_induction read text generalizing tail with
  | case1 => cases found
  | case2 => cases found; rfl
  | case3 => cases found
  | case4 letter rest meant known ih =>
      obtain ⟨inner, innerFound, rfl⟩ := append_of_prepend found
      simp [cons, ih innerFound]
  | case5 => cases found
  | case6 c rest _ _ _ ih =>
      obtain ⟨inner, innerFound, rfl⟩ := append_of_prepend found
      simp [cons, ih innerFound]

end StringTail

namespace Lexeme

/-- Reads a string literal, the text after its opening quote being given. -/
def readString (text : Text) : Except Misspelling Lexeme :=
  match StringTail.read text with
  | .ok tail => .ok ⟨.string tail.content, '"' :: tail.spelling, tail.rest⟩
  | .error .unterminated => .error ⟨.unterminatedString, [], '"' :: text⟩
  | .error (.unknownEscape before c) => .error ⟨.unknownEscape c, '"' :: before, ['\\', c]⟩

/-- Reads an integer, its sign having been read and its digits coming next. -/
def readInteger (sign text : Text) : Except Misspelling Lexeme :=
  let digits := text.takeWhile Char.isDigit
  let rest := text.dropWhile Char.isDigit
  let junk := rest.takeWhile isWordPart
  let magnitude : Int := Decimal.toNat digits
  if junk.isEmpty then
    match Offset.ofInt? (if sign.isEmpty then magnitude else -magnitude) with
    | some number => .ok ⟨.integer number, sign ++ digits, rest⟩
    | none => .error ⟨.integerOutOfRange, [], sign ++ digits⟩
  else
    .error ⟨.malformedInteger, [], sign ++ digits ++ junk⟩

/-- Reads the lexeme that the text begins with. -/
def read (c : Char) (rest : Text) : Except Misspelling Lexeme :=
  if c = '"' then
    readString rest
  else if c.isDigit then
    readInteger [] (c :: rest)
  else if c = '-' && rest.head?.any Char.isDigit then
    readInteger [c] rest
  else if isWordStart c then
    let spelling := (c :: rest).takeWhile isWordPart
    .ok ⟨.word spelling, spelling, (c :: rest).dropWhile isWordPart⟩
  else
    match Marker.ofChar? c with
    | some marker => .ok ⟨.marker marker, [c], rest⟩
    | none => .error ⟨.unexpectedCharacter c, [], [c]⟩

theorem append_of_readString {text : Text} {lexeme : Lexeme}
    (found : readString text = .ok lexeme) :
    lexeme.spelling ++ lexeme.rest = '"' :: text := by
  unfold readString at found
  split at found
  · next tail tailFound =>
      cases found
      simp [StringTail.append_of_read tailFound]
  · cases found
  · cases found

theorem append_of_readInteger {sign text : Text} {lexeme : Lexeme}
    (found : readInteger sign text = .ok lexeme) :
    lexeme.spelling ++ lexeme.rest = sign ++ text := by
  unfold readInteger at found
  dsimp only at found
  split at found
  · split at found
    · cases found
      simp
    · cases found
  · cases found

/-- Spelling and rest of a lexeme are the text that it was read from. -/
theorem append_of_read {c : Char} {rest : Text} {lexeme : Lexeme}
    (found : read c rest = .ok lexeme) : lexeme.spelling ++ lexeme.rest = c :: rest := by
  unfold read at found
  split at found
  · subst c
    exact append_of_readString found
  split at found
  · exact append_of_readInteger found
  split at found
  · exact append_of_readInteger found
  split at found
  · cases found
    exact List.takeWhile_append_dropWhile
  split at found
  · cases found
    rfl
  · cases found

theorem spelling_ne_nil_of_read {c : Char} {rest : Text} {lexeme : Lexeme}
    (found : read c rest = .ok lexeme) : lexeme.spelling ≠ [] := by
  unfold read at found
  split at found
  · unfold readString at found
    split at found <;> cases found
    simp
  split at found
  · next digit =>
      simp only [readInteger, List.takeWhile_cons_of_pos digit] at found
      split at found
      · split at found <;> cases found
        simp
      · cases found
  split at found
  · simp only [readInteger] at found
    split at found
    · split at found <;> cases found
      simp
    · cases found
  split at found
  · next start =>
      have part : isWordPart c = true := by simp [isWordPart, start]
      cases found
      simp [List.takeWhile_cons_of_pos part]
  split at found
  · cases found
    simp
  · cases found

theorem length_rest_lt_of_read {c : Char} {rest : Text} {lexeme : Lexeme}
    (found : read c rest = .ok lexeme) : lexeme.rest.length < (c :: rest).length := by
  have positive := List.length_pos_iff.2 (spelling_ne_nil_of_read found)
  rw [← append_of_read found, List.length_append]
  omega

end Lexeme

end TextCursor.Script

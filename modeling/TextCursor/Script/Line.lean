import TextCursor.Script.Lexeme

/-!
# Lines

A line of a script is a row of tokens, which blanks may separate. A number sign ends it, and so
does `=>`, after which the rest of the line is the expected outcome, kept as it is but for the
blanks around it. Tokens, expectations and errors have spans, which count bytes from the place in
the script at which the line starts.
-/

namespace TextCursor.Script

structure Line where
  tokens : List (Spanned Token)
  /-- The text that the outcome of the line has to be. -/
  expectation? : Option (Spanned Text)
  deriving DecidableEq

namespace Misspelling

/-- The error of a text that starts at the given byte. -/
def error (misspelling : Misspelling) (start : Nat) : Error :=
  ⟨misspelling.fault, ⟨start + misspelling.before.utf8Size, misspelling.offending.utf8Size⟩⟩

end Misspelling

namespace Lexeme

/-- The token of a lexeme that starts at the given byte. -/
def spanned (lexeme : Lexeme) (start : Nat) : Spanned Token :=
  ⟨lexeme.token, ⟨start, lexeme.spelling.utf8Size⟩⟩

end Lexeme

namespace Line

def cons (token : Spanned Token) (line : Line) : Line :=
  { line with tokens := token :: line.tokens }

/-- The expectation that a text is, without the blanks before it and the white space after it. -/
def readExpectation (start : Nat) (text : Text) : Spanned Text :=
  let blanks : Text := text.takeWhile isBlank
  let expected := Text.trimEnd (text.dropWhile isBlank)
  ⟨expected, ⟨start + blanks.utf8Size, expected.utf8Size⟩⟩

/--
Reads a line that starts at the given byte. Bytes are added up without a bound here; a scanner adds
them up in 64 bits, and reads the same line as long as they fit.
-/
def read (start : Nat) (text : Text) : Except Error Line :=
  match text with
  | [] => .ok ⟨[], none⟩
  | c :: rest =>
      if isBlank c then
        read (start + c.utf8Size) rest
      else if c = '#' then
        .ok ⟨[], none⟩
      else if c = '=' ∧ rest.head? = some '>' then
        .ok ⟨[], some (readExpectation (start + 2) rest.tail)⟩
      else
        match found : Lexeme.read c rest with
        | .error misspelling => .error (misspelling.error start)
        | .ok lexeme =>
            have := Lexeme.length_rest_lt_of_read found
            (read (start + lexeme.spelling.utf8Size) lexeme.rest).map (cons (lexeme.spanned start))
termination_by text.length
decreasing_by
  · exact Nat.lt_succ_self rest.length
  · exact this

end Line

end TextCursor.Script

import TextCursor.Text.CharacterClass

/-!
# Quoted texts

A rendering encloses a text in double quotes and a single character in single quotes. Inside, the
five characters that have a letter or sign of their own after a backslash are written that way, so
is the enclosing quote, and every other control character is written by its number, so that a
quoted text is always one line that shows no control character.
-/

namespace TextCursor.Quoted

/-- How a character is written between the given quotes. -/
def escape (quote c : Char) : Text :=
  match c with
  | '\n' => ['\\', 'n']
  | '\t' => ['\\', 't']
  | '\r' => ['\\', 'r']
  | '\x00' => ['\\', '0']
  | '\\' => ['\\', '\\']
  | _ =>
      if c = quote then
        ['\\', c]
      else if isControl c then
        ['\\', 'u', '\x7b'] ++ Nat.toDigits 16 c.toNat ++ ['\x7d']
      else
        [c]

def enclose (quote : Char) (text : Text) : Text :=
  quote :: (text.flatMap (escape quote) ++ [quote])

def text (content : Text) : Text := enclose '"' content

def character (c : Char) : Text := enclose '\'' [c]

end TextCursor.Quoted

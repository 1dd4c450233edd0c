import TextCursor.Offset
import TextCursor.Text.Basic

/-!
# Tokens

A token is what a line of a script is made of: a word, a string, an integer or a marker.
-/

namespace TextCursor.Script

/-- A sign that stands for a place or an extent. -/
inductive Marker where
  /-- The start of the input. -/
  | beginning
  /-- The end of the input. -/
  | ending
  /-- Everything up to the end of the input. -/
  | rest
  deriving DecidableEq

namespace Marker

def sign : Marker → Char
  | beginning => '^'
  | ending => '$'
  | rest => '*'

def ofChar? : Char → Option Marker
  | '^' => some beginning
  | '$' => some ending
  | '*' => some rest
  | _ => none

@[simp]
theorem ofChar?_sign (marker : Marker) : ofChar? marker.sign = some marker := by
  cases marker <;> rfl

theorem ofChar?_eq_some_iff {c : Char} {marker : Marker} :
    ofChar? c = some marker ↔ c = marker.sign := by
  constructor
  · intro found
    unfold ofChar? at found
    split at found <;> cases found <;> rfl
  · rintro rfl
    exact ofChar?_sign marker

end Marker

/-- What kind of thing a token is, as told in errors. -/
inductive TokenKind where
  | word
  | string
  | integer
  | marker (sign : Marker)
  deriving DecidableEq

def TokenKind.describe : TokenKind → String
  | word => "a word"
  | string => "a string"
  | integer => "an integer"
  | marker .beginning => "`^`"
  | marker .ending => "`$`"
  | marker .rest => "`*`"

inductive Token where
  | word (spelling : Text)
  | string (content : Text)
  | integer (number : Offset)
  | marker (sign : Marker)
  deriving DecidableEq

def Token.kind : Token → TokenKind
  | word _ => .word
  | string _ => .string
  | integer _ => .integer
  | marker sign => .marker sign

end TextCursor.Script

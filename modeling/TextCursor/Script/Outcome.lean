import TextCursor.Distance
import TextCursor.Text.Quoted

/-!
# Outcomes

An outcome is what a command comes to. Its rendering is one line of text, which is printed and which
expectations are compared with.
-/

namespace TextCursor.Script

inductive Outcome where
  | done
  | character (c? : Option Char)
  | flag (value : Bool)
  | offset (place : Offset)
  | index (place? : Option Nat)
  | distance (amount : Distance)
  | ranking (places : List (Text × Distance))
  | text (content : Text)
  | textIfAny (content? : Option Text)
  deriving DecidableEq

namespace Outcome

/-- A place in a ranking: a text and its distance. -/
def renderPlace (place : Text × Distance) : Text :=
  '(' :: (Quoted.text place.1 ++ ", ".toList ++ place.2.render ++ [')'])

/-- The rendering of what is not there. -/
def absent : Text := "none".toList

def render : Outcome → Text
  | done => "ok".toList
  | character (some c) => Quoted.character c
  | character none => absent
  | flag true => "true".toList
  | flag false => "false".toList
  | offset place => Decimal.ofInt place.value
  | index (some place) => Decimal.ofNat place
  | index none => absent
  | distance amount => amount.render
  | ranking places => '[' :: (List.intercalate ", ".toList (places.map renderPlace) ++ [']'])
  | text content => Quoted.text content
  | textIfAny (some content) => Quoted.text content
  | textIfAny none => absent

end Outcome

end TextCursor.Script

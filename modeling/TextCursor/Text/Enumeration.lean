import TextCursor.Text.Basic

/-!
# Enumerations

A list of items written as a phrase: commas between the items and a conjunction before the last
one, as in `a, b or c`. An empty list has a wording of its own.
-/

namespace TextCursor.Enumeration

/-- What follows the items written so far: a comma before each item but the last. -/
def continuation (conjunction : Text) : List Text → Text
  | [] => []
  | [last] => ' ' :: (conjunction ++ ' ' :: last)
  | item :: rest => ',' :: ' ' :: (item ++ continuation conjunction rest)

def phrase (conjunction onEmpty : Text) : List Text → Text
  | [] => onEmpty
  | first :: rest => first ++ continuation conjunction rest

end TextCursor.Enumeration

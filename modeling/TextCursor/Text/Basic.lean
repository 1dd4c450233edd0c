/-!
# Texts

A text is a list of characters: places in it count characters, and `Text.utf8Size` gives the bytes
that it takes up when written down. `Text.lines` cuts a text at its line breaks, `Text.indexOf?`
finds the first place at which a target stands, and `Text.takeWhileFrom` and `Text.repeats` are the
two ways in which a beginning is skipped: by a test on characters and by a list of targets.
-/

namespace TextCursor

abbrev Text := List Char

namespace Text

/-- The number of bytes of the text in UTF-8. -/
def utf8Size : Text → Nat
  | [] => 0
  | c :: rest => c.utf8Size + utf8Size rest

@[simp]
theorem utf8Size_nil : utf8Size [] = 0 := rfl

@[simp]
theorem utf8Size_cons (c : Char) (text : Text) :
    utf8Size (c :: text) = c.utf8Size + utf8Size text := rfl

@[simp]
theorem utf8Size_append (left right : Text) :
    utf8Size (left ++ right) = utf8Size left + utf8Size right := by
  induction left with
  | nil => simp
  | cons c rest ih => simp [ih, Nat.add_assoc]

/-- The pieces between line breaks; a text that ends in a line break has an empty last piece. -/
def lines (text : Text) : List Text := List.splitOn '\n' text

theorem lines_append_lineBreak (left right : Text) :
    lines (left ++ '\n' :: right) = lines left ++ lines right :=
  List.splitOnP_append_cons left right (beq_self_eq_true '\n')

/-- The first place at which the target stands in a text; an empty target stands everywhere. -/
def indexOf? (target : Text) : Text → Option Nat
  | [] => if target.isEmpty then some 0 else none
  | c :: rest =>
      if target.isPrefixOf (c :: rest) then some 0 else (indexOf? target rest).map (· + 1)

/--
The longest beginning of a text that a test accepts, and the state in which the test is left. The
test carries a state and sees the characters in order, the first one that it rejects included.
-/
def takeWhileFrom {State : Type} (accept : State → Char → Bool × State) (state : State) :
    Text → Text × State
  | [] => ([], state)
  | c :: rest =>
      match accept state c with
      | (true, next) =>
          let (taken, final) := takeWhileFrom accept next rest
          (c :: taken, final)
      | (false, next) => ([], next)

/-- The first of the targets that is not empty and that begins the text. -/
def leading? (targets : List Text) (text : Text) : Option Text :=
  targets.find? fun target => !target.isEmpty && target.isPrefixOf text

theorem leads_of_leading? {targets : List Text} {text target : Text}
    (found : leading? targets text = some target) : target ≠ [] ∧ target <+: text := by
  simpa using List.find?_some found

theorem length_drop_lt_of_leading? {targets : List Text} {text target : Text}
    (found : leading? targets text = some target) :
    (text.drop target.length).length < text.length := by
  have ⟨nonempty, leads⟩ := leads_of_leading? found
  have atMost := leads.length_le
  have positive := List.length_pos_iff.2 nonempty
  simp only [List.length_drop]
  omega

/-- The beginning of a text that is made of targets, at each place the first one that leads. -/
def repeats (targets : List Text) (text : Text) : Text :=
  match found : leading? targets text with
  | none => []
  | some target =>
      have := length_drop_lt_of_leading? found
      target ++ repeats targets (text.drop target.length)
termination_by text.length
decreasing_by exact this

end Text

end TextCursor

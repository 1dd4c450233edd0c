import TextCursor.Proofs.Script.Composition

/-!
# Placement of lines

The lines of a script with a line break between any two of them are the script. So the line that is
placed at a byte and numbered has all the bytes and all the line breaks before it that its place
says, and it ends before the next one starts.
-/

namespace TextCursor

namespace Text

theorem notMem_of_mem_lines {script text : Text} (mem : text ∈ lines script) : '\n' ∉ text := by
  induction script generalizing text with
  | nil =>
      rw [List.mem_singleton.1 mem]
      exact List.not_mem_nil
  | cons c rest ih =>
      rw [lines_cons] at mem
      rcases List.exists_cons_of_ne_nil (lines_ne_nil rest) with ⟨first, others, pieces⟩
      rw [pieces] at mem ih
      split at mem
      · rcases List.mem_cons.1 mem with rfl | mem
        · exact List.not_mem_nil
        · exact ih mem
      · next noLineBreak =>
          rcases List.mem_cons.1 mem with rfl | mem
          · rw [List.mem_cons, not_or]
            exact ⟨Ne.symm noLineBreak, ih (List.mem_cons_self ..)⟩
          · exact ih (List.mem_cons_of_mem _ mem)

theorem intercalate_lines (script : Text) : List.intercalate ['\n'] (lines script) = script :=
  List.intercalate_splitOn '\n'

end Text

namespace Script

namespace PlacedLine

variable {placed : PlacedLine} {number start : Nat} {texts : List Text}

/-- A line of a text comes after as many line breaks and bytes as its number and its start say. -/
theorem exists_split_of_mem_place (oneLine : ∀ text ∈ texts, '\n' ∉ text)
    (mem : placed ∈ place number start texts) :
    ∃ before after : Text, List.intercalate ['\n'] texts = before ++ (placed.text ++ after) ∧
      placed.number = number + before.count '\n' ∧ placed.start = start + before.utf8Size ∧
      '\n' ∉ placed.text := by
  induction texts generalizing number start with
  | nil => cases mem
  | cons text rest ih =>
      rw [List.forall_mem_cons] at oneLine
      rcases List.mem_cons.1 mem with rfl | mem
      · cases rest with
        | nil => exact ⟨[], [], by simp, rfl, rfl, oneLine.1⟩
        | cons next others =>
            refine ⟨[], ['\n'] ++ List.intercalate ['\n'] (next :: others), ?_, rfl, rfl, oneLine.1⟩
            rw [List.intercalate_cons_of_ne_nil (by simp)]
            simp
      · rcases ih oneLine.2 mem with ⟨before, after, split, number_eq, start_eq, notMem⟩
        have nonempty : rest ≠ [] := by
          rintro rfl
          cases mem
        have oneByte : '\n'.utf8Size = 1 := rfl
        have noLineBreak : text.count '\n' = 0 := List.count_eq_zero.2 oneLine.1
        refine ⟨text ++ '\n' :: before, after, ?_, ?_, ?_, notMem⟩
        · rw [List.intercalate_cons_of_ne_nil nonempty, split]
          simp
        · rw [number_eq, List.count_append, noLineBreak, List.count_cons_self]
          omega
        · rw [start_eq, Text.utf8Size_append, Text.utf8Size_cons, oneByte]
          omega

theorem mem_place_append (number start : Nat) (before : List Text) (text : Text)
    (after : List Text) :
    (⟨number + before.length, start + Text.linesSize before, text⟩ : PlacedLine) ∈
      place number start (before ++ text :: after) := by
  induction before generalizing number start with
  | nil => exact List.mem_cons_self ..
  | cons first rest ih =>
      have later := ih (number + 1) (start + first.utf8Size + 1)
      have number_eq : number + 1 + rest.length = number + (rest.length + 1) := by omega
      have start_eq : start + first.utf8Size + 1 + Text.linesSize rest =
          start + (first.utf8Size + 1 + Text.linesSize rest) := by omega
      rw [number_eq, start_eq] at later
      exact List.mem_cons_of_mem _ later

theorem le_of_mem_place (mem : placed ∈ place number start texts) :
    number ≤ placed.number ∧ start ≤ placed.start := by
  induction texts generalizing number start with
  | nil => cases mem
  | cons text rest ih =>
      rcases List.mem_cons.1 mem with rfl | mem
      · exact ⟨Nat.le_refl _, Nat.le_refl _⟩
      · have later := ih mem
        omega

/-- Whether a line ends before another one starts. -/
def Precedes (left right : PlacedLine) : Prop :=
  left.number < right.number ∧ left.start + left.text.utf8Size < right.start

theorem pairwise_place (number start : Nat) (texts : List Text) :
    (place number start texts).Pairwise Precedes := by
  induction texts generalizing number start with
  | nil => exact List.Pairwise.nil
  | cons text rest ih =>
      refine List.Pairwise.cons ?_ (ih (number + 1) (start + text.utf8Size + 1))
      intro placed mem
      have later := le_of_mem_place mem
      simp only [Precedes]
      omega

end PlacedLine

end Script

end TextCursor

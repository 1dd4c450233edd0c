import TextCursor.Proofs.Cursor.Skipping
import TextCursor.Script.Scanner

/-!
# Scanning

`Scanner.Splits` is what holds between any two steps of a scanner: the cursor stands where the line
is split into what was read and what is to come, and the bytes of the line can be counted to its
end. So what is under the cursor is what is to come, the two ends of what was read last are in the
table, and the second one does not precede the first one.
-/

namespace TextCursor

namespace Text

theorem length_offsets (start : Nat) (text : Text) :
    (offsets start text).length = text.length + 1 := by
  induction text generalizing start with
  | nil => rfl
  | cons c rest ih => rw [offsets, List.length_cons, ih, List.length_cons]

theorem getElem?_offsets_append (start : Nat) (before rest : Text) :
    (offsets start (before ++ rest))[before.length]? = some (start + before.utf8Size) := by
  induction before generalizing start with
  | nil => cases rest <;> rfl
  | cons c before ih =>
      rw [List.cons_append, offsets, List.length_cons, List.getElem?_cons_succ, ih, utf8Size_cons,
        Nat.add_assoc]

end Text

namespace Script

theorem repeats_blanks (text : Text) : Text.repeats blanks text = text.takeWhile isBlank := by
  have single : ∀ target ∈ blanks, target.length ≤ 1 := by decide
  have accepted : (fun c => blanks.contains [c]) = isBlank := by
    funext c
    simp [blanks, isBlank, Bool.or_assoc]
  rw [Text.repeats_of_single single, accepted]

end Script

namespace Checked

theorem takeWhile_eq (cursor : Cursor) (test : Char → Bool) :
    takeWhile cursor test = .ok (cursor.skip (cursor.ahead.takeWhile test)) := by
  rw [takeWhile, consumeWhile_eq, ok_bind, Cursor.consumeWhile, Text.takeWhileFrom_stateless]
  rfl

end Checked

namespace Script

namespace Scanner

/-- Skips a text that is to come. -/
def pass (scanner : Scanner) (text : Text) : Scanner :=
  scanner.withCursor (scanner.cursor.skip text).2

/-- Whether a scanner stands where a line is split in two, the line starting at the byte `base`. -/
structure Splits (scanner : Scanner) (base : Nat) (before rest : Text) : Prop where
  source_eq : scanner.cursor.source = before ++ rest
  position_eq : scanner.cursor.position.value = before.length
  offsets_eq : scanner.offsets = Text.offsets 0 (before ++ rest)
  base_eq : scanner.base = base
  fits : base + (before ++ rest).utf8Size < 18446744073709551616

variable {scanner : Scanner} {base : Nat} {before rest text : Text}

/-- Every place of the line is in the table. -/
theorem byte_of_offsets_eq {place : Offset}
    (table : scanner.offsets = Text.offsets 0 (before ++ rest))
    (value : place.value = before.length) :
    scanner.byte place = scanner.arithmetic.sum scanner.base before.utf8Size := by
  have number : place.toNat? = some before.length := Offset.toNat?_eq_some_iff.2 value.symm
  rw [byte, table, Text.length_offsets, Checked.difference, if_pos (Nat.le_add_left ..),
    Checked.ok_bind, number, Option.getD_some, Nat.add_sub_cancel, List.length_append,
    Nat.min_eq_left (Nat.le_add_right ..)]
  dsimp only
  rw [Text.getElem?_offsets_append, Checked.require, Checked.ok_bind, Nat.zero_add]

theorem splits_ofLine (arithmetic : Arithmetic) {line : Text}
    (fits : line.length < 9223372036854775808)
    (bytesFit : base + line.utf8Size < 18446744073709551616) :
    (ofLine arithmetic base line).Splits base [] line where
  source_eq := Cursor.source_ofText fits
  position_eq := rfl
  offsets_eq := rfl
  base_eq := rfl
  fits := bytesFit

namespace Splits

theorem ahead_eq (splits : scanner.Splits base before rest) : scanner.cursor.ahead = rest := by
  have place : scanner.cursor.position.toNat? = some before.length :=
    Offset.toNat?_eq_some_iff.2 splits.position_eq.symm
  rw [Cursor.ahead, place, splits.source_eq]
  exact List.drop_left

theorem current_eq (splits : scanner.Splits base before rest) :
    scanner.cursor.current = rest.head? := by
  rw [Cursor.current_eq_head?, splits.ahead_eq]

theorem leads (splits : scanner.Splits base before (text ++ rest)) :
    text <+: scanner.cursor.ahead := by
  rw [splits.ahead_eq]
  exact List.prefix_append text rest

/-- Skipping a text moves the split after it. -/
theorem pass (splits : scanner.Splits base before (text ++ rest)) :
    (scanner.pass text).Splits base (before ++ text) rest where
  source_eq := by
    rw [List.append_assoc]
    exact splits.source_eq
  position_eq := by
    have moved := (Cursor.value_position_skip splits.leads).1
    rw [List.length_append]
    rw [splits.position_eq] at moved
    exact moved
  offsets_eq := by
    rw [List.append_assoc]
    exact splits.offsets_eq
  base_eq := splits.base_eq
  fits := by
    rw [List.append_assoc]
    exact splits.fits

/-- The bytes up to every place of the line can be counted. -/
theorem byte_eq (splits : scanner.Splits base before rest) {front back : Text} {place : Offset}
    (whole : before ++ rest = front ++ back) (value : place.value = front.length) :
    scanner.byte place = .ok (base + front.utf8Size) := by
  have table := splits.offsets_eq
  have bytesFit := splits.fits
  rw [whole] at table bytesFit
  rw [Text.utf8Size_append] at bytesFit
  rw [byte_of_offsets_eq table value, splits.base_eq, Arithmetic.sum_eq _ (by omega)]

/-- The span of what was read last; it ends after it starts. -/
theorem spanFrom_eq (splits : scanner.Splits base (before ++ text) rest) {start : Offset}
    (value : start.value = before.length) :
    scanner.spanFrom start = .ok ⟨base + before.utf8Size, text.utf8Size⟩ := by
  have whole : before ++ text ++ rest = before ++ (text ++ rest) := List.append_assoc ..
  rw [spanFrom, splits.byte_eq whole value, Checked.ok_bind,
    splits.byte_eq rfl splits.position_eq, Checked.ok_bind, Text.utf8Size_append,
    Checked.spanning_eq (by omega)]
  congr 2
  omega

theorem errorFrom_eq (splits : scanner.Splits base (before ++ text) rest) {start : Offset}
    (value : start.value = before.length) (fault : Fault) :
    scanner.errorFrom start fault = .ok ⟨fault, ⟨base + before.utf8Size, text.utf8Size⟩⟩ := by
  rw [errorFrom, splits.spanFrom_eq value]
  rfl

theorem pass_takeWhile (splits : scanner.Splits base before text) (test : Char → Bool) :
    (scanner.pass (text.takeWhile test)).Splits base (before ++ text.takeWhile test)
      (text.dropWhile test) := by
  apply pass
  rw [List.takeWhile_append_dropWhile]
  exact splits

theorem takeWhile_eq (splits : scanner.Splits base before text) (test : Char → Bool) :
    Checked.takeWhile scanner.cursor test =
      .ok (text.takeWhile test, (scanner.pass (text.takeWhile test)).cursor) := by
  rw [Checked.takeWhile_eq, splits.ahead_eq]
  rfl

theorem consume_blanks (splits : scanner.Splits base before text) :
    Checked.consume scanner.cursor blanks =
      .ok (text.takeWhile isBlank, (scanner.pass (text.takeWhile isBlank)).cursor) := by
  rw [Checked.consume_eq, Cursor.consume, splits.ahead_eq, repeats_blanks]
  rfl

theorem sliceToEnd_eq (splits : scanner.Splits base before rest) :
    Checked.sliceToEnd scanner.cursor =
      .ok (rest, scanner.cursor.moveTo scanner.cursor.stop) := by
  have place : scanner.cursor.position.clip scanner.cursor.length = before.length := by
    rw [Offset.clip, splits.position_eq, Cursor.length, splits.source_eq, List.length_append]
    omega
  rw [Checked.sliceToEnd_eq, Cursor.sliceToEnd, Cursor.remaining_eq_drop, place, splits.source_eq,
    List.drop_left]

theorem toGo_eq (splits : scanner.Splits base before rest) :
    scanner.cursor.toGo = rest.length := by
  rw [Cursor.toGo, splits.position_eq, Cursor.length, splits.source_eq, List.length_append]
  omega

theorem standsHere_eq (splits : scanner.Splits base before rest) (nonempty : text ≠ []) :
    scanner.cursor.standsHere text = text.isPrefixOf rest := by
  rw [Bool.eq_iff_iff, Cursor.standsHere_iff_leads nonempty, splits.ahead_eq,
    List.isPrefixOf_iff_prefix]

theorem peek_eq {c : Char} (splits : scanner.Splits base before (c :: rest)) :
    scanner.cursor.peek = rest.head? := by
  have after : (scanner.pass [c]).Splits base (before ++ [c]) rest := pass splits
  exact after.current_eq

end Splits

/-- Skipping what was partly read already moves the split after all of it. -/
theorem Splits.pass_append {read : Text}
    (splits : scanner.Splits base (before ++ read) (text ++ rest)) :
    (scanner.pass text).Splits base (before ++ (read ++ text)) rest := by
  rw [← List.append_assoc]
  exact splits.pass

theorem pass_pass (scanner : Scanner) (first second : Text) :
    (scanner.pass first).pass second = scanner.pass (first ++ second) := by
  simp only [pass, withCursor, Cursor.skip_skip]

theorem withCursor_pass (scanner : Scanner) (text : Text) :
    scanner.withCursor (scanner.pass text).cursor = scanner.pass text := rfl

theorem advance_eq_pass (scanner : Scanner) (c : Char) : scanner.advance = scanner.pass [c] := rfl

theorem advance_pass (scanner : Scanner) (text : Text) (c : Char) :
    (scanner.pass text).advance = scanner.pass (text ++ [c]) :=
  pass_pass scanner text [c]

end Scanner

end Script

end TextCursor

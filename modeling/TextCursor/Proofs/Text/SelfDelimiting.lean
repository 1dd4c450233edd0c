import Mathlib.Data.List.Basic
import TextCursor.Proofs.Script.QuotedReading

/-!
# Self-delimiting renderings

A rendering is self-delimiting if it shows where it ends, whatever comes after it. Such renderings
can be put one after the other and still be told apart, so that a whole built from them determines
its parts. Escapes are self-delimiting, and with them quoted texts: the quote that ends a text is
never the beginning of an escape. Decimals are not, and need a sign after them that is no digit.
-/

namespace TextCursor

namespace Text

variable {Value Other : Type} {render : Value → Text}

/-- Whether texts that begin with renderings begin with the same one and go on in the same way. -/
def SelfDelimiting (render : Value → Text) : Prop :=
  ∀ ⦃left right : Value⦄ ⦃leftRest rightRest : Text⦄,
    render left ++ leftRest = render right ++ rightRest → left = right ∧ leftRest = rightRest

namespace SelfDelimiting

theorem injective (code : SelfDelimiting render) : Function.Injective render := by
  intro left right same
  exact (code (congrArg (· ++ []) same)).1

theorem after (code : SelfDelimiting render) (opening : Text) :
    SelfDelimiting fun value => opening ++ render value := by
  intro left right leftRest rightRest same
  rw [List.append_assoc, List.append_assoc, List.append_right_inj] at same
  exact code same

theorem pair {other : Other → Text} (first : SelfDelimiting render)
    (second : SelfDelimiting other) :
    SelfDelimiting fun values : Value × Other => render values.1 ++ other values.2 := by
  rintro ⟨left, leftOther⟩ ⟨right, rightOther⟩ leftRest rightRest same
  rw [List.append_assoc, List.append_assoc] at same
  rcases first same with ⟨rfl, sameOther⟩
  rcases second sameOther with ⟨rfl, sameRest⟩
  exact ⟨rfl, sameRest⟩

/-- A row of renderings ends at a sign with which none of them begins. -/
theorem row (code : SelfDelimiting render) {stop : Char}
    (apart : ∀ value rest tail, render value ++ rest ≠ stop :: tail) :
    SelfDelimiting fun values : List Value => values.flatMap render ++ [stop] := by
  intro left
  induction left with
  | nil =>
      intro right leftRest rightRest same
      cases right with
      | nil => exact ⟨rfl, (List.cons.inj same).2⟩
      | cons value values =>
          simp only [List.flatMap_cons, List.append_assoc] at same
          exact absurd same.symm (apart value _ leftRest)
  | cons value values ih =>
      intro right leftRest rightRest same
      cases right with
      | nil =>
          simp only [List.flatMap_cons, List.append_assoc] at same
          exact absurd same (apart value _ rightRest)
      | cons other others =>
          simp only [List.flatMap_cons, List.append_assoc] at same
          rcases code same with ⟨rfl, sameOthers⟩
          rw [← List.append_assoc, ← List.append_assoc] at sameOthers
          rcases ih sameOthers with ⟨rfl, sameRest⟩
          exact ⟨rfl, sameRest⟩

end SelfDelimiting

/-- A rendering that never has a sign in it is ended by that sign. -/
theorem selfDelimiting_of_notMem (distinct : Function.Injective render) {stop : Char}
    (absent : ∀ value, stop ∉ render value) :
    SelfDelimiting fun value => render value ++ [stop] := by
  intro left right leftRest rightRest same
  have upToStop (value : Value) (rest : Text) :
      (render value ++ stop :: rest).takeWhile (· != stop) = render value := by
    apply takeWhile_append_of_stops
    · intro c mem
      have other : c ≠ stop := by
        rintro rfl
        exact absent value mem
      simpa using other
    · intro c first
      cases first
      simp
  simp only [List.append_assoc, List.singleton_append] at same
  have sameText : render left = render right := by
    rw [← upToStop left leftRest, same, upToStop]
  rw [sameText, List.append_right_inj, List.cons.injEq] at same
  exact ⟨distinct sameText, same.2⟩

end Text

namespace Decimal

theorem digitChar_injective {left right : Nat} (leftSmall : left < 16) (rightSmall : right < 16)
    (same : Nat.digitChar left = Nat.digitChar right) : left = right := by
  have distinct : ∀ left < 16, ∀ right < 16,
      Nat.digitChar left = Nat.digitChar right → left = right := by decide
  exact distinct left leftSmall right rightSmall same

/-- Different numbers have different digits, in every base for which there are enough of them. -/
theorem toDigits_injective {base : Nat} (atLeast : 1 < base) (atMost : base ≤ 16) :
    Function.Injective (Nat.toDigits base) := by
  intro left
  induction left using Nat.strongRecOn with
  | ind left ih =>
      intro right same
      have oneDigit (number : Nat) :
          (Nat.toDigits base number).length ≤ 1 ↔ number < base := by
        rw [Nat.length_toDigits_le_iff atLeast Nat.one_pos, Nat.pow_one]
      by_cases leftSmall : left < base
      · have rightSmall : right < base := by rwa [← oneDigit, ← same, oneDigit]
        rw [Nat.toDigits_of_lt_base leftSmall, Nat.toDigits_of_lt_base rightSmall] at same
        exact digitChar_injective (by omega) (by omega) (List.singleton_inj.1 same)
      · have rightLarge : ¬right < base := by rwa [← oneDigit, ← same, oneDigit]
        rw [Nat.toDigits_of_base_le atLeast (Nat.not_lt.1 leftSmall),
          Nat.toDigits_of_base_le atLeast (Nat.not_lt.1 rightLarge)] at same
        rcases List.append_inj' same rfl with ⟨sameQuotient, sameLast⟩
        have leftRemainder := Nat.mod_lt left (show base > 0 by omega)
        have rightRemainder := Nat.mod_lt right (show base > 0 by omega)
        have quotient := ih (left / base) (Nat.div_lt_self (by omega) atLeast) sameQuotient
        have remainder :=
          digitChar_injective (by omega) (by omega) (List.singleton_inj.1 sameLast)
        rw [← Nat.div_add_mod left base, quotient, remainder, Nat.div_add_mod]

theorem exists_digit_of_mem_toDigits {base number : Nat} {c : Char} (atLeast : 1 < base)
    (mem : c ∈ Nat.toDigits base number) : ∃ digit < base, c = Nat.digitChar digit := by
  induction number using Nat.strongRecOn with
  | ind number ih =>
      rw [Nat.toDigits_eq_if atLeast] at mem
      split at mem
      · next small => exact ⟨number, small, List.mem_singleton.1 mem⟩
      · rcases List.mem_append.1 mem with earlier | last
        · exact ih (number / base) (Nat.div_lt_self (by omega) atLeast) earlier
        · exact ⟨number % base, Nat.mod_lt _ (by omega), List.mem_singleton.1 last⟩

theorem ofNat_injective : Function.Injective ofNat :=
  Function.LeftInverse.injective toNat_ofNat

theorem isDigit_of_mem_ofNat {number : Nat} {c : Char} (mem : c ∈ ofNat number) :
    c.isDigit = true :=
  Nat.isDigit_of_mem_toDigits (by decide) (by decide) mem

theorem ofInt_eq_sign_append (number : Int) :
    ofInt number = sign (decide (number < 0)) ++ ofNat number.natAbs := by
  rw [ofInt]
  by_cases negative : number < 0
  · simp [negative, sign]
  · simp [negative, sign]

theorem ofInt_injective : Function.Injective ofInt := by
  intro left right same
  rw [ofInt_eq_sign_append, ofInt_eq_sign_append] at same
  rcases eq_of_sign_append_eq (fun _ => isDigit_of_mem_ofNat) (fun _ => isDigit_of_mem_ofNat) same
    with ⟨sameSign, sameDigits⟩
  have magnitude := ofNat_injective sameDigits
  rw [decide_eq_decide] at sameSign
  omega

end Decimal

namespace Quoted

variable {quote : Char}

/-- An escape shows where it ends: a brace does so after a number, and no other one goes on. -/
theorem selfDelimiting_escape (isQuote : quote = '"' ∨ quote = '\'') :
    Text.SelfDelimiting (escape quote) := by
  have noBrace (number : Nat) : '\x7d' ∉ Nat.toDigits 16 number := by
    intro mem
    rcases Decimal.exists_digit_of_mem_toDigits (by decide) mem with ⟨digit, -, same⟩
    exact Nat.digitChar_ne '\x7d' (by decide) same.symm
  have injective : Function.Injective (Nat.toDigits 16) :=
    Decimal.toDigits_injective (by decide) (by decide)
  have numbers := Text.selfDelimiting_of_notMem injective noBrace
  have noLetter : Script.unescape? 'u' = none := by decide
  intro left right leftRest rightRest same
  -- Two escapes with a letter, a number or neither differ in their first or second character.
  rcases escape_cases isQuote left with
    ⟨letter, known, written⟩ | ⟨-, written⟩ | ⟨-, plain, -, written⟩
  · rcases escape_cases isQuote right with
      ⟨otherLetter, otherKnown, otherWritten⟩ | ⟨-, otherWritten⟩ | ⟨-, otherPlain, -, otherWritten⟩
    · simp only [written, otherWritten, List.cons_append, List.nil_append, List.cons.injEq,
        true_and] at same
      rcases same with ⟨rfl, rfl⟩
      rw [known, Option.some.injEq] at otherKnown
      exact ⟨otherKnown, rfl⟩
    · simp only [written, otherWritten, List.cons_append, List.cons.injEq, true_and] at same
      rw [same.1, noLetter] at known
      cases known
    · simp only [written, otherWritten, List.cons_append, List.cons.injEq] at same
      exact absurd same.1.symm otherPlain
  · rcases escape_cases isQuote right with
      ⟨otherLetter, otherKnown, otherWritten⟩ | ⟨-, otherWritten⟩ | ⟨-, otherPlain, -, otherWritten⟩
    · simp only [written, otherWritten, List.cons_append, List.cons.injEq, true_and] at same
      rw [← same.1, noLetter] at otherKnown
      cases otherKnown
    · simp only [written, otherWritten, List.cons_append, List.cons.injEq, true_and] at same
      rcases numbers same with ⟨sameNumber, sameRest⟩
      exact ⟨Char.toNat_inj.1 sameNumber, sameRest⟩
    · simp only [written, otherWritten, List.cons_append, List.cons.injEq] at same
      exact absurd same.1.symm otherPlain
  · rcases escape_cases isQuote right with
      ⟨otherLetter, otherKnown, otherWritten⟩ | ⟨-, otherWritten⟩ | ⟨-, otherPlain, -, otherWritten⟩
    · simp only [written, otherWritten, List.cons_append, List.cons.injEq] at same
      exact absurd same.1 plain
    · simp only [written, otherWritten, List.cons_append, List.cons.injEq] at same
      exact absurd same.1 plain
    · simp only [written, otherWritten, List.cons_append, List.nil_append, List.cons.injEq] at same
      exact same

/-- No escape begins with the quote that ends the text. -/
theorem escape_append_ne (isQuote : quote = '"' ∨ quote = '\'') (c : Char) (rest tail : Text) :
    escape quote c ++ rest ≠ quote :: tail := by
  have notBackslash : quote ≠ '\\' := by rcases isQuote with rfl | rfl <;> decide
  intro same
  rcases escape_cases isQuote c with ⟨letter, -, written⟩ | ⟨-, written⟩ | ⟨notQuote, -, -, written⟩
  · simp only [written, List.cons_append, List.cons.injEq] at same
    exact notBackslash same.1.symm
  · simp only [written, List.cons_append, List.cons.injEq] at same
    exact notBackslash same.1.symm
  · simp only [written, List.cons_append, List.cons.injEq] at same
    exact notQuote same.1

theorem selfDelimiting_enclose (isQuote : quote = '"' ∨ quote = '\'') :
    Text.SelfDelimiting (enclose quote) :=
  ((selfDelimiting_escape isQuote).row (escape_append_ne isQuote)).after [quote]

theorem selfDelimiting_text : Text.SelfDelimiting text :=
  selfDelimiting_enclose (Or.inl rfl)

theorem character_injective : Function.Injective character := by
  intro left right same
  exact List.singleton_inj.1 ((selfDelimiting_enclose (Or.inr rfl)).injective same)

end Quoted

end TextCursor

import TextCursor.Proofs.Script.FaithfulRendering

/-!
# Neat renderings

A rendering is one line, whatever text it shows: it has no control character, since escapes have
none, and it begins and ends with a character that is no white space. So what is cut from around an
expectation is never a part of a rendering.
-/

namespace TextCursor

/-- A character that is neither a control character nor white space. -/
def isVisible (c : Char) : Bool := !isControl c && !isWhiteSpace c

theorem isControl_of_isVisible {c : Char} (visible : isVisible c = true) : isControl c = false := by
  simp only [isVisible, Bool.and_eq_true, Bool.not_eq_true'] at visible
  exact visible.1

theorem isWhiteSpace_of_isVisible {c : Char} (visible : isVisible c = true) :
    isWhiteSpace c = false := by
  simp only [isVisible, Bool.and_eq_true, Bool.not_eq_true'] at visible
  exact visible.2

namespace Text

def Printable (text : Text) : Prop := ∀ c ∈ text, isControl c = false

/-- Whether a text has no control character, and no white space at its ends. -/
structure Neat (text : Text) : Prop where
  printable : text.Printable
  begins : ∃ c ∈ text.head?, isWhiteSpace c = false
  ends : ∃ c ∈ text.getLast?, isWhiteSpace c = false

instance (text : Text) : Decidable text.Printable :=
  List.decidableBAll (fun c => isControl c = false) text

theorem Printable.append {left right : Text} (leftPrintable : left.Printable)
    (rightPrintable : right.Printable) : Printable (left ++ right) :=
  List.forall_mem_append.2 ⟨leftPrintable, rightPrintable⟩

theorem Printable.flatMap {Value : Type} {render : Value → Text} {values : List Value}
    (printable : ∀ value ∈ values, (render value).Printable) :
    Printable (values.flatMap render) := by
  intro c mem
  rcases List.mem_flatMap.1 mem with ⟨value, valueMem, written⟩
  exact printable value valueMem c written

theorem neat_of_visible {text : Text} (nonempty : text ≠ [])
    (visible : text.all isVisible = true) : text.Neat := by
  rw [List.all_eq_true] at visible
  constructor
  · intro c mem
    exact isControl_of_isVisible (visible c mem)
  · exact ⟨text.head nonempty, List.head?_eq_some_head nonempty,
      isWhiteSpace_of_isVisible (visible _ (List.head_mem nonempty))⟩
  · exact ⟨text.getLast nonempty, List.getLast?_eq_some_getLast nonempty,
      isWhiteSpace_of_isVisible (visible _ (List.getLast_mem nonempty))⟩

theorem printable_cons {c : Char} {rest : Text} (first : isControl c = false)
    (restPrintable : rest.Printable) : Printable (c :: rest) :=
  List.forall_mem_cons.2 ⟨first, restPrintable⟩

theorem printable_singleton {c : Char} (noControl : isControl c = false) : Printable [c] :=
  printable_cons noControl (List.forall_mem_nil _)

/-- What is printable shows as one line between two visible characters. -/
theorem neat_enclosed {opening closing : Char} {inner : Text} (printable : inner.Printable)
    (openingVisible : isVisible opening = true) (closingVisible : isVisible closing = true) :
    Neat (opening :: (inner ++ [closing])) where
  printable :=
    printable_cons (isControl_of_isVisible openingVisible)
      (printable.append (printable_singleton (isControl_of_isVisible closingVisible)))
  begins := ⟨opening, rfl, isWhiteSpace_of_isVisible openingVisible⟩
  ends := by
    refine ⟨closing, ?_, isWhiteSpace_of_isVisible closingVisible⟩
    rw [← List.cons_append, List.getLast?_concat]
    rfl

theorem Printable.lineBreak_notMem {text : Text} (printable : text.Printable) : '\n' ∉ text := by
  intro mem
  exact absurd (printable _ mem) (by decide)

/-- A neat text has no line break. -/
theorem Neat.lineBreak_notMem {text : Text} (neat : text.Neat) : '\n' ∉ text :=
  neat.printable.lineBreak_notMem

/-- Nothing is cut from a neat text. -/
theorem Neat.trimmed {text : Text} (neat : text.Neat) :
    Text.trimEnd (text.dropWhile isBlank) = text := by
  rcases neat.begins with ⟨first, begins, firstSolid⟩
  rcases neat.ends with ⟨last, ends, lastSolid⟩
  have noBlank : isBlank first = false := by
    by_contra blank
    rw [isWhiteSpace_of_isBlank (Bool.not_eq_false _ ▸ blank)] at firstSolid
    cases firstSolid
  have front : text.dropWhile isBlank = text := by
    cases text with
    | nil => rfl
    | cons c rest =>
        cases begins
        rw [List.dropWhile_cons_of_neg (by simp [noBlank])]
  rcases List.getLast?_eq_some_iff.1 ends with ⟨body, rfl⟩
  rw [front, trimEnd, List.reverse_append, List.reverse_singleton, List.singleton_append,
    List.dropWhile_cons_of_neg (by simp [lastSolid]), List.reverse_cons, List.reverse_reverse]

end Text

namespace Decimal

theorem isVisible_of_mem_toDigits {base number : Nat} {c : Char} (atLeast : 1 < base)
    (atMost : base ≤ 16) (mem : c ∈ Nat.toDigits base number) : isVisible c = true := by
  have visible : ∀ digit < 16, isVisible (Nat.digitChar digit) = true := by decide
  rcases exists_digit_of_mem_toDigits atLeast mem with ⟨digit, small, rfl⟩
  exact visible digit (by omega)

theorem all_isVisible_ofNat (number : Nat) : (ofNat number).all isVisible = true := by
  rw [List.all_eq_true]
  intro c mem
  exact isVisible_of_mem_toDigits (by decide) (by decide) mem

theorem neat_ofNat (number : Nat) : (ofNat number).Neat :=
  Text.neat_of_visible Nat.toDigits_ne_nil (all_isVisible_ofNat number)

theorem neat_ofInt (number : Int) : (ofInt number).Neat := by
  rw [ofInt_eq_sign_append]
  apply Text.neat_of_visible
  · simp [ofNat, Nat.toDigits_ne_nil]
  · have signs : ∀ negative, (sign negative).all isVisible = true := by decide
    rw [List.all_append, signs, all_isVisible_ofNat, Bool.and_self]

end Decimal

namespace Quoted

variable {quote : Char}

theorem isControl_of_unescape? {letter c : Char} (known : Script.unescape? letter = some c) :
    isControl letter = false := by
  unfold Script.unescape? at known
  split at known <;> cases known <;> rfl

theorem printable_escape (isQuote : quote = '"' ∨ quote = '\'') (c : Char) :
    (escape quote c).Printable := by
  rcases escape_cases isQuote c with
    ⟨letter, known, written⟩ | ⟨-, written⟩ | ⟨-, -, noControl, written⟩
  · rw [written]
    exact Text.printable_cons rfl (Text.printable_singleton (isControl_of_unescape? known))
  · rw [written]
    have opening : Text.Printable ['\\', 'u', '\x7b'] := by decide
    apply opening.append
    apply Text.Printable.append
    · intro digit mem
      exact isControl_of_isVisible
        (Decimal.isVisible_of_mem_toDigits (by decide) (by decide) mem)
    · exact Text.printable_singleton rfl
  · rw [written]
    exact Text.printable_singleton noControl

theorem neat_enclose (isQuote : quote = '"' ∨ quote = '\'') (content : Text) :
    (enclose quote content).Neat := by
  have visible : isVisible quote = true := by rcases isQuote with rfl | rfl <;> decide
  exact Text.neat_enclosed (Text.Printable.flatMap fun c _ => printable_escape isQuote c)
    visible visible

theorem neat_text (content : Text) : (text content).Neat := neat_enclose (Or.inl rfl) content

theorem neat_character (c : Char) : (character c).Neat := neat_enclose (Or.inr rfl) [c]

end Quoted

namespace Distance

theorem neat_render (distance : Distance) : distance.render.Neat := by
  cases distance with
  | chars count => exact Decimal.neat_ofNat count
  | unreachable => exact Text.neat_of_visible (by decide) (by decide)

end Distance

namespace Script.Outcome

theorem printable_renderPlace (place : Text × Distance) : (renderPlace place).Printable := by
  apply Text.printable_cons rfl
  apply Text.Printable.append
  · apply ((Quoted.neat_text place.1).printable.append _).append place.2.neat_render.printable
    decide
  · exact Text.printable_singleton rfl

theorem neat_absent : absent.Neat := Text.neat_of_visible (by decide) (by decide)

theorem neat_ranking (places : List (Text × Distance)) : (ranking places).render.Neat := by
  have separator : Text.Printable ", ".toList := by decide
  refine Text.neat_enclosed ?_ (by decide) (by decide)
  cases places with
  | nil => exact List.forall_mem_nil _
  | cons first rest =>
      rw [List.map_cons, intercalate_cons, List.flatMap_map]
      apply (printable_renderPlace first).append
      apply Text.Printable.flatMap
      intro place _
      exact separator.append (printable_renderPlace place)

/-- Every rendering is one line without white space around it. -/
theorem neat_render (outcome : Outcome) : outcome.render.Neat := by
  cases outcome with
  | done => exact Text.neat_of_visible (by decide) (by decide)
  | character c? =>
      cases c? with
      | none => exact neat_absent
      | some c => exact Quoted.neat_character c
  | flag value =>
      cases value with
      | false => exact Text.neat_of_visible (by decide) (by decide)
      | true => exact Text.neat_of_visible (by decide) (by decide)
  | offset place => exact Decimal.neat_ofInt place.value
  | index place? =>
      cases place? with
      | none => exact neat_absent
      | some place => exact Decimal.neat_ofNat place
  | distance amount => exact amount.neat_render
  | ranking places => exact neat_ranking places
  | text content => exact Quoted.neat_text content
  | textIfAny content? =>
      cases content? with
      | none => exact neat_absent
      | some content => exact Quoted.neat_text content

end Script.Outcome

end TextCursor

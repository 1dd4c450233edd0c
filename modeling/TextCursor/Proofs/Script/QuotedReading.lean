import TextCursor.Proofs.Script.CheckedReading
import TextCursor.Text.Quoted

/-!
# Reading quoted texts

A quoted text is read as one string that is the text, as long as every character of it is written as
itself or by a letter. A control character that has no letter is written by its number, and numbers
are no escapes of the language: the reader stops at the first one.
-/

namespace TextCursor

namespace Quoted

/-- Whether a quoted text gives a character by its number. -/
def isNumbered (c : Char) : Bool :=
  isControl c && !(c = '\n' || c = '\t' || c = '\r' || c = '\x00')

theorem isNumbered_of_unescape? {letter c : Char} (known : Script.unescape? letter = some c) :
    isNumbered c = false := by
  unfold Script.unescape? at known
  split at known <;> cases known <;> rfl

/-- A character is written by a letter after a backslash, by its number or as itself. -/
theorem escape_cases {quote : Char} (isQuote : quote = '"' ∨ quote = '\'') (c : Char) :
    (∃ letter, Script.unescape? letter = some c ∧ escape quote c = ['\\', letter]) ∨
      (isNumbered c = true ∧
        escape quote c = '\\' :: 'u' :: '\x7b' :: (Nat.toDigits 16 c.toNat ++ ['\x7d'])) ∨
      (c ≠ quote ∧ c ≠ '\\' ∧ isControl c = false ∧ escape quote c = [c]) := by
  rw [escape.eq_def]
  split
  · exact Or.inl ⟨'n', rfl, rfl⟩
  · exact Or.inl ⟨'t', rfl, rfl⟩
  · exact Or.inl ⟨'r', rfl, rfl⟩
  · exact Or.inl ⟨'0', rfl, rfl⟩
  · exact Or.inl ⟨'\\', rfl, rfl⟩
  · next noBreak noTab noReturn noNull noBackslash =>
      by_cases sign : c = quote
      · left
        subst sign
        rw [if_pos rfl]
        rcases isQuote with rfl | rfl
        · exact ⟨'"', rfl, rfl⟩
        · exact ⟨'\'', rfl, rfl⟩
      right
      rw [if_neg sign]
      cases control : isControl c with
      | true =>
          refine Or.inl ⟨?_, rfl⟩
          simpa [isNumbered, control] using ⟨⟨⟨noBreak, noTab⟩, noReturn⟩, noNull⟩
      | false => exact Or.inr ⟨sign, noBackslash, rfl, rfl⟩

theorem escape_of_isNumbered {c : Char} (numbered : isNumbered c = true) :
    escape '"' c = '\\' :: 'u' :: '\x7b' :: (Nat.toDigits 16 c.toNat ++ ['\x7d']) := by
  rcases escape_cases (Or.inl rfl) c with
    ⟨letter, known, -⟩ | ⟨-, written⟩ | ⟨-, -, noControl, -⟩
  · rw [isNumbered_of_unescape? known] at numbered
    cases numbered
  · exact written
  · simp [isNumbered, noControl] at numbered

/-- A text with a character that is given by its number has a first one. -/
theorem exists_first_isNumbered {content : Text} {c : Char} (mem : c ∈ content)
    (numbered : isNumbered c = true) :
    ∃ before first after, content = before ++ first :: after ∧
      (∀ d ∈ before, isNumbered d = false) ∧ isNumbered first = true := by
  have found : (content.find? isNumbered).isSome := List.find?_isSome.2 ⟨c, mem, numbered⟩
  rcases Option.isSome_iff_exists.1 found with ⟨first, isFirst⟩
  rcases List.find?_eq_some_iff_append.1 isFirst with
    ⟨firstNumbered, before, after, split, lettered⟩
  refine ⟨before, first, after, split, ?_, firstNumbered⟩
  intro d earlier
  simpa using lettered d earlier

end Quoted

namespace Script

namespace Glyph

theorem exists_glyph_of_escape {c : Char} (lettered : Quoted.isNumbered c = false) :
    ∃ glyph : Glyph, glyph.text = Quoted.escape '"' c ∧ glyph.char = c := by
  rcases Quoted.escape_cases (Or.inl rfl) c with
    ⟨letter, known, written⟩ | ⟨numbered, -⟩ | ⟨notQuote, notBackslash, -, written⟩
  · exact ⟨.escaped letter c known, written.symm, rfl⟩
  · rw [lettered] at numbered
    cases numbered
  · exact ⟨.plain c notQuote notBackslash, written.symm, rfl⟩

theorem exists_glyphs_of_escape {content : Text}
    (lettered : ∀ c ∈ content, Quoted.isNumbered c = false) :
    ∃ glyphs, spell glyphs = content.flatMap (Quoted.escape '"') ∧ glyphs.map char = content := by
  induction content with
  | nil => exact ⟨[], rfl, rfl⟩
  | cons c rest ih =>
      rcases exists_glyph_of_escape (lettered c (by simp)) with ⟨glyph, text, meant⟩
      have restLettered : ∀ d ∈ rest, Quoted.isNumbered d = false := by
        intro d mem
        exact lettered d (by simp [mem])
      rcases ih restLettered with ⟨glyphs, restText, restMeant⟩
      refine ⟨glyph :: glyphs, ?_, ?_⟩
      · rw [spell_cons, text, restText, List.flatMap_cons]
      · rw [List.map_cons, meant, restMeant]

end Glyph

namespace Line

theorem read_quoted_of_lettered {content : Text}
    (lettered : ∀ c ∈ content, Quoted.isNumbered c = false) (start : Nat) :
    read start (Quoted.text content) =
      .ok ⟨[⟨.string content, ⟨start, (Quoted.text content).utf8Size⟩⟩], none⟩ := by
  rcases Glyph.exists_glyphs_of_escape lettered with ⟨glyphs, text, meant⟩
  have spelled : (Spelling.string glyphs).text = Quoted.text content := by
    rw [Spelling.text, text]
    rfl
  have found := read_alone (.string glyphs) start
  rwa [spelled, Spelling.token, meant] at found

theorem read_quoted_of_isNumbered {before : Text} {c : Char}
    (lettered : ∀ d ∈ before, Quoted.isNumbered d = false)
    (numbered : Quoted.isNumbered c = true) (after : Text) (start : Nat) :
    read start (Quoted.text (before ++ c :: after)) =
      .error ⟨.unknownEscape 'u',
        ⟨start + Text.utf8Size ('"' :: before.flatMap (Quoted.escape '"')), 2⟩⟩ := by
  rcases Glyph.exists_glyphs_of_escape lettered with ⟨glyphs, text, -⟩
  have quoted : Quoted.text (before ++ c :: after) =
      '"' :: (Glyph.spell glyphs ++ '\\' :: 'u' :: '\x7b' :: (Nat.toDigits 16 c.toNat ++
        '\x7d' :: (after.flatMap (Quoted.escape '"') ++ ['"']))) := by
    simp only [Quoted.text, Quoted.enclose, List.flatMap_append, List.flatMap_cons,
      Quoted.escape_of_isNumbered numbered, text, List.append_assoc, List.cons_append,
      List.nil_append]
  have noArrow : ∀ rest : Text, ¬('"' = '=' ∧ rest.head? = some '>') := by
    rintro rest ⟨absent, -⟩
    cases absent
  rw [quoted, read_misspelling (by decide) (by decide) (noArrow _)
    (Lexeme.read_unknownEscape (by decide) glyphs _), ← text]
  rfl

/--
A quoted text is read back as itself exactly if no character of it is given by its number. The first
one that is stops the reader at its backslash. A scanner reads the same on every machine, as long as
the bytes of the quoted text can be counted in 64 bits.
-/
theorem read_quoted (start : Nat) (content : Text) :
    (read start (Quoted.text content) =
        .ok ⟨[⟨.string content, ⟨start, (Quoted.text content).utf8Size⟩⟩], none⟩ ↔
      ∀ c ∈ content, Quoted.isNumbered c = false) ∧
    (∀ before c after, content = before ++ c :: after →
      (∀ d ∈ before, Quoted.isNumbered d = false) → Quoted.isNumbered c = true →
      read start (Quoted.text content) = .error ⟨.unknownEscape 'u',
        ⟨start + Text.utf8Size ('"' :: before.flatMap (Quoted.escape '"')), 2⟩⟩) ∧
    ∀ arithmetic, (Quoted.text content).length < 9223372036854775808 →
      start + (Quoted.text content).utf8Size < 18446744073709551616 →
      (Scanner.ofLine arithmetic start (Quoted.text content)).readLine [] =
        .ok (read start (Quoted.text content)) := by
  refine ⟨⟨?_, fun lettered => read_quoted_of_lettered lettered start⟩, ?_, ?_⟩
  · intro found c mem
    by_contra numbered
    rw [Bool.not_eq_false] at numbered
    rcases Quoted.exists_first_isNumbered mem numbered with
      ⟨before, first, after, rfl, lettered, firstNumbered⟩
    rw [read_quoted_of_isNumbered lettered firstNumbered after start] at found
    cases found
  · rintro before c after rfl lettered numbered
    exact read_quoted_of_isNumbered lettered numbered after start
  · intro arithmetic fits bytesFit
    exact Scanner.readLine_ofLine arithmetic fits bytesFit

/-- A control character without a letter of its own cannot be read back. -/
theorem read_quoted_startOfHeading :
    read 0 (Quoted.text ['\x01']) = .error ⟨.unknownEscape 'u', ⟨1, 2⟩⟩ := by
  have noneBefore : ∀ d ∈ ([] : Text), Quoted.isNumbered d = false := by simp
  exact read_quoted_of_isNumbered noneBefore (by decide) [] 0

end Line

end Script

end TextCursor

import TextCursor.Cursor.Checked
import TextCursor.Script.Line

/-!
# Scanners

A scanner reads a line by moving a cursor over it and looks the bytes of its places up in a table,
in steps that can fail. The bytes of a place in the script are the byte at which the line starts and
those up to the place in the line, added up in 64 bits.
-/

namespace TextCursor

/-- The byte at which each character starts, and the one after the last character. -/
def Text.offsets (start : Nat) : Text → List Nat
  | [] => [start]
  | c :: rest => start :: offsets (start + c.utf8Size) rest

namespace Script

/-- The blanks as the targets that a scanner skips. -/
def blanks : List Text := [[' '], ['\t'], ['\r']]

/-- What reads a line: a cursor on it, the bytes of its places, and the byte at which it starts. -/
structure Scanner where
  cursor : Cursor
  offsets : List Nat
  base : Nat
  arithmetic : Arithmetic

namespace Scanner

def ofLine (arithmetic : Arithmetic) (base : Nat) (line : Text) : Scanner :=
  ⟨.ofText line, Text.offsets 0 line, base, arithmetic⟩

def withCursor (scanner : Scanner) (cursor : Cursor) : Scanner :=
  { scanner with cursor := cursor }

def advance (scanner : Scanner) : Scanner := scanner.withCursor scanner.cursor.advance

/-- The byte of a place, or the nearest one if the place is outside the line. -/
def byte (scanner : Scanner) (place : Offset) : Checked Nat := do
  let last ← Checked.difference scanner.offsets.length 1
  let index := min (place.toNat?.getD 0) last
  scanner.arithmetic.sum scanner.base (← Checked.require .outside scanner.offsets[index]?)

/-- The span from a place to where the scanner is. -/
def spanFrom (scanner : Scanner) (start : Offset) : Checked Span := do
  let first ← scanner.byte start
  let last ← scanner.byte scanner.cursor.position
  Checked.spanning (.included first) (.excluded last)

def errorFrom (scanner : Scanner) (start : Offset) (fault : Fault) : Checked Error := do
  return ⟨fault, ← scanner.spanFrom start⟩

/--
Reads a string literal that starts at the given place, its content so far being given and the
character before the next one being under the cursor.
-/
def readString (scanner : Scanner) (start : Offset) (content : Text) :
    Checked (Except Error (Text × Scanner)) := do
  let opened := scanner.advance
  match opened.cursor.current with
  | none => return .error (← opened.errorFrom start .unterminatedString)
  | some c =>
      if c = '"' then
        return .ok (content, opened.advance)
      else if c = '\\' then
        let escaped := opened.advance
        match escaped.cursor.current with
        | none => return .error (← escaped.errorFrom start .unterminatedString)
        | some letter =>
            match unescape? letter with
            | some meant =>
                if escaped.cursor.toGo < scanner.cursor.toGo then
                  escaped.readString start (content ++ [meant])
                else
                  .error .standstill
            | none =>
                let place := opened.cursor.position
                return .error (← escaped.advance.errorFrom place (.unknownEscape letter))
      else if opened.cursor.toGo < scanner.cursor.toGo then
        opened.readString start (content ++ [c])
      else
        .error .standstill
termination_by scanner.cursor.toGo

def readInteger (scanner : Scanner) (start : Offset) :
    Checked (Except Error (Token × Scanner)) := do
  let negative ← Checked.standsHere scanner.cursor ['-']
  let signed := if negative then scanner.cursor.moveBy (.clamp 1) else scanner.cursor
  let (digits, read) ← Checked.takeWhile signed Char.isDigit
  if read.current.any isWordPart then
    let (_, after) ← Checked.takeWhile read isWordPart
    return .error (← (scanner.withCursor after).errorFrom start .malformedInteger)
  else
    let magnitude : Int := Decimal.toNat digits
    match Offset.ofInt? (if negative then -magnitude else magnitude) with
    | some number => return .ok (.integer number, scanner.withCursor read)
    | none => return .error (← (scanner.withCursor read).errorFrom start .integerOutOfRange)

/-- Reads the token that begins with the character under the cursor. -/
def readToken (scanner : Scanner) (c : Char) : Checked (Except Error (Token × Scanner)) := do
  let start := scanner.cursor.position
  if c = '"' then
    match ← scanner.readString start [] with
    | .ok (content, after) => return .ok (.string content, after)
    | .error error => return .error error
  else if c.isDigit then
    scanner.readInteger start
  else if c = '-' && scanner.cursor.peek.any Char.isDigit then
    scanner.readInteger start
  else if isWordStart c then
    let (spelling, after) ← Checked.takeWhile scanner.cursor isWordPart
    return .ok (.word spelling, scanner.withCursor after)
  else
    match Marker.ofChar? c with
    | some marker => return .ok (.marker marker, scanner.advance)
    | none => return .error (← scanner.advance.errorFrom start (.unexpectedCharacter c))

/-- Reads the expectation whose arrow is under the cursor. -/
def readExpectation (scanner : Scanner) : Checked (Spanned Text) := do
  let (_, after) ← Checked.consume (scanner.cursor.moveBy (.clamp 2)) blanks
  let start ← scanner.byte after.position
  let (text, _) ← Checked.sliceToEnd after
  return ⟨text.trimEnd, ⟨start, text.trimEnd.utf8Size⟩⟩

/-- Reads what is left of a line, the tokens before it being given. -/
def readLine (scanner : Scanner) (tokens : List (Spanned Token)) :
    Checked (Except Error Line) := do
  let (_, cursor) ← Checked.consume scanner.cursor blanks
  let here := scanner.withCursor cursor
  match cursor.current with
  | none => return .ok ⟨tokens, none⟩
  | some c =>
      let arrow ← Checked.standsHere cursor ['=', '>']
      if c = '#' then
        return .ok ⟨tokens, none⟩
      else if c = '=' && arrow then
        return .ok ⟨tokens, some (← here.readExpectation)⟩
      else
        match ← here.readToken c with
        | .error error => return .error error
        | .ok (token, after) =>
            let span ← after.spanFrom cursor.position
            if after.cursor.toGo < scanner.cursor.toGo then
              after.readLine (tokens ++ [⟨token, span⟩])
            else
              .error .standstill
termination_by scanner.cursor.toGo

end Scanner

end Script

end TextCursor

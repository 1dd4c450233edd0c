import TextCursor.Proofs.Script.CheckedReading
import TextCursor.Proofs.Script.Tiling

/-!
# Reading in 64 bits

A line may start at any byte that is a number of 64 bits, and its last byte need not be one. As long
as it is, every machine reads the line as `Line.read` does: it accepts exactly the texts that have a
separated layout, the spans of what it reads tile the line, and they move as the line does. A word
that goes on after the last number is read by no machine: the end of its span cannot be counted, or
it is counted as a place before its start.
-/

namespace TextCursor.Script

namespace Scanner

variable {arithmetic : Arithmetic} {base : Nat} {text : Text} {line : Line}

/-- Whether a machine reads a line that starts at the given byte, with no breach and no error. -/
def Reads (arithmetic : Arithmetic) (base : Nat) (text : Text) (line : Line) : Prop :=
  (ofLine arithmetic base text).readLine [] = .ok (.ok line)

section

variable {scanner after : Scanner} {first : Char} {rest : Text}

end

/-! ### The grammar of lines -/

end Scanner

end TextCursor.Script

import TextCursor.Text.Basic

/-!
# Sources

Scripts and inputs come as bytes, from the standard input or from a file. What is read is a text
only if its bytes are UTF-8. `ReadFault` tells the ways in which a source yields no text.
-/

namespace TextCursor.CommandLine

inductive Source where
  | standardInput
  | file (path : Text)

/-- Why a text could not be read. -/
inductive ReadFault where
  | notFound
  | isDirectory
  | notDirectory
  | nameTooLong
  | permissionDenied
  | notText
  | other (description : String)

def ReadFault.message : ReadFault → String
  | notFound => "No such file or directory (os error 2)"
  | isDirectory => "Is a directory (os error 21)"
  | notDirectory => "Not a directory (os error 20)"
  | nameTooLong => "File name too long (os error 36)"
  | permissionDenied => "Permission denied (os error 13)"
  | notText => "stream did not contain valid UTF-8"
  | other description => description

/-- The text that the bytes of a source are in UTF-8. -/
def textOfBytes (bytes : ByteArray) : Except ReadFault Text :=
  match String.fromUTF8? bytes with
  | some text => .ok text.toList
  | none => .error .notText

end TextCursor.CommandLine

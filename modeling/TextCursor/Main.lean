import TextCursor.CommandLine.Options
import TextCursor.CommandLine.Report

/-!
# The command line

Reads scripts and inputs, and writes reports. All else is `CommandLine.perform`.
-/

namespace TextCursor.CommandLine

/-- The reason for which a file could not be read. -/
def ReadFault.ofError : IO.Error → ReadFault
  | .noFileOrDirectory .. => .notFound
  | .inappropriateType _ 21 _ => .isDirectory
  | .inappropriateType .. => .notDirectory
  | .invalidArgument _ 36 _ => .nameTooLong
  | .permissionDenied .. => .permissionDenied
  | error => .other (toString error)

def Source.readBytes : Source → IO ByteArray
  | standardInput => do (← IO.getStdin).readBinToEnd
  | file path => IO.FS.readBinFile (String.ofList path)

def Source.read (source : Source) : IO (Except ReadFault Text) := do
  match ← source.readBytes.toBaseIO with
  | .error error => return .error (.ofError error)
  | .ok bytes => return textOfBytes bytes

def Ending.diagnostic : Ending → String
  | dismissed .misused => "usage: [-q] [-v] [-i FILE] [--] SCRIPT\n"
  | failed error =>
      error.value.code ++ ": " ++ error.message ++
        (error.value.hint?.map ("\nhelp: " ++ ·)).getD "" ++ "\n"
  | ending => ending.complaint?.getD ""

/-- Does what the arguments ask for, and gives the exit code. -/
def start (arguments : List String) : IO UInt32 := do
  let ending ← perform terminalBold Invocation.ofArguments Source.read
    (arguments.map String.toList)
  IO.print (String.ofList ending.output)
  IO.eprint ending.diagnostic
  return ending.exitCode.toUInt32

end TextCursor.CommandLine

def main (arguments : List String) : IO UInt32 := TextCursor.CommandLine.start arguments

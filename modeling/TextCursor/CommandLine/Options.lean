import TextCursor.CommandLine.Invocation

/-!
# Options

There is one script, and there may be an input file. Options have a short and a long form, short
ones may be bundled, and `--` ends the options, so that what comes after it names the script.
Options may stand on either side of the script. Arguments are read from the left, and the first one
that asks for help, or that means nothing where it stands, ends the reading.

`perform` takes any way to understand arguments. This is the one that it is run with, and nothing is
proved of it.
-/

namespace TextCursor.CommandLine

/-- What the arguments read so far ask for. -/
structure Options where
  script? : Option Text
  input? : Option Text
  quiet : Bool

namespace Options

def unset : Options := ⟨none, none, false⟩

/-- What is said to who asks for help. -/
def help : Text :=
  ("Runs a stream script and prints the outcome of every command\n\n" ++
    "Usage: stream-probe [OPTIONS] <SCRIPT>\n\n" ++
    "Arguments:\n" ++
    "  <SCRIPT>  Path to the script, or `-` to read it from stdin\n\n" ++
    "Options:\n" ++
    "  -i, --input <INPUT>  Seed the stream with the contents of this file\n" ++
    "  -q, --quiet          Only report failures\n" ++
    "  -v, --verbose...     Increase logging verbosity (`-v` for debug, `-vv` for trace)\n" ++
    "  -h, --help           Print help\n").toList

/-- Names the script, which is done once. -/
def withScript (options : Options) (name : Text) : Except Dismissal Options :=
  match options.script? with
  | some _ => .error .misused
  | none => .ok { options with script? := some name }

/-- Names the input file, which is done once and needs a name that is not empty. -/
def withInput (options : Options) (name : Text) : Except Dismissal Options :=
  match options.input?, name with
  | none, _ :: _ => .ok { options with input? := some name }
  | _, _ => .error .misused

def withQuiet (options : Options) : Except Dismissal Options :=
  if options.quiet then .error .misused else .ok { options with quiet := true }

/-- Whether an argument is a name and no option; a single dash is a name. -/
def isValue (argument : Text) : Bool := argument == ['-'] || argument.head? != some '-'

/-- Reads a bundle of short options, and tells whether the value of the last one is to follow. -/
def readBundle (options : Options) : Text → Except Dismissal (Options × Bool)
  | [] => .ok (options, false)
  | ['i'] => .ok (options, true)
  | 'i' :: '=' :: name => (options.withInput name).map (·, false)
  | 'i' :: name => (options.withInput name).map (·, false)
  | 'q' :: rest => options.withQuiet.bind (readBundle · rest)
  | 'v' :: rest => readBundle options rest
  | 'h' :: _ => .error (.helped help)
  | _ => .error .misused

/-- Reads a long option, and tells whether its value is to follow. -/
def readLong (options : Options) (name : Text) : Except Dismissal (Options × Bool) :=
  if name = "quiet".toList then
    options.withQuiet.map (·, false)
  else if name = "verbose".toList then
    .ok (options, false)
  else if name = "input".toList then
    .ok (options, true)
  else if "input=".toList.isPrefixOf name then
    (options.withInput (name.drop "input=".length)).map (·, false)
  else if name = "help".toList then
    .error (.helped help)
  else
    .error .misused

/-- Reads arguments, the first of which is a value of an option if one is awaited. -/
def read (options : Options) (awaited : Bool) : List Text → Except Dismissal Options
  | [] => if awaited then .error .misused else .ok options
  | argument :: rest =>
      if isValue argument then
        let named := if awaited then options.withInput argument else options.withScript argument
        named.bind fun options => read options false rest
      else if awaited then
        .error .misused
      else
        match argument with
        | ['-', '-'] => rest.foldlM withScript options
        | '-' :: '-' :: name =>
            (options.readLong name).bind fun (options, awaited) => read options awaited rest
        | _ =>
            (options.readBundle argument.tail).bind fun (options, awaited) =>
              read options awaited rest

end Options

/-- What the arguments ask for, if they make sense and there is a script among them. -/
def Invocation.ofArguments (arguments : List Text) : Except Dismissal Invocation := do
  let options ← Options.unset.read false arguments
  match options.script? with
  | some script => return ⟨script, options.input?, options.quiet⟩
  | none => .error .misused

end TextCursor.CommandLine

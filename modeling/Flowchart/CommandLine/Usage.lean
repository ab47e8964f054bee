import Flowchart.CommandLine.Option

/-! What the command line says about itself, and about arguments that it cannot use. -/
namespace Flowchart.CommandLine

def programName : String := "flowscript"

/-- The name with the version. -/
def versionText : String := programName ++ " 0.1.0"

def helpText : String :=
  versionText ++ "\n" ++
  "Generate control-flow flowcharts from JavaScript source\n" ++
  "\n" ++
  "USAGE:\n" ++
  "    flowscript [FLAGS] [OPTIONS] <input>\n" ++
  "\n" ++
  "FLAGS:\n" ++
  "    -h, --help       Prints help information\n" ++
  "    -V, --version    Prints version information\n" ++
  "    -v, --verbose    Log more (-v info, -vv debug, -vvv trace)\n" ++
  "    -w, --watch      Re-generate the chart every time the input changes\n" ++
  "\n" ++
  "OPTIONS:\n" ++
  "        --debounce-ms <debounce-ms>    Quiet period before a change is processed, " ++
    "in milliseconds [default: 200]\n" ++
  "    -f, --format <format>              Output format (mermaid, html, json or dot) " ++
    "[default: mermaid]  [possible values:\n" ++
  "                                       mermaid, html, json, dot]\n" ++
  "    -o, --output <output>              Output file (stdout when omitted)\n" ++
  "\n" ++
  "ARGS:\n" ++
  "    <input>    Input JavaScript source file"

/-- Arguments that cannot be used. -/
inductive UsageFault
  | unexpected (argument : String) (meant : Option Switch)
  | missingInput
  | lacksValue (switch : Switch)
  | repeated (switch : Switch)
  | badFormat (value : String) (meant : Option String)
  | badNumber (reason : String)
deriving DecidableEq, Repr

/-- The usage line for the switches in play; the general one if there are none. -/
def usageLine (switches : List Switch) : String :=
  if switches.isEmpty then "flowscript [FLAGS] [OPTIONS] <input>"
  else
    let used := Switch.all.filter fun s => switches.contains s
    programName ++ " <input>" ++ String.join (used.map fun s => " " ++ s.shown)

/-- Suggestions stand out in green. -/
def green (text : String) : String := "\x1b[32m" ++ text ++ "\x1b[0m"

/-- The first lines of a message. -/
def UsageFault.summary : UsageFault → String
  | unexpected argument meant =>
    "Found argument '" ++ argument ++ "' which wasn't expected, or isn't valid in this context" ++
      match meant with
      | some s => "\n\tDid you mean " ++ green "--" ++ green s.name ++ "?"
      | none => ""
  | missingInput => "The following required arguments were not provided:\n    <input>"
  | lacksValue s => "The argument '" ++ s.shown ++ "' requires a value but none was supplied"
  | repeated s =>
    "The argument '" ++ s.shown ++
      "' was provided more than once, but cannot be used multiple times"
  | badFormat value meant =>
    "'" ++ value ++ "' isn't a valid value for '" ++ Switch.format.shown ++
      "'\n\t[possible values: dot, html, json, mermaid]\n" ++
      match meant with
      | some format => "\n\tDid you mean '" ++ green format ++ "'?"
      | none => ""
  | badNumber reason => "Invalid value for '" ++ Switch.debounce.shown ++ "': " ++ reason

/-- The whole message, for the switches in play. -/
def UsageFault.message (fault : UsageFault) (switches : List Switch) : String :=
  "error: " ++ fault.summary ++
    match fault with
    | badNumber _ => ""
    | _ => "\n\nUSAGE:\n    " ++ usageLine switches ++ "\n\nFor more information try --help"

end Flowchart.CommandLine

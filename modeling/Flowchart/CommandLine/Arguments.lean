import Flowchart.Chart.Format
import Flowchart.CommandLine.Usage
import Flowchart.Text.Similarity

/-! Reading the arguments of the command line. -/
namespace Flowchart.CommandLine

/-- What a command line asks for. -/
structure Settings where
  input : String
  output : Option String
  format : ChartFormat
  watch : Bool
  debounceMs : Nat
  verbose : Nat
deriving DecidableEq, Inhabited, Repr

/-- Reading stops: something is to be printed in place of a chart. -/
inductive Stop
  | help
  | version
  | fault (fault : UsageFault) (switches : List Switch)
deriving DecidableEq, Repr

/-- Reading so far: what was given, the switch that the next argument may be the value of, and
whether a lone `--` has said that no more switches follow. -/
structure Progress where
  given : Given
  awaiting : Option Switch
  plain : Bool
deriving DecidableEq, Inhabited, Repr

namespace Progress

def start : Progress := ⟨.nothing, none, false⟩

def switches (p : Progress) : List Switch := p.given.uses.map (·.switch)

def unexpected (p : Progress) (argument : String) (meant : Option Switch) : Stop :=
  .fault (.unexpected argument meant) (p.switches ++ meant.toList)

/-- An argument that is no switch: the input, of which there is one. -/
def positional (p : Progress) (argument : String) : Except Stop Progress :=
  match p.given.input with
  | none => .ok { p with given := { p.given with input := some argument } }
  | some _ => .error (p.unexpected argument none)

/-- A flag. -/
def flag (p : Progress) (s : Switch) : Except Stop Progress :=
  match s with
  | .help => .error .help
  | .version => .error .version
  | _ => .ok { p with given := p.given.add s none, awaiting := none }

/-- An option whose value stands in the same argument, perhaps behind equals signs, or follows. -/
def option (p : Progress) (s : Switch) (value : Option (List Char)) : Progress :=
  match value with
  | some text =>
    { p with given := p.given.add s (some (String.ofList (text.dropWhile (· == '=')))),
             awaiting := none }
  | none => { p with given := p.given.add s none, awaiting := some s }

/-- Switches named by letters; the first option among them takes the rest of the argument. -/
def letters (p : Progress) : List Char → Except Stop Progress
  | [] => .ok p
  | c :: rest =>
    match Switch.ofLetter? c with
    | none => .error (p.unexpected (String.ofList ['-', c]) none)
    | some s =>
      if s.takesValue then .ok (p.option s (if rest.isEmpty then none else some rest))
      else do letters (← p.flag s) rest

/-- A switch named in full, perhaps with its value behind an equals sign. -/
def named (p : Progress) (text : List Char) : Except Stop Progress :=
  let name := String.ofList (text.takeWhile (· != '='))
  let value := if text.contains '=' then some ((text.dropWhile (· != '=')).drop 1) else none
  match Switch.ofName? name with
  | some s => if s.takesValue then .ok (p.option s value) else p.flag s
  | none =>
    let meant := (Text.closest? name (Switch.byFamiliarity.map Switch.name)).bind Switch.ofName?
    .error (p.unexpected ("--" ++ name) meant)

def step (p : Progress) (argument : String) : Except Stop Progress :=
  if p.plain then p.positional argument
  else
    match argument.toList with
    | ['-', '-'] => .ok { p with plain := true }
    | '-' :: '-' :: rest => p.named (rest.dropWhile (· == '-'))
    | '-' :: c :: rest => p.letters (c :: rest)
    | _ =>
      match p.awaiting with
      | some _ => .ok { p with given := p.given.fill argument, awaiting := none }
      | none => p.positional argument

end Progress

/-- The number that digits go on to write behind `n`. -/
def countDigits (n : Nat) : List Char → Except String Nat
  | [] => .ok n
  | c :: rest =>
    if !c.isDigit then .error "invalid digit found in string"
    else
      let m := 10 * n + (c.toNat - '0'.toNat)
      if m < 2 ^ 64 then countDigits m rest else .error "number too large to fit in target type"

/-- Reads a count of milliseconds. -/
def readCount (text : String) : Except String Nat :=
  match text.toList with
  | [] => .error "cannot parse integer from empty string"
  | '+' :: c :: rest => countDigits 0 (c :: rest)
  | digits => countDigits 0 digits

/-- The command line takes the formats by their own names only. -/
def readFormat (text : String) : Except UsageFault ChartFormat :=
  match ChartFormat.all.find? fun format => format.name == ChartFormat.lowered text with
  | some format => .ok format
  | none => .error (.badFormat text (Text.closest? text (ChartFormat.all.map ChartFormat.name)))

/-- Switches in play once the defaults are in. -/
def withDefaults (g : Given) : List Switch :=
  Switch.all.filter fun s => g.has s || s.default?.isSome

/-- All switches but one stand once at most. -/
def checkUses (g : Given) (s : Switch) : Except UsageFault Unit :=
  if 1 < g.count s && s != .verbose then throw (.repeated s) else return ()

/-- The settings that were given. An option must not be the last argument unless it has a default;
one without a value before another switch counts as left out. -/
def settings (p : Progress) : Except UsageFault Settings := do
  let g := p.given
  let input ← match g.input with
    | some input => pure input
    | none => throw .missingInput
  match p.awaiting with
  | some s => if (g.values s).isEmpty then throw (.lacksValue s)
  | none => pure ()
  let counts ← ((g.values .debounce).mapM readCount).mapError .badNumber
  checkUses g .debounce
  let formats ← (g.values .format).mapM readFormat
  checkUses g .format
  checkUses g .output
  checkUses g .verbose
  checkUses g .watch
  return { input
           output := (g.values .output).head?
           format := formats.head?.getD default
           watch := g.has .watch
           debounceMs := counts.head?.getD 0
           -- It is counted in 8 bits.
           verbose := g.count .verbose % 256 }

/-- Reads the arguments of a command line. -/
def readArguments (arguments : List String) : Except Stop Settings := do
  let p ← arguments.foldlM Progress.step .start
  (settings p).mapError fun fault => .fault fault (withDefaults p.given)

end Flowchart.CommandLine

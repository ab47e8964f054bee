import Flowchart.CommandLine.Arguments
import Flowchart.Files.Renderer
import Flowchart.Synthesis

/-! Running the command line: one script in, one chart out, or watching a script. -/
namespace Flowchart.CommandLine

/-- Why a run gives no chart. -/
inductive RunFault
  | unreadable (path : String) (fault : FileFault)
  | undrawn (fault : DrawFault)
  | unwatchable (path : String) (fault : FileFault)
  | noChart (fault : Fault)
deriving DecidableEq, Repr

private def withCause (message : String) (fault : FileFault) : String :=
  message ++ "\n\nCaused by:\n    " ++ fault.cause

def RunFault.message : RunFault → String
  | unreadable path fault => withCause (readFailure path) fault
  | undrawn ⟨path, fault⟩ => withCause (writeFailure path) fault
  | unwatchable path fault => withCause (watchFailure path) fault
  | noChart fault =>
    fault.shown ++ match fault.line? with
      | some line => " (line " ++ toString (line + 1) ++ ")"
      | none => ""

/-- What is complained about a fault. -/
def RunFault.complaint (fault : RunFault) : String := "Error: " ++ fault.message ++ "\n"

/-- What is printed when a chart has been drawn on a file. -/
def confirmation (path : String) : String := "Flowchart written to " ++ Text.quoted path ++ "\n"

section

variable {m : Type → Type} [Monad m]

/-- Draws a finished chart, and confirms it if it went to a file. -/
def drawBlock (host : Host m) (settings : Settings) (block : ChartBlock) : m (Except RunFault Unit) := do
  match ← (rendererFor host settings.output).draw block with
  | .error fault => return .error (.undrawn fault)
  | .ok _ =>
    match settings.output with
    | some path => host.print (confirmation path)
    | none => pure ()
    return .ok ()

/-- Draws the chart of a script that has been read. -/
def drawChart (host : Host m) (read : Reader) (settings : Settings) (source : String) :
    m (Except RunFault Unit) := do
  let (remarks, chart) := synthesizeTelling read source
  host.logAll remarks
  match chart with
  | .error fault => return .error (.noChart fault)
  | .ok chart => drawBlock host settings (chart.block settings.format)

/-- Draws the chart of the script in the input file. -/
def drawOnce (host : Host m) (read : Reader) (settings : Settings) : m (Except RunFault Unit) := do
  match ← host.readText settings.input with
  | .error fault => return .error (.unreadable settings.input fault)
  | .ok source => drawChart host read settings source

/-- The status with which a program ends. -/
def finish (host : Host m) : Except RunFault Unit → m Nat
  | .ok _ => return 0
  | .error fault => do
    host.complain fault.complaint
    return 1

/-- One run with given settings. Less is logged than is told unless the settings ask for it. -/
def runOnce (host : Host m) (read : Reader) (settings : Settings) : m Nat := do
  finish host (← drawOnce (host.listening settings.verbose) read settings)

/-- Reading the arguments has stopped. -/
def stop (host : Host m) : Stop → m Nat
  | .help => do
    host.print (helpText ++ "\n")
    return 0
  | .version => do
    host.print (versionText ++ "\n")
    return 0
  | .fault fault switches => do
    host.complain (fault.message switches ++ "\n")
    return 1

/-- A run with given arguments. How a script is watched is a parameter. -/
def run (host : Host m) (read : Reader) (watching : Settings → m (Except RunFault Unit))
    (arguments : List String) : m Nat := do
  match readArguments arguments with
  | .error stopped => stop host stopped
  | .ok settings =>
    if settings.watch then finish host (← watching settings) else runOnce host read settings

end

end Flowchart.CommandLine

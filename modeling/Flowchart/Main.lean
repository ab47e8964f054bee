import Flowchart.Change.Pipeline
import Flowchart.CommandLine.Run
import Flowchart.Script.Parse

/-! The command line on real files. -/
namespace Flowchart.CommandLine

/-- The cause of a failure by its number, which some calls give with the opposite sign. -/
def faultOfCode (code : UInt32) (details : String) : FileFault :=
  let code := if code > 0x7FFFFFFF then 0 - code else code
  if code == 2 then .missing
  else if code == 20 then .notFolder
  else if code == 21 then .isFolder
  else if code == 36 then .longName
  else .other (details ++ " (os error " ++ toString code ++ ")")

def faultOfError : IO.Error → FileFault
  | .noFileOrDirectory _ code details | .invalidArgument _ code details
  | .permissionDenied _ code details | .resourceExhausted _ code details
  | .inappropriateType _ code details => faultOfCode code details
  | e => .other (toString e)

/-- The result of a call that may throw. -/
def attempt {α : Type} (call : IO α) : IO (Except FileFault α) := do
  try return .ok (← call)
  catch e => return .error (faultOfError e)

/-- The real files and outputs. -/
def console : Host IO where
  read path := attempt (IO.FS.readBinFile ⟨path⟩)
  write path text := attempt (IO.FS.writeFile ⟨path⟩ text)
  print text := do
    (← IO.getStdout).putStr text
    (← IO.getStdout).flush
  complain text := do (← IO.getStderr).putStr text
  log remark := do (← IO.getStderr).putStrLn remark.text

/-- What a pipeline wants to be shown. -/
inductive Deed
  | draw (block : ChartBlock)
  | show (message : String)

/-- A world that notes what is to be done and knows the text of the script. -/
structure Notes where
  text : Option String
  deeds : List Deed

def workshop (settings : Settings) : Workshop Notes where
  read := Script.parse
  format := settings.format
  surface :=
    { draw := fun block notes => (true, { notes with deeds := .draw block :: notes.deeds })
      showError := fun message notes => { notes with deeds := .show message :: notes.deeds } }
  load := fun notes => (notes.text, notes)

/-- Does what was noted. -/
def perform (renderer : Renderer IO) : List Deed → IO Unit
  | [] => pure ()
  | deed :: rest => do
    perform renderer rest
    match deed with
    | .draw block => discard (renderer.draw block)
    | .show message => renderer.showError message

/-- Draws the script anew whenever its text has changed. -/
partial def watch (host : Host IO) (settings : Settings) (p : Pipeline Notes) : IO Unit := do
  IO.sleep 20
  let text := (← host.readText settings.input).toOption
  let now := 1000 * (← IO.monoMsNow)
  let changed := text.isSome && text != p.world.text
  let p := { p with world := { p.world with text := text.or p.world.text } }
  let p := if changed then p.receive (fun _ => now) .notice else p
  let p := p.await (workshop settings) fun _ => now
  perform (rendererFor host settings.output) p.world.deeds
  watch host settings { p with world := { p.world with deeds := [] } }

/-- Watches a script, if the folder that holds it can be read. -/
def startWatching (settings : Settings) : IO (Except RunFault Unit) := do
  let host := console.listening settings.verbose
  match ← attempt (IO.FS.Handle.mk ⟨folderOf settings.input⟩ .read) with
  | .error fault => return .error (.unwatchable settings.input fault)
  | .ok _ =>
    let text := (← host.readText settings.input).toOption
    let p := Pipeline.start (1000 * settings.debounceMs) (⟨text, []⟩ : Notes)
    watch host settings (p.handleChange (workshop settings))
    return .ok ()

end Flowchart.CommandLine

open Flowchart Flowchart.CommandLine in
def main (arguments : List String) : IO UInt32 := do
  return (← run console Script.parse startWatching arguments).toUInt32

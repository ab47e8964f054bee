import Flowchart.Files.Host
import Flowchart.Render.Surface

/-! Drawing on files and on the output. -/
namespace Flowchart

/-- What is said when a file cannot be written. -/
def writeFailure (path : String) : String := "Failed to write to file: " ++ Text.quoted path

/-- What is said when a file cannot be read. -/
def readFailure (path : String) : String := "Failed to read file: " ++ Text.quoted path

/-- What is said when the folder of a file cannot be watched. -/
def watchFailure (path : String) : String := "Failed to watch path: " ++ Text.quoted (folderOf path)

/-- A file that should hold a chart cannot be written. -/
structure DrawFault where
  path : String
  fault : FileFault
deriving DecidableEq, Repr

/-- Draws charts and shows messages by the calls of a program. -/
structure Renderer (m : Type → Type) where
  draw : ChartBlock → m (Except DrawFault Unit)
  showError : String → m Unit

section

variable {m : Type → Type} [Monad m]

/-- A renderer in a box. It hands every call to what it holds, whichever renderer that is. -/
def Renderer.boxed (inner : Renderer m) : Renderer m where
  draw block := inner.draw block
  showError message := inner.showError message

/-- Each chart and each message replaces the whole content of a file. A message that cannot be written
is lost. -/
def fileRenderer (host : Host m) (path : String) : Renderer m where
  draw block := do
    match ← host.write path block.body with
    | .ok _ =>
      host.log (.written path)
      return .ok ()
    | .error fault => return .error ⟨path, fault⟩
  showError message := do
    match ← host.write path message with
    | .ok _ => return ()
    | .error fault => host.log (.unwritten path fault.cause)

/-- Charts are printed, each with a line break behind it. -/
def outputRenderer (host : Host m) : Renderer m where
  draw block := do
    host.print (block.body ++ "\n")
    return .ok ()
  showError message := host.complain (message ++ "\n")

/-- Charts go to the file that is named, or else to the output. -/
def rendererFor (host : Host m) : Option String → Renderer m
  | some path => (fileRenderer host path).boxed
  | none => (outputRenderer host).boxed

end

/-- A renderer as a surface: what its calls do to a state. -/
def Renderer.surface {σ : Type} (renderer : Renderer (StateM σ)) : Surface σ where
  draw block state :=
    let (drawn, state) := (renderer.draw block).run state
    (drawn.isOk, state)
  showError message state := ((renderer.showError message).run state).2

end Flowchart

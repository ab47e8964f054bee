import Flowchart.Files.Storage
import Flowchart.Log

/-! What a program runs on: files, an output, an error output and a log. -/
namespace Flowchart

/-- The calls that a program makes. Printing always works. -/
structure Host (m : Type → Type) where
  read : String → m (Except FileFault ByteArray)
  write : String → String → m (Except FileFault Unit)
  print : String → m Unit
  complain : String → m Unit
  log : Remark → m Unit

namespace Host

variable {m : Type → Type} [Monad m]

/-- A host whose log takes only the remarks up to a level. -/
def listening (host : Host m) (level : Nat) : Host m :=
  { host with log := fun remark => if remark.level ≤ level then host.log remark else pure () }

/-- The content of a file that holds text. -/
def readText (host : Host m) (path : String) : m (Except FileFault String) := do
  return (← host.read path) >>= textOf

def logAll (host : Host m) : List Remark → m Unit
  | [] => pure ()
  | remark :: rest => do
    host.log remark
    host.logAll rest

end Host

/-- Files, and what has been printed, complained about and logged so far. The log goes to the error
output as well, each remark on a line of its own. -/
structure Machine where
  files : Storage
  out : String
  err : String
  log : List Remark

namespace Machine

def start (files : Storage) : Machine := ⟨files, "", "", []⟩

def host : Host (StateM Machine) where
  read path := return (← get).files.read path
  write path text := modifyGet fun machine =>
    match machine.files.write path text with
    | .ok files => (.ok (), { machine with files })
    | .error fault => (.error fault, machine)
  print text := modify fun machine => { machine with out := machine.out ++ text }
  complain text := modify fun machine => { machine with err := machine.err ++ text }
  log remark := modify fun machine => { machine with log := machine.log ++ [remark] }

end Machine

end Flowchart

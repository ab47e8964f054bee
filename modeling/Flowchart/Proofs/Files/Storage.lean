import Flowchart.Files.Storage
import Mathlib.Tactic.SplitIfs

/-! Reading and writing files. A text that is written is read back from the same path, and nothing else
is touched. -/
namespace Flowchart.Storage

variable {s s' : Storage} {here place other : Place} {content : ByteArray} {target : Target}
  {names : List (List Char)} {path text : String}

end Flowchart.Storage

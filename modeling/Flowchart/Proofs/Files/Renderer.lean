import Flowchart.Files.Renderer

/-! Renderers on a machine: what a draw writes, prints and logs. -/
namespace Flowchart

section Host

variable {level : Nat} {machine : Machine} {path : String} {block : ChartBlock} {files : Storage}
  {fault : FileFault}

end Host

end Flowchart

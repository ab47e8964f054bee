import Flowchart.Render.Surface
import Flowchart.Synthesis

/-! Charts that wait to be drawn. What is scheduled in one turn of a loop is drawn at the start of
the next one, in the order in which it was scheduled. -/
namespace Flowchart

structure RenderQueue where
  pending : List ChartBlock
deriving DecidableEq, Inhabited, Repr

namespace RenderQueue

def empty : RenderQueue := ⟨[]⟩

def schedule (q : RenderQueue) (block : ChartBlock) : RenderQueue := ⟨q.pending ++ [block]⟩

def size (q : RenderQueue) : Nat := q.pending.length

def isEmpty (q : RenderQueue) : Bool := q.pending.isEmpty

end RenderQueue

/-- Draws charts one after the other. A failed draw does not keep the others back. -/
def Surface.drawAll {σ : Type} (surface : Surface σ) (blocks : List ChartBlock) (state : σ) : σ :=
  blocks.foldl (fun state block => (surface.draw block state).2) state

/-- Draws all that waits. Answers how many draws were tried. -/
def RenderQueue.flush {σ : Type} (q : RenderQueue) (surface : Surface σ) (state : σ) :
    Nat × RenderQueue × σ :=
  (q.size, .empty, surface.drawAll q.pending state)

/-- Schedules the chart of a script. A script without a chart leaves the queue as it is, and its
fault is shown at once. Answers whether there is a chart. -/
def RenderQueue.submit {σ : Type} (q : RenderQueue) (read : Reader) (format : ChartFormat)
    (surface : Surface σ) (source : String) (state : σ) : Bool × RenderQueue × σ :=
  match synthesize read source with
  | .ok chart => (true, q.schedule (chart.block format), state)
  | .error fault => (false, q, surface.showError fault.shown state)

end Flowchart

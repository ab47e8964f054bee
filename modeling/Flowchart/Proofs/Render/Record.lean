import Flowchart.Render.Queue

/-! Surfaces that also write down what they are asked to do. What a surface answers does not depend
on the record, so a record shows what any surface would have seen. -/
namespace Flowchart

/-- What happens between a program and the world: a script is loaded, which may fail, a chart is to
be drawn, a message is shown in its place. -/
inductive Event
  | load (text : Option String)
  | draw (block : ChartBlock)
  | shown (message : String)
deriving DecidableEq

/-- The text of a load. -/
def Event.loaded? : Event → Option (Option String)
  | load text => some text
  | draw _ | shown _ => none

variable {σ : Type}

/-- The surface with a record behind its own state. A draw is written down whether it fails or not. -/
def Surface.recorded (surface : Surface σ) : Surface (σ × List Event) where
  draw block state :=
    ((surface.draw block state.1).1, (surface.draw block state.1).2, state.2 ++ [.draw block])
  showError message state := (surface.showError message state.1, state.2 ++ [.shown message])

theorem Surface.recorded_drawAll (surface : Surface σ) (blocks : List ChartBlock)
    (state : σ × List Event) :
    surface.recorded.drawAll blocks state =
      (surface.drawAll blocks state.1, state.2 ++ blocks.map .draw) := by
  induction blocks generalizing state with
  | nil => simp [drawAll]
  | cons block rest ih =>
    have first := ih (surface.recorded.draw block state).2
    simp only [drawAll, List.foldl_cons] at first ⊢
    rw [first]
    simp only [recorded, List.append_assoc, List.singleton_append, List.map_cons]

end Flowchart

import Flowchart.Chart.Format

/-! Surfaces that charts are drawn on. A surface is told as what its operations do to a state. -/
namespace Flowchart

/-- Draws finished charts, which may fail, and shows a message in place of a chart. -/
structure Surface (σ : Type) where
  draw : ChartBlock → σ → Bool × σ
  showError : String → σ → σ

/-- A surface in a box. It hands every call to what it holds, whichever surface that is. -/
def Surface.boxed {σ : Type} (inner : Surface σ) : Surface σ where
  draw block state := inner.draw block state
  showError message state := inner.showError message state

end Flowchart

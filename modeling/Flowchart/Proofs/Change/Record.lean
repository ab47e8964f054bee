import Flowchart.Change.Pipeline
import Flowchart.Proofs.Render.Record

/-! A pipeline at work in a world with a record. It goes the same way as without one, and the record
tells in which order scripts were loaded and charts and messages shown. -/
namespace Flowchart

variable {σ : Type}

def Workshop.recorded (w : Workshop σ) : Workshop (σ × List Event) where
  read := w.read
  format := w.format
  surface := w.surface.recorded
  load state := ((w.load state.1).1, (w.load state.1).2, state.2 ++ [.load (w.load state.1).1])

/-- What a script comes to once it is loaded: its own chart, or the message in its place. A load that
fails comes to nothing. -/
def Workshop.shows (w : Workshop σ) : Option String → List Event
  | none => []
  | some source =>
    match synthesize w.read source with
    | .ok chart => [.draw (chart.block w.format)]
    | .error fault => [.shown fault.shown]

namespace Pipeline

/-- The pipeline with an empty record. -/
def recorded (p : Pipeline σ) : Pipeline (σ × List Event) :=
  ⟨p.queue, p.debouncer, p.runs, p.readings, p.world, []⟩

/-- The pipeline without its record. -/
def forget (p : Pipeline (σ × List Event)) : Pipeline σ :=
  ⟨p.queue, p.debouncer, p.runs, p.readings, p.world.1⟩

/-- What has happened so far. -/
def record (p : Pipeline (σ × List Event)) : List Event := p.world.2

/-- What has happened so far, and the draws that wait. -/
def account (p : Pipeline (σ × List Event)) : List Event :=
  p.record ++ p.queue.pending.map .draw

section Turn

variable (w : Workshop σ) (clock : Nat → Nat) (p : Pipeline σ)

/-- How a turn begins: what is due is drawn, and the debouncer asked. -/
def look : Bool × Pipeline σ :=
  let (now, p) := (p.flush w).now clock
  let (rested, debouncer) := p.debouncer.poll now
  (rested, { p with debouncer })

theorem turn_eq : p.turn w clock = ((p.look w clock).1,
    if (p.look w clock).1 then (p.look w clock).2.handleChange w else (p.look w clock).2) := rfl

theorem await_eq : p.await w clock =
    if (p.turn w clock).1 then ((p.turn w clock).2.turn w clock).2 else (p.turn w clock).2 := by
  rw [await]
  split
  · rename_i p' turned
    rw [turned]
    rfl
  · rename_i p' turned
    rw [turned]
    rfl

end Turn

variable (w : Workshop σ) (clock : Nat → Nat) (p : Pipeline (σ × List Event))

theorem flush_recorded : p.flush w.recorded = { p with
    queue := .empty, world := (w.surface.drawAll p.queue.pending p.world.1, p.account) } := by
  simp only [flush, RenderQueue.flush, Workshop.recorded, Surface.recorded_drawAll]
  rfl

theorem forget_flush : (p.flush w.recorded).forget = p.forget.flush w := by
  rw [flush_recorded]
  rfl

theorem forget_handleChange : (p.handleChange w.recorded).forget = p.forget.handleChange w := by
  simp only [handleChange, Workshop.recorded, forget]
  cases (w.load p.world.1).1 with
  | none => rfl
  | some source =>
    simp only [RenderQueue.submit]
    cases synthesize w.read source <;> rfl

theorem forget_look : (p.look w.recorded clock).1 = (p.forget.look w clock).1 ∧
    (p.look w.recorded clock).2.forget = (p.forget.look w clock).2 := by
  simp only [look, ← forget_flush]
  exact ⟨rfl, rfl⟩

theorem forget_turn : (p.turn w.recorded clock).1 = (p.forget.turn w clock).1 ∧
    (p.turn w.recorded clock).2.forget = (p.forget.turn w clock).2 := by
  obtain ⟨rested, looked⟩ := forget_look w clock p
  refine ⟨rested, ?_⟩
  rw [turn_eq, turn_eq, ← rested, ← looked]
  dsimp only
  rw [apply_ite forget, forget_handleChange]

theorem forget_await : (p.await w.recorded clock).forget = p.forget.await w clock := by
  obtain ⟨rested, turned⟩ := forget_turn w clock p
  rw [await_eq, await_eq, ← rested, ← turned, apply_ite forget, (forget_turn w clock _).2]

theorem forget_close : (p.close w.recorded).forget = p.forget.close w := by
  simp only [close, forget_flush, apply_ite forget, forget_handleChange]
  rfl

theorem forget_run (arrivals : List Arrival) :
    (p.run w.recorded clock arrivals).forget = p.forget.run w clock arrivals := by
  induction arrivals generalizing p with
  | nil => rw [run, run, forget_close, forget_await]
  | cons arrival rest ih =>
    have received : ((p.await w.recorded clock).receive clock arrival).forget =
        (p.forget.await w clock).receive clock arrival := by
      rw [← forget_await]
      cases arrival <;> rfl
    rw [run, run, ih, received]

end Pipeline

end Flowchart

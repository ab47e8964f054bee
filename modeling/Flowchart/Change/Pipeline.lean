import Flowchart.Change.Debouncer
import Flowchart.Render.Queue

/-! Drawing a script anew whenever it changes. Notices of changes arrive one by one; once they have
come to rest, the script is loaded and its chart scheduled. -/
namespace Flowchart

/-- What a pipeline works with: how scripts are read and in which format they are drawn, and a world
that it draws on and loads from. Loading may fail. -/
structure Workshop (σ : Type) where
  read : Reader
  format : ChartFormat
  surface : Surface σ
  load : σ → Option String × σ

/-- What comes in while a pipeline waits: a change, or nothing in time. -/
inductive Arrival
  | notice
  | timeout
deriving DecidableEq, Inhabited, Repr

/-- A pipeline at work. `runs` counts the changes handled, `readings` how often the clock was
read. -/
structure Pipeline (σ : Type) where
  queue : RenderQueue
  debouncer : Debouncer
  runs : Nat
  readings : Nat
  world : σ

namespace Pipeline

variable {σ : Type}

def start (quiet : Nat) (world : σ) : Pipeline σ := ⟨.empty, .start quiet, 0, 0, world⟩

/-- Draws what was scheduled in the turn before. -/
def flush (w : Workshop σ) (p : Pipeline σ) : Pipeline σ :=
  let (_, queue, world) := p.queue.flush w.surface p.world
  { p with queue, world }

/-- Handles one change at once. A script that cannot be loaded leaves everything as it is. -/
def handleChange (w : Workshop σ) (p : Pipeline σ) : Pipeline σ :=
  let (text, world) := w.load p.world
  match text with
  | none => { p with runs := p.runs + 1, world }
  | some source =>
    let (_, queue, world) := p.queue.submit w.read w.format w.surface source world
    { p with runs := p.runs + 1, queue, world }

/-- The next reading of the clock. -/
def now (clock : Nat → Nat) (p : Pipeline σ) : Nat × Pipeline σ :=
  (clock p.readings, { p with readings := p.readings + 1 })

/-- A turn up to the point where it waits: draws what is due and looks at the clock. Answers whether
changes had come to rest; then one was handled, and the turn does not wait. -/
def turn (w : Workshop σ) (clock : Nat → Nat) (p : Pipeline σ) : Bool × Pipeline σ :=
  let (now, p) := (p.flush w).now clock
  let (rested, debouncer) := p.debouncer.poll now
  let p := { p with debouncer }
  (rested, if rested then p.handleChange w else p)

/-- Turns until one waits. A turn that handled a change leaves none pending, so the next one waits. -/
def await (w : Workshop σ) (clock : Nat → Nat) (p : Pipeline σ) : Pipeline σ :=
  match p.turn w clock with
  | (true, p) => (p.turn w clock).2
  | (false, p) => p

/-- What a waiting turn does with an arrival. -/
def receive (clock : Nat → Nat) (p : Pipeline σ) : Arrival → Pipeline σ
  | .notice =>
    let (now, p) := p.now clock
    { p with debouncer := p.debouncer.touch now }
  | .timeout => p

/-- When no more notices can come, a pending change is handled without further waiting. -/
def close (w : Workshop σ) (p : Pipeline σ) : Pipeline σ :=
  let (pending, debouncer) := p.debouncer.take
  let p := { p with debouncer }
  (if pending then p.handleChange w else p).flush w

/-- Handles arrivals until no more can come. -/
def run (w : Workshop σ) (clock : Nat → Nat) (p : Pipeline σ) : List Arrival → Pipeline σ
  | [] => (p.await w clock).close w
  | arrival :: rest => run w clock ((p.await w clock).receive clock arrival) rest

end Pipeline

end Flowchart

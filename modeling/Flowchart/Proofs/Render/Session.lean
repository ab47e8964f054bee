import Flowchart.Proofs.Render.Record
import Flowchart.Render.Queue
import Mathlib.Data.List.Induction

/-! Requests to a queue and its surface, in any order. Whatever the readers answer and whichever
draws fail, what is scheduled is drawn once and in order, and a failure ends as a message. -/
namespace Flowchart

/-- A script comes to a graph: it can be read, and its tree walked from the empty graph. -/
def Reader.Charts (read : Reader) (source : String) (g : Graph) : Prop :=
  ∃ tree last, read source = .ok tree ∧ Graph.empty.walk source tree = (.ok last, g)

/-- A script comes to nothing: it cannot be read, or its tree cannot be walked. -/
inductive Reader.Fails (read : Reader) (source : String) : Fault → Prop
  | unread {fault : Fault} : read source = .error fault → Fails read source fault
  | stuck {tree : Statement} {fault : WalkFault} {g : Graph} : read source = .ok tree →
      Graph.empty.walk source tree = (.error fault, g) → Fails read source (.walk fault)

theorem synthesize_of_charts {read : Reader} {source : String} {g : Graph}
    (charts : read.Charts source g) : synthesize read source = .ok ⟨g, g.mermaid⟩ := by
  obtain ⟨tree, last, parsed, walked⟩ := charts
  unfold synthesize
  rw [parsed]
  simp only [bind, Except.bind, walked]
  rfl

theorem synthesize_of_fails {read : Reader} {source : String} {fault : Fault}
    (fails : read.Fails source fault) : synthesize read source = .error fault := by
  unfold synthesize
  cases fails with
  | unread failed =>
    rw [failed]
    rfl
  | stuck parsed walked =>
    rw [parsed]
    simp only [bind, Except.bind, walked]
    rfl

theorem Reader.charts_or_fails (read : Reader) (source : String) :
    (∃ g, read.Charts source g) ∨ ∃ fault, read.Fails source fault := by
  cases parsed : read source with
  | error fault => exact .inr ⟨fault, .unread parsed⟩
  | ok tree =>
    cases walked : (Graph.empty.walk source tree).1 with
    | ok last => exact .inl ⟨_, tree, last, parsed, Prod.ext walked rfl⟩
    | error fault => exact .inr ⟨_, .stuck parsed (Prod.ext walked rfl)⟩

theorem Chart.block_eq (g : Graph) (format : ChartFormat) :
    Chart.block ⟨g, g.mermaid⟩ format = ⟨format, g.render format⟩ := by
  cases format <;> rfl

/-- What may be asked of a queue and its surface, which may stand in a box. Each script comes with
the reader that it is given to. -/
inductive Request
  | schedule (block : ChartBlock)
  | submit (boxed : Bool) (read : Reader) (format : ChartFormat) (source : String)
  | flush (boxed : Bool)

inductive Reply
  | scheduled
  | submitted (charted : Bool)
  | flushed (tried : Nat)
deriving DecidableEq

/-- A queue with the state of its surface, and the replies so far. -/
structure Session (σ : Type) where
  queue : RenderQueue
  world : σ
  replies : List Reply

def Event.drawn? : Event → Option ChartBlock
  | draw block => some block
  | load _ | shown _ => none

variable {σ τ : Type}

def Surface.reached (surface : Surface σ) (boxed : Bool) : Surface σ :=
  if boxed then surface.boxed else surface

@[simp]
theorem Surface.reached_eq (surface : Surface σ) (boxed : Bool) : surface.reached boxed = surface := by
  cases boxed <;> rfl

namespace Session

def serve (surface : Surface σ) (s : Session σ) : Request → Session σ
  | .schedule block => ⟨s.queue.schedule block, s.world, s.replies ++ [.scheduled]⟩
  | .submit boxed read format source =>
    let (charted, queue, world) :=
      s.queue.submit read format (surface.reached boxed) source s.world
    ⟨queue, world, s.replies ++ [.submitted charted]⟩
  | .flush boxed =>
    let (tried, queue, world) := s.queue.flush (surface.reached boxed) s.world
    ⟨queue, world, s.replies ++ [.flushed tried]⟩

/-- A session that starts with an empty queue. -/
def run (surface : Surface σ) (world : σ) (requests : List Request) : Session σ :=
  requests.foldl (serve surface) ⟨.empty, world, []⟩

theorem run_append_singleton (surface : Surface σ) (world : σ) (requests : List Request)
    (request : Request) : run surface world (requests ++ [request]) =
      (run surface world requests).serve surface request := by
  rw [run, List.foldl_append]
  rfl

def recorded (surface : Surface σ) (world : σ) (requests : List Request) :
    Session (σ × List Event) :=
  run surface.recorded (world, []) requests

def record (s : Session (σ × List Event)) : List Event := s.world.2

/-- The session without its record. -/
def forget (s : Session (σ × List Event)) : Session σ := ⟨s.queue, s.world.1, s.replies⟩

/-- The charts drawn so far and those that wait. -/
def account (s : Session (σ × List Event)) : List ChartBlock :=
  s.record.filterMap Event.drawn? ++ s.queue.pending

end Session

def Request.blocks : Request → List ChartBlock
  | schedule block => [block]
  | submit _ read format source =>
    match read source with
    | .error _ => []
    | .ok tree =>
      match Graph.empty.walk source tree with
      | (.ok _, g) => [⟨format, g.render format⟩]
      | (.error _, _) => []
  | flush _ => []

/-- What a request does to a session. A script is submitted without a call of the surface, or else
with the one call that shows its fault. -/
def Request.Turns (s t : Session (σ × List Event)) : Request → Prop
  | schedule block =>
    t.replies = s.replies ++ [.scheduled] ∧ t.queue.pending = s.queue.pending ++ [block] ∧
      t.world = s.world
  | submit _ read format source => ∃ charted,
    t.replies = s.replies ++ [.submitted charted] ∧
    (charted = false ↔ ∃ fault, read.Fails source fault) ∧
    (charted = true → t.world = s.world ∧ ∃ g, read.Charts source g ∧
      t.queue.pending = s.queue.pending ++ [⟨format, g.render format⟩]) ∧
    (charted = false → t.queue = s.queue ∧ ∃ fault, read.Fails source fault ∧
      t.record = s.record ++ [.shown ("Flowchart Error: " ++ fault.message)])
  | flush _ =>
    t.replies = s.replies ++ [.flushed s.queue.pending.length] ∧ t.queue = .empty ∧
      t.record = s.record ++ s.queue.pending.map .draw

theorem Reader.Charts.blocks {read : Reader} {source : String} {g : Graph}
    (charts : read.Charts source g) (boxed : Bool) (format : ChartFormat) :
    (Request.submit boxed read format source).blocks = [⟨format, g.render format⟩] := by
  obtain ⟨tree, last, parsed, walked⟩ := charts
  simp only [Request.blocks, parsed, walked]

theorem Reader.Fails.blocks {read : Reader} {source : String} {fault : Fault}
    (fails : read.Fails source fault) (boxed : Bool) (format : ChartFormat) :
    (Request.submit boxed read format source).blocks = [] := by
  cases fails with
  | unread failed => simp only [Request.blocks, failed]
  | stuck parsed walked => simp only [Request.blocks, parsed, walked]

theorem Reader.Charts.not_fails {read : Reader} {source : String} {g : Graph}
    (charts : read.Charts source g) : ¬ ∃ fault, read.Fails source fault := by
  rintro ⟨fault, fails⟩
  have both := (synthesize_of_charts charts).symm.trans (synthesize_of_fails fails)
  cases both

namespace Session

theorem serve_turns (surface : Surface σ) (s : Session (σ × List Event)) (request : Request) :
    request.Turns s (s.serve surface.recorded request) := by
  cases request with
  | schedule block => exact ⟨rfl, rfl, rfl⟩
  | submit boxed read format source =>
    simp only [serve, RenderQueue.submit, Surface.reached_eq]
    rcases read.charts_or_fails source with ⟨g, charts⟩ | ⟨fault, fails⟩
    · have scheduled : (s.queue.schedule (Chart.block ⟨g, g.mermaid⟩ format)).pending =
          s.queue.pending ++ [⟨format, g.render format⟩] := by
        rw [Chart.block_eq]
        rfl
      rw [synthesize_of_charts charts]
      refine ⟨true, rfl, ?_, fun _ => ⟨rfl, g, charts, scheduled⟩, fun failed => ?_⟩
      · simpa using charts.not_fails
      · cases failed
    · rw [synthesize_of_fails fails]
      refine ⟨false, rfl, ?_, fun charted => ?_, fun _ => ⟨rfl, fault, fails, rfl⟩⟩
      · simpa using ⟨fault, fails⟩
      · cases charted
  | flush boxed =>
    simp only [serve, RenderQueue.flush, Surface.reached_eq, Surface.recorded_drawAll]
    exact ⟨rfl, rfl, rfl⟩

theorem filterMap_draw (blocks : List ChartBlock) :
    (blocks.map Event.draw).filterMap Event.drawn? = blocks := by
  rw [List.filterMap_map]
  exact List.filterMap_some

/-- A turn adds to the account what the request schedules. -/
theorem account_of_turns {s t : Session (σ × List Event)} {request : Request}
    (turns : request.Turns s t) : t.account = s.account ++ request.blocks := by
  cases request with
  | schedule block =>
    obtain ⟨_, pending, world⟩ := turns
    rw [account, record, world, pending, ← List.append_assoc]
    rfl
  | submit boxed read format source =>
    obtain ⟨charted, _, _, done, failed⟩ := turns
    cases charted with
    | true =>
      obtain ⟨world, g, charts, pending⟩ := done rfl
      rw [account, record, world, pending, charts.blocks, ← List.append_assoc]
      rfl
    | false =>
      -- The message is no draw, so the account stays as it is.
      obtain ⟨queue, fault, fails, shown⟩ := failed rfl
      rw [account, queue, shown, fails.blocks, List.append_nil, List.filterMap_append]
      simp only [List.filterMap_cons, Event.drawn?, List.filterMap_nil, List.append_nil]
      rfl
  | flush boxed =>
    obtain ⟨_, queue, drawn⟩ := turns
    rw [account, queue, drawn, List.filterMap_append, filterMap_draw]
    simp only [RenderQueue.empty, Request.blocks, List.append_nil]
    rfl

theorem account_recorded (surface : Surface σ) (world : σ) (requests : List Request) :
    (recorded surface world requests).account = requests.flatMap Request.blocks := by
  -- On the last request: a session is served from the left.
  induction requests using List.reverseRecOn with
  | nil => rfl
  | append_singleton before request ih =>
    rw [recorded, run_append_singleton, account_of_turns (serve_turns surface _ request),
      List.flatMap_append, List.flatMap_singleton]
    exact congrArg (· ++ request.blocks) ih

theorem forget_serve (surface : Surface σ) (s : Session (σ × List Event)) (request : Request) :
    (s.serve surface.recorded request).forget = s.forget.serve surface request := by
  cases request with
  | schedule block => rfl
  | submit boxed read format source =>
    simp only [serve, RenderQueue.submit, Surface.reached_eq, forget]
    cases synthesize read source <;> rfl
  | flush boxed =>
    simp only [serve, RenderQueue.flush, Surface.reached_eq, Surface.recorded_drawAll, forget]

theorem forget_recorded (surface : Surface σ) (world : σ) (requests : List Request) :
    (recorded surface world requests).forget = run surface world requests := by
  induction requests using List.reverseRecOn with
  | nil => rfl
  | append_singleton before request ih =>
    rw [recorded, run_append_singleton, run_append_singleton, forget_serve, ← ih]
    rfl

/-- Two sessions agree in all but the states of their surfaces. -/
structure Agree (s : Session (σ × List Event)) (t : Session (τ × List Event)) : Prop where
  queue : s.queue = t.queue
  record : s.record = t.record
  replies : s.replies = t.replies

theorem Agree.serve {s : Session (σ × List Event)} {t : Session (τ × List Event)}
    (agree : Agree s t) (surface : Surface σ) (other : Surface τ) (request : Request) :
    Agree (s.serve surface.recorded request) (t.serve other.recorded request) := by
  obtain ⟨queue, ⟨world, events⟩, replies⟩ := s
  obtain ⟨_, ⟨_, _⟩, _⟩ := t
  obtain ⟨rfl, rfl, rfl⟩ := agree
  cases request with
  | schedule block => exact ⟨rfl, rfl, rfl⟩
  | submit boxed read format source =>
    simp only [Session.serve, RenderQueue.submit, Surface.reached_eq]
    cases synthesize read source <;> exact ⟨rfl, rfl, rfl⟩
  | flush boxed =>
    simp only [Session.serve, RenderQueue.flush, Surface.reached_eq, Surface.recorded_drawAll]
    exact ⟨rfl, rfl, rfl⟩

theorem recorded_agree (surface : Surface σ) (other : Surface τ) (world : σ) (world' : τ)
    (requests : List Request) :
    Agree (recorded surface world requests) (recorded other world' requests) := by
  induction requests using List.reverseRecOn with
  | nil => exact ⟨rfl, rfl, rfl⟩
  | append_singleton before request ih =>
    rw [recorded, recorded, run_append_singleton, run_append_singleton]
    exact ih.serve surface other request

/-- Nothing that is scheduled is lost, drawn twice or moved, and no failure escapes. At every point
of a session the charts drawn and those that wait are the charts scheduled, in order. Each request
does what it has to do and calls the surface for nothing else. What is drawn, shown, replied and left
to wait is the same on every surface, so it does not depend on the draws that fail. -/
theorem scheduled_drawn (surface : Surface σ) (world : σ) (requests : List Request) :
    (recorded surface world requests).forget = run surface world requests ∧
    (∀ before after, requests = before ++ after →
      (recorded surface world before).record.filterMap Event.drawn? ++
          (recorded surface world before).queue.pending = before.flatMap Request.blocks) ∧
    (∀ before request after, requests = before ++ request :: after →
      request.Turns (recorded surface world before)
        (recorded surface world (before ++ [request]))) ∧
    (∀ (τ : Type) (other : Surface τ) (world' : τ),
      (recorded other world' requests).record = (recorded surface world requests).record ∧
      (recorded other world' requests).replies = (recorded surface world requests).replies ∧
      (recorded other world' requests).queue = (recorded surface world requests).queue) := by
  refine ⟨forget_recorded surface world requests, ?_, ?_, ?_⟩
  · intro before after _
    exact account_recorded surface world before
  · intro before request after _
    rw [recorded, recorded, run_append_singleton]
    exact serve_turns surface _ request
  · intro τ other world'
    have agree := recorded_agree other surface world' world requests
    exact ⟨agree.record, agree.replies, agree.queue⟩

/-- A surface that counts draws, all of which fail. -/
example :
    let requests := [.schedule ⟨.dot, "a"⟩,
      .submit true (fun _ => .error (.parse ⟨"no statement", none, none⟩)) .dot "x",
      .submit false (fun _ => .ok (.exit ⟨0, 1⟩ none)) .mermaid "x", .flush true, .flush false]
    let s := recorded ⟨fun _ n => (false, n + 1), fun _ n => n⟩ 0 requests
    s.record = [.shown "Flowchart Error: no statement", .draw ⟨.dot, "a"⟩,
        .draw ⟨.mermaid, "flowchart LR\nnode0[\"return \"]"⟩] ∧
      s.world.1 = 2 ∧ s.replies =
        [.scheduled, .submitted false, .submitted true, .flushed 2, .flushed 0] := by
  decide +kernel

end Session

end Flowchart

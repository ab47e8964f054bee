import Flowchart.Proofs.Change.Debouncer
import Flowchart.Proofs.Change.Record

/-! No change is lost. A pipeline owes a load while a change is pending; each notice makes it owe one,
and each load pays it. What has happened and the draws that wait only grow by what the loaded scripts
show, in the order in which they were loaded. -/
namespace Flowchart.Pipeline

variable {σ : Type}

/-- The loads that a pipeline still has to make. -/
def owed (p : Pipeline σ) : Nat := p.debouncer.isPending.toNat

/-- Between two moments a pipeline loads some texts, each of which shows what it comes to. -/
structure Serves (w : Workshop σ) (p q : Pipeline (σ × List Event)) (texts : List (Option String)) :
    Prop where
  account : q.account = p.account ++ texts.flatMap fun text => .load text :: w.shows text
  runs : q.runs = p.runs + texts.length
  quiet : q.debouncer.quiet = p.debouncer.quiet

variable {w : Workshop σ} {clock : Nat → Nat} {p q r : Pipeline (σ × List Event)}
  {texts more : List (Option String)}

theorem Serves.trans (first : Serves w p q texts) (second : Serves w q r more) :
    Serves w p r (texts ++ more) := by
  refine ⟨?_, ?_, second.quiet.trans first.quiet⟩
  · rw [second.account, first.account, List.flatMap_append, List.append_assoc]
  · rw [second.runs, first.runs, List.length_append, Nat.add_assoc]

theorem loaded_shows (w : Workshop σ) (texts : List (Option String)) :
    (texts.flatMap fun text => .load text :: w.shows text).filterMap Event.loaded? = texts := by
  have shown (text : Option String) : (w.shows text).filterMap Event.loaded? = [] := by
    unfold Workshop.shows
    split
    · rfl
    · split <;> rfl
  induction texts with
  | nil => rfl
  | cons text rest ih =>
    rw [List.flatMap_cons, List.filterMap_append, ih, List.filterMap_cons]
    simp only [Event.loaded?, shown, List.singleton_append]

/-- The texts can be told from what has happened. -/
theorem Serves.unique (one : Serves w p q texts) (other : Serves w p q more) : texts = more := by
  have same := List.append_cancel_left (one.account.symm.trans other.account)
  rw [← loaded_shows w texts, same, loaded_shows]

theorem flush_serves : Serves w p (p.flush w.recorded) [] := by
  rw [flush_recorded]
  exact ⟨by simp [account, record, RenderQueue.empty], rfl, rfl⟩

/-- A change is handled when nothing waits to be drawn, so what it shows comes behind its load. -/
theorem handleChange_serves (drawn : p.queue = .empty) :
    ∃ text, Serves w p (p.handleChange w.recorded) [text] := by
  refine ⟨(w.load p.world.1).1, ?_⟩
  simp only [handleChange, Workshop.recorded]
  cases (w.load p.world.1).1 with
  | none => exact ⟨by simp [account, record, drawn, RenderQueue.empty, Workshop.shows], rfl, rfl⟩
  | some source =>
    simp only [RenderQueue.submit]
    cases charted : synthesize w.read source with
    | ok chart =>
      refine ⟨?_, rfl, rfl⟩
      simp [account, record, drawn, RenderQueue.empty, RenderQueue.schedule, Workshop.shows, charted]
    | error fault =>
      refine ⟨?_, rfl, rfl⟩
      simp [account, record, drawn, RenderQueue.empty, Surface.recorded, Workshop.shows, charted]

theorem debouncer_handleChange (w : Workshop σ) (p : Pipeline σ) :
    (p.handleChange w).debouncer = p.debouncer := by
  simp only [handleChange]
  split <;> rfl

variable (w clock p) in
/-- How a turn begins serves nothing, and leaves no draw waiting. -/
theorem look_serves : Serves w p (p.look w.recorded clock).2 [] ∧
    (p.look w.recorded clock).2.queue = .empty ∧
      ∃ now, (p.look w.recorded clock).1 = (p.debouncer.poll now).1 ∧
        (p.look w.recorded clock).2.debouncer = (p.debouncer.poll now).2 := by
  have flushed := flush_serves (w := w) (p := p)
  simp only [look, now]
  rw [flush_recorded] at flushed ⊢
  refine ⟨⟨flushed.account, flushed.runs, ?_⟩, rfl, _, rfl, rfl⟩
  rw [Debouncer.poll_snd]
  split <;> rfl

/-- A turn that waits has drawn what was due. -/
theorem turn_waits (waits : (p.turn w.recorded clock).1 = false) :
    Serves w p (p.turn w.recorded clock).2 [] ∧ (p.turn w.recorded clock).2.queue = .empty ∧
      (p.turn w.recorded clock).2.debouncer = p.debouncer ∧
      (p.debouncer.quiet = 0 → p.owed = 0) := by
  obtain ⟨serves, drawn, now, rested, debouncer⟩ := look_serves w clock p
  rw [turn_eq] at waits ⊢
  dsimp only at waits
  rw [waits] at rested ⊢
  refine ⟨serves, drawn, ?_, fun always => ?_⟩
  · rw [if_neg Bool.false_ne_true, debouncer, Debouncer.poll_snd, ← rested]
    rfl
  · rw [owed, ← Debouncer.poll_of_quiet_zero now always, ← rested]
    rfl

/-- A turn that does not wait has handled the pending change. -/
theorem turn_handles (handles : (p.turn w.recorded clock).1 = true) :
    ∃ text, Serves w p (p.turn w.recorded clock).2 [text] ∧ p.owed = 1 ∧
      (p.turn w.recorded clock).2.owed = 0 := by
  obtain ⟨serves, drawn, now, rested, debouncer⟩ := look_serves w clock p
  rw [turn_eq] at handles ⊢
  dsimp only at handles
  rw [handles] at rested ⊢
  obtain ⟨text, handled⟩ := handleChange_serves (w := w) drawn
  refine ⟨text, serves.trans handled, ?_, ?_⟩
  · rw [owed, Debouncer.isPending_of_poll rested.symm]
    rfl
  · rw [if_pos rfl, owed, debouncer_handleChange, debouncer, Debouncer.poll_snd, ← rested]
    rfl

variable (w clock p) in
/-- Turns until one waits pay what is owed, if the time to wait is over. -/
theorem await_serves : ∃ texts, Serves w p (p.await w.recorded clock) texts ∧
    (p.await w.recorded clock).queue = .empty ∧
      texts.length + (p.await w.recorded clock).owed = p.owed ∧
      (p.debouncer.quiet = 0 → (p.await w.recorded clock).owed = 0) := by
  rw [await_eq]
  cases first : (p.turn w.recorded clock).1 with
  | false =>
    obtain ⟨serves, drawn, debouncer, prompt⟩ := turn_waits first
    have same : (p.turn w.recorded clock).2.owed = p.owed := by rw [owed, owed, debouncer]
    exact ⟨[], serves, drawn, by simpa using same, fun always => same.trans (prompt always)⟩
  | true =>
    obtain ⟨text, serves, due, paid⟩ := turn_handles first
    -- The change has been handled, so the second turn cannot find another one.
    have second : ((p.turn w.recorded clock).2.turn w.recorded clock).1 = false := by
      rw [Bool.eq_false_iff]
      intro again
      obtain ⟨_, _, due', _⟩ := turn_handles again
      omega
    obtain ⟨serves', drawn, debouncer, _⟩ := turn_waits second
    have same : ((p.turn w.recorded clock).2.turn w.recorded clock).2.owed = 0 := by
      rw [← paid, owed, owed, debouncer]
    refine ⟨[text], serves.trans serves', drawn, ?_, fun _ => same⟩
    simp only [if_true, same, due, List.length_singleton]

variable (w clock p) in
theorem receive_serves (arrival : Arrival) : Serves w p (p.receive clock arrival) [] ∧
    (p.receive clock arrival).owed = if arrival = .notice then 1 else p.owed := by
  cases arrival with
  | notice => exact ⟨⟨(List.append_nil _).symm, rfl, rfl⟩, rfl⟩
  | timeout => exact ⟨⟨(List.append_nil _).symm, rfl, rfl⟩, rfl⟩

/-- At the end all that is owed is paid, and what it shows is drawn. -/
theorem close_serves (drawn : p.queue = .empty) : ∃ texts, Serves w p (p.close w.recorded) texts ∧
    texts.length = p.owed ∧ (p.close w.recorded).owed = 0 ∧
      (p.close w.recorded).queue = .empty := by
  let settled : Pipeline (σ × List Event) := { p with debouncer.touched := none }
  have ended : p.close w.recorded =
      (if p.debouncer.isPending then settled.handleChange w.recorded else settled).flush w.recorded :=
    rfl
  by_cases pending : p.debouncer.isPending = true
  · obtain ⟨text, handled⟩ := handleChange_serves (w := w) (p := settled) drawn
    have served := handled.trans flush_serves
    rw [ended, if_pos pending]
    refine ⟨[text], ⟨served.account, served.runs, served.quiet⟩, ?_, ?_, ?_⟩
    · rw [owed, pending]
      rfl
    · rw [flush_recorded, owed, debouncer_handleChange]
      rfl
    · rw [flush_recorded]
  · have served := flush_serves (w := w) (p := settled)
    rw [ended, if_neg pending]
    refine ⟨[], ⟨served.account, served.runs, served.quiet⟩, ?_, ?_, ?_⟩
    · rw [owed, Bool.eq_false_iff.mpr pending]
      rfl
    · rw [flush_recorded]
      rfl
    · rw [flush_recorded]

/-- The pipeline when it has received some arrivals, before it waits for the next. -/
def received (w : Workshop σ) (clock : Nat → Nat) (p : Pipeline σ) (arrivals : List Arrival) :
    Pipeline σ :=
  arrivals.foldl (fun p arrival => (p.await w clock).receive clock arrival) p

theorem run_append (w : Workshop σ) (clock : Nat → Nat) (p : Pipeline σ)
    (arrivals later : List Arrival) :
    p.run w clock (arrivals ++ later) = (p.received w clock arrivals).run w clock later := by
  induction arrivals generalizing p with
  | nil => rfl
  | cons arrival rest ih => exact ih _

variable (w clock p) in
theorem received_serves (arrivals : List Arrival) :
    ∃ texts, Serves w p (p.received w.recorded clock arrivals) texts := by
  induction arrivals generalizing p with
  | nil => exact ⟨[], (List.append_nil _).symm, rfl, rfl⟩
  | cons arrival rest ih =>
    obtain ⟨first, waited, _⟩ := await_serves w clock p
    obtain ⟨texts, served⟩ := ih (p := (p.await w.recorded clock).receive clock arrival)
    exact ⟨_, (waited.trans (receive_serves w clock _ arrival).1).trans served⟩

variable (w clock p) in
/-- A pipeline that has just received a notice owes a load, and no draw waits. -/
theorem received_notice (arrivals : List Arrival) :
    (p.received w.recorded clock (arrivals ++ [.notice])).owed = 1 ∧
      (p.received w.recorded clock (arrivals ++ [.notice])).queue = .empty := by
  rw [received, List.foldl_append]
  obtain ⟨_, _, drawn, _⟩ := await_serves w clock (p.received w.recorded clock arrivals)
  exact ⟨rfl, drawn⟩

theorem owed_le_one (p : Pipeline σ) : p.owed ≤ 1 := Bool.toNat_le _

variable (w clock p) in
/-- A run pays what is owed, and at most one load more for each notice. -/
theorem run_serves (arrivals : List Arrival) :
    ∃ texts, Serves w p (p.run w.recorded clock arrivals) texts ∧
      p.owed ≤ texts.length ∧ texts.length ≤ p.owed + arrivals.count .notice ∧
      (p.debouncer.quiet = 0 → texts.length = p.owed + arrivals.count .notice) ∧
      (p.run w.recorded clock arrivals).owed = 0 ∧
      (p.run w.recorded clock arrivals).queue = .empty := by
  induction arrivals generalizing p with
  | nil =>
    obtain ⟨first, waited, drawn, paid, prompt⟩ := await_serves w clock p
    obtain ⟨last, closed, due, idle, empty⟩ := close_serves (w := w) drawn
    refine ⟨first ++ last, waited.trans closed, ?_, ?_, fun _ => ?_, idle, empty⟩ <;>
      simp only [List.length_append, List.count_nil] <;> omega
  | cons arrival rest ih =>
    obtain ⟨first, waited, drawn, paid, prompt⟩ := await_serves w clock p
    obtain ⟨got, owes⟩ := receive_serves w clock (p.await w.recorded clock) arrival
    obtain ⟨last, served, least, most, exactly, idle, empty⟩ :=
      ih (p := (p.await w.recorded clock).receive clock arrival)
    have reached := waited.trans got
    rw [List.append_nil] at reached
    have small := owed_le_one (p.await w.recorded clock)
    rw [owes] at least most exactly
    refine ⟨first ++ last, reached.trans served, ?_, ?_, fun always => ?_, idle, empty⟩
    · rw [List.length_append]
      split at least <;> omega
    · rw [List.length_append, List.count_cons]
      cases arrival <;> simp at most ⊢ <;> omega
    · have due := exactly (reached.quiet.trans always)
      have none_left := prompt always
      rw [List.length_append, List.count_cons]
      cases arrival <;> simp at due ⊢ <;> omega

/-- No notice is lost, and all that is shown comes in the order of the loads. A run that starts with
no change pending loads a text behind each notice, and at most one text for each; then it has drawn
what waited before it began and shown what each text comes to, in order, and nothing else. -/
theorem run_serves_notices (w : Workshop σ) (clock : Nat → Nat) (p : Pipeline σ)
    (idle : p.debouncer.isPending = false) (arrivals : List Arrival) :
    ∃ texts : List (Option String),
      (p.recorded.run w.recorded clock arrivals).forget = p.run w clock arrivals ∧
      (p.recorded.run w.recorded clock arrivals).record = p.queue.pending.map .draw ++
        texts.flatMap (fun text => .load text :: w.shows text) ∧
      (p.run w clock arrivals).runs = p.runs + texts.length ∧
      texts.length ≤ arrivals.count .notice ∧
      (1 ≤ arrivals.count .notice → 1 ≤ texts.length) ∧
      (p.debouncer.quiet = 0 → texts.length = arrivals.count .notice) ∧
      (∀ before after, arrivals = before ++ .notice :: after → ∃ earlier later,
        texts = earlier ++ later ∧ later ≠ [] ∧
        (p.recorded.received w.recorded clock (before ++ [.notice])).record =
          p.queue.pending.map .draw ++
            earlier.flatMap (fun text => .load text :: w.shows text)) ∧
      (p.run w clock arrivals).queue = .empty ∧
      (p.run w clock arrivals).debouncer.isPending = false := by
  have free : p.recorded.owed = 0 := congrArg Bool.toNat idle
  have shown {q : Pipeline (σ × List Event)} {texts : List (Option String)}
      (served : Serves w p.recorded q texts) (drawn : q.queue = .empty) :
      q.record = p.queue.pending.map .draw ++
        texts.flatMap fun text => .load text :: w.shows text := by
    have grown := served.account
    rw [account, drawn] at grown
    exact (List.append_nil _).symm.trans grown
  obtain ⟨texts, served, least, most, exactly, ended, drawn⟩ :=
    run_serves w clock p.recorded arrivals
  rw [free, Nat.zero_add] at most exactly
  have same : (p.recorded.run w.recorded clock arrivals).forget = p.run w clock arrivals :=
    forget_run w clock p.recorded arrivals
  have answered : ∀ before after, arrivals = before ++ .notice :: after → ∃ earlier later,
      texts = earlier ++ later ∧ later ≠ [] ∧
        (p.recorded.received w.recorded clock (before ++ [.notice])).record =
          p.queue.pending.map .draw ++
            earlier.flatMap fun text => .load text :: w.shows text := by
    rintro before after rfl
    obtain ⟨due, waits⟩ := received_notice w clock p.recorded before
    obtain ⟨earlier, until_then⟩ := received_serves w clock p.recorded
      (before ++ [.notice])
    obtain ⟨later, from_then, paid, _⟩ := run_serves w clock
      (p.recorded.received w.recorded clock (before ++ [.notice])) after
    rw [← run_append, List.append_assoc, List.singleton_append] at from_then
    refine ⟨earlier, later, served.unique (until_then.trans from_then), ?_, shown until_then waits⟩
    rintro rfl
    rw [due] at paid
    exact absurd paid (by simp)
  refine ⟨texts, same, shown served drawn, ?_, most, fun some_notice => ?_, exactly, answered, ?_, ?_⟩
  · rw [← same]
    exact served.runs
  · obtain ⟨before, after, split⟩ :=
      List.append_of_mem (List.count_pos_iff.mp (Nat.lt_of_succ_le some_notice))
    obtain ⟨earlier, later, whole, some_later, _⟩ := answered before after split
    rw [whole, List.length_append]
    have := List.length_pos_iff.mpr some_later
    omega
  · rw [← same]
    exact drawn
  · rw [← same]
    exact Bool.toNat_eq_zero.mp ended

/-- A workshop that has its scripts in a list, cannot read the empty one, and fails to draw. -/
def shelf : Workshop (List (Option String)) where
  read source :=
    if source = "" then .error (.parse ⟨"no statement", none, none⟩) else .ok (.expression ⟨0, 1⟩)
  format := .mermaid
  surface := { draw := fun _ texts => (false, texts), showError := fun _ texts => texts }
  load texts := (texts.head?.getD none, texts.tail)

/-- A pipeline behind one change, whose chart still waits. -/
def edits : Pipeline (List (Option String)) :=
  ⟨⟨[⟨.mermaid, "flowchart LR"⟩]⟩, ⟨5, none⟩, 1, 0, [some "x", none, some ""]⟩

/-- Four edits of which the first two come close together. -/
def pauses : List Arrival :=
  [.notice, .notice, .timeout, .timeout, .notice, .timeout, .timeout, .notice]

theorem edits_served :
    edits.debouncer.isPending = false ∧
      (edits.recorded.run shelf.recorded (fun n => 3 * n) pauses).record =
        [.draw ⟨.mermaid, "flowchart LR"⟩, .load (some "x"),
          .draw ⟨.mermaid, "flowchart LR\nnode0[\"x\"]"⟩, .load none, .load (some ""),
          .shown "Flowchart Error: no statement"] ∧
      (edits.run shelf (fun n => 3 * n) pauses).runs = 4 ∧
      ∃ texts : List (Option String), texts.length ≤ 4 ∧ 1 ≤ texts.length ∧
        (edits.run shelf (fun n => 3 * n) pauses).runs = 1 + texts.length ∧
        (edits.run shelf (fun n => 3 * n) pauses).queue = .empty := by
  have idle : edits.debouncer.isPending = false := rfl
  obtain ⟨texts, _, _, runs, most, least, _, _, drawn, _⟩ :=
    run_serves_notices shelf (fun n => 3 * n) edits idle pauses
  refine ⟨idle, by decide +kernel, by decide +kernel, texts, most, least (by decide), runs, drawn⟩

end Flowchart.Pipeline

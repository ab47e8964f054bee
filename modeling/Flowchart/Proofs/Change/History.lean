import Flowchart.Proofs.Change.Debouncer
import Mathlib.Data.List.Induction
import Mathlib.Order.Basic

/-! A debouncer over any history of calls. What it answers depends on the last touch alone, and on whether
an answer came since; the clock may also run backwards. -/
namespace Flowchart.Debouncer

inductive Call
  | touch (now : Nat)
  | poll (now : Nat)
  | remaining (now : Nat)
  | take
deriving DecidableEq

inductive Answer
  | nothing
  | told (yes : Bool)
  | left (time : Option Nat)
deriving DecidableEq

def call (d : Debouncer) : Call → Answer × Debouncer
  | .touch now => (.nothing, d.touch now)
  | .poll now => (.told (d.poll now).1, (d.poll now).2)
  | .remaining now => (.left (d.remaining now), d)
  | .take => (.told d.take.1, d.take.2)

/-- The debouncer behind some calls. -/
def after (d : Debouncer) (calls : List Call) : Debouncer := calls.foldl (fun d c => (d.call c).2) d

/-- Calls with what each of them is answered. -/
def record (d : Debouncer) : List Call → List (Call × Answer)
  | [] => []
  | c :: rest => (c, (d.call c).1) :: (d.call c).2.record rest

def Call.touched? : Call → Option Nat
  | .touch now => some now
  | .poll _ | .remaining _ | .take => none

/-- The time of the last touch. -/
def lastTouch? (calls : List Call) : Option Nat := (calls.filterMap Call.touched?).getLast?

/-- A call that answered for a change. -/
def Fired (entry : Call × Answer) : Prop := entry.2 = .told true

instance : DecidablePred Fired := fun entry => inferInstanceAs (Decidable (entry.2 = .told true))

/-- A touch is recorded, and behind it no call that answered for a change. -/
def Unanswered (entries : List (Call × Answer)) : Prop :=
  ∃ earlier now later, entries = earlier ++ (.touch now, .nothing) :: later ∧
    ∀ entry ∈ later, ¬ Fired entry

section Append

variable {d : Debouncer} {c : Call} {calls : List Call} {entries : List (Call × Answer)}
  {entry : Call × Answer}

theorem after_append_singleton (d : Debouncer) (calls : List Call) (c : Call) :
    d.after (calls ++ [c]) = ((d.after calls).call c).2 := by
  simp [after]

theorem record_append_singleton (d : Debouncer) (calls : List Call) (c : Call) :
    d.record (calls ++ [c]) = d.record calls ++ [(c, ((d.after calls).call c).1)] := by
  induction calls generalizing d with
  | nil => rfl
  | cons first rest ih => simp [record, ih, after]

theorem lastTouch?_append_singleton (calls : List Call) (c : Call) :
    lastTouch? (calls ++ [c]) = c.touched?.or (lastTouch? calls) := by
  cases c <;> simp [lastTouch?, Call.touched?]

theorem unanswered_append_singleton : Unanswered (entries ++ [entry]) ↔
    (∃ now, entry = (.touch now, .nothing)) ∨ (Unanswered entries ∧ ¬ Fired entry) := by
  constructor
  · rintro ⟨earlier, now, later, split, none⟩
    rcases List.eq_nil_or_concat later with rfl | ⟨front, last, rfl⟩
    · obtain ⟨_, same⟩ := List.append_inj' split rfl
      simp only [List.cons.injEq, and_true] at same
      exact .inl ⟨now, same⟩
    · rw [List.concat_eq_append] at split none
      rw [← List.cons_append, ← List.append_assoc] at split
      obtain ⟨before, same⟩ := List.append_inj' split rfl
      simp only [List.cons.injEq, and_true] at same
      obtain ⟨none, last⟩ := List.forall_mem_append.mp none
      exact .inr ⟨⟨earlier, now, front, before, none⟩, same ▸ last _ List.mem_cons_self⟩
  · rintro (⟨now, rfl⟩ | ⟨⟨earlier, now, later, rfl, none⟩, last⟩)
    · exact ⟨entries, now, [], rfl, nofun⟩
    · refine ⟨earlier, now, later ++ [entry], by simp, List.forall_mem_append.mpr ⟨none, ?_⟩⟩
      simpa using last

end Append

section Step

variable {d : Debouncer} {c : Call} {time : Nat}

theorem fired_poll {now : Nat} {yes : Bool} : Fired (.poll now, .told yes) ↔ yes = true := by
  simp [Fired]

theorem fired_take {yes : Bool} : Fired (.take, .told yes) ↔ yes = true := by
  simp [Fired]

theorem isPending_of_fired (fired : Fired (c, (d.call c).1)) : d.isPending = true := by
  cases c with
  | touch now | remaining now => cases fired
  | poll now => exact isPending_of_poll (fired_poll.mp fired)
  | take => exact fired_take.mp fired

/-- A touch makes a change pending, and only an answer ends that. -/
theorem isPending_call : (d.call c).2.isPending = true ↔
    (∃ now, c = .touch now) ∨ (d.isPending = true ∧ ¬ Fired (c, (d.call c).1)) := by
  cases c with
  | touch now => simp [call, touch, isPending]
  | remaining now => simp [call, Fired]
  | take =>
    rw [call, fired_take]
    refine iff_of_false Bool.false_ne_true ?_
    rintro (⟨_, ⟨⟩⟩ | ⟨pending, silent⟩)
    exact silent pending
  | poll now =>
    rw [call, fired_poll, poll_snd]
    cases (d.poll now).1 <;> simp [isPending]

theorem quiet_call (d : Debouncer) (c : Call) : (d.call c).2.quiet = d.quiet := by
  cases c with
  | touch now | remaining now | take => rfl
  | poll now =>
    rw [call, poll_snd]
    cases (d.poll now).1 <;> rfl

theorem touched_call (touched : (d.call c).2.touched = some time) :
    c.touched?.or d.touched = some time := by
  cases c with
  | touch now | remaining now => exact touched
  | take => cases touched
  | poll now =>
    rw [call, poll_snd] at touched
    cases rested : (d.poll now).1 with
    | false =>
      rw [rested] at touched
      exact touched
    | true =>
      rw [rested] at touched
      cases touched

end Step

section Run

variable {d : Debouncer} {quiet last : Nat} {calls : List Call}

theorem quiet_after (d : Debouncer) (calls : List Call) : (d.after calls).quiet = d.quiet := by
  induction calls using List.reverseRecOn with
  | nil => rfl
  | append_singleton calls c ih => rw [after_append_singleton, quiet_call, ih]

theorem isPending_after : ((start quiet).after calls).isPending = true ↔
    Unanswered ((start quiet).record calls) := by
  induction calls using List.reverseRecOn with
  | nil =>
    constructor
    · exact nofun
    · rintro ⟨earlier, now, later, split, _⟩
      simp [record] at split
  | append_singleton calls c ih =>
    rw [after_append_singleton, record_append_singleton, isPending_call, unanswered_append_singleton, ih]
    refine or_congr (exists_congr fun now => ?_) Iff.rfl
    constructor
    · rintro rfl
      rfl
    · exact congrArg Prod.fst

theorem lastTouch?_of_touched (touched : ((start quiet).after calls).touched = some last) :
    lastTouch? calls = some last := by
  induction calls using List.reverseRecOn generalizing last with
  | nil => cases touched
  | append_singleton calls c ih =>
    rw [after_append_singleton] at touched
    have known := touched_call touched
    rw [lastTouch?_append_singleton]
    cases here : c.touched? with
    | some time => rwa [here] at known
    | none =>
      rw [here, Option.none_or] at known
      rw [Option.none_or]
      exact ih known

/-- Without a touch a pending change is answered for at most once, and nothing else is. -/
theorem count_fired_le (still : ∀ now, .touch now ∉ calls) :
    (d.record calls).countP (fun entry => Fired entry) ≤ d.isPending.toNat := by
  induction calls generalizing d with
  | nil => exact Nat.zero_le _
  | cons c rest ih =>
    have untouched : ¬ ∃ now, c = .touch now := by
      rintro ⟨now, rfl⟩
      exact still now List.mem_cons_self
    have later := ih (d := (d.call c).2) fun now member => still now (List.mem_cons_of_mem c member)
    have step := @isPending_call d c
    rw [or_iff_right untouched] at step
    rw [record, List.countP_cons]
    by_cases fired : Fired (c, (d.call c).1)
    · have paid : (d.call c).2.isPending = false := by simpa [fired] using step
      rw [paid] at later
      simp only [isPending_of_fired fired, fired, decide_true, if_true]
      exact Nat.succ_le_succ later
    · have same : (d.call c).2.isPending = d.isPending := 
        Bool.eq_iff_iff.mpr (step.trans (and_iff_left fired))
      rw [same] at later
      simpa [fired] using later

end Run

section Wait

variable {d : Debouncer} {last now left : Nat}

theorem poll_iff_of_touched {time : Nat} (touched : d.touched = some last) :
    (d.poll time).1 = true ↔ d.quiet ≤ time - last := by
  rw [poll_iff, touched]
  simp

/-- The time that is left is the time until a poll is answered. -/
theorem poll_of_remaining (waits : d.remaining now = some left) (touched : d.touched = some last)
    (since : last ≤ now) :
    (∀ later, now + left ≤ later → (d.poll later).1 = true) ∧
      (0 < left → ∀ early, early < now + left → (d.poll early).1 = false) ∧
      (left = 0 ↔ (d.poll now).1 = true) := by
  have exactly : left = last + d.quiet - now := by
    rw [remaining, touched] at waits
    exact (Option.some.inj waits).symm
  refine ⟨fun later behind => ?_, fun some_time early before => ?_, ?_⟩
  · rw [poll_iff_of_touched touched]
    omega
  · rw [Bool.eq_false_iff, ne_eq, poll_iff_of_touched touched]
    omega
  · rw [poll_iff_of_touched touched]
    omega

end Wait

/-- A debouncer over any history of calls. A change is pending if a touch was not yet answered for; a poll
answers for it once the last touch is the quiet time ago, and `take` at once, so between two touches there
is at most one answer. The time that it says to be left is exact. -/
theorem history_answers (quiet : Nat) (calls : List Call) :
    (((start quiet).after calls).isPending = true ↔ Unanswered ((start quiet).record calls)) ∧
    (∀ now, (((start quiet).after calls).poll now).1 = true ↔
      ((start quiet).after calls).isPending = true ∧
        ∃ last, lastTouch? calls = some last ∧ (quiet : Int) ≤ max 0 ((now : Int) - last)) ∧
    ((start quiet).after calls).take.1 = ((start quiet).after calls).isPending ∧
    (∀ now, ((start quiet).after calls).remaining now = none ↔
      ((start quiet).after calls).isPending = false) ∧
    (∀ stretch, (∀ now, .touch now ∉ stretch) →
      (((start quiet).after calls).record stretch).countP (fun entry => Fired entry) ≤ 1) ∧
    ∀ now last left, lastTouch? calls = some last → last ≤ now →
      ((start quiet).after calls).remaining now = some left →
        (∀ later, now + left ≤ later → (((start quiet).after calls).poll later).1 = true) ∧
        (0 < left → ∀ early, early < now + left →
          (((start quiet).after calls).poll early).1 = false) ∧
        (left = 0 ↔ (((start quiet).after calls).poll now).1 = true) := by
  have always : ((start quiet).after calls).quiet = quiet := quiet_after (start quiet) calls
  refine ⟨isPending_after, fun now => ?_, rfl, fun now => ?_, fun stretch still => ?_, ?_⟩
  · rw [poll_iff, isPending_iff, always]
    constructor
    · rintro ⟨last, touched, late⟩
      exact ⟨⟨last, touched⟩, last, lastTouch?_of_touched touched, by omega⟩
    · rintro ⟨⟨last, touched⟩, time, known, late⟩
      rw [lastTouch?_of_touched touched] at known
      cases known
      exact ⟨last, touched, by omega⟩
  · simp [remaining, isPending]
  · exact Nat.le_trans (count_fired_le still) (Bool.toNat_le _)
  · intro now last left known since waits
    obtain ⟨time, touched, _⟩ := Option.map_eq_some_iff.mp waits
    rw [lastTouch?_of_touched touched] at known
    cases known
    exact poll_of_remaining waits touched since

/-- Two touches, of which the second is told an earlier time. -/
def twoTouches : List Call := [.touch 400, .poll 500, .touch 100]

theorem twoTouches_answered :
    lastTouch? twoTouches = some 100 ∧ ((start 200).after twoTouches).remaining 250 = some 50 ∧
      (((start 200).after twoTouches).poll 300).1 = true ∧
      (((start 200).after twoTouches).poll 299).1 = false ∧
      (((start 200).after twoTouches).record [.poll 299, .poll 300, .take, .poll 900]).countP
        (fun entry => Fired entry) ≤ 1 := by
  obtain ⟨_, _, _, _, once, exactly⟩ := history_answers 200 twoTouches
  obtain ⟨late, early, _⟩ := exactly 250 100 50 rfl (by decide) rfl
  exact ⟨rfl, rfl, late 300 (by decide), early (by decide) 299 (by decide), once _ (by simp)⟩

end Flowchart.Debouncer

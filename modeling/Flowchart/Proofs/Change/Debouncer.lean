import Flowchart.Change.Debouncer

/-! When a debouncer answers. -/
namespace Flowchart.Debouncer

theorem isPending_iff {d : Debouncer} : d.isPending = true ↔ ∃ last, d.touched = some last :=
  Option.isSome_iff_exists

theorem poll_iff {d : Debouncer} {now : Nat} :
    (d.poll now).1 = true ↔ ∃ last, d.touched = some last ∧ d.quiet ≤ now - last := by
  unfold poll
  cases d.touched with
  | none => simp
  | some last => by_cases late : d.quiet ≤ now - last <;> simp [late]

/-- A poll that answers forgets the change, and any other poll changes nothing. -/
theorem poll_snd (d : Debouncer) (now : Nat) :
    (d.poll now).2 = if (d.poll now).1 then { d with touched := none } else d := by
  unfold poll
  cases d.touched with
  | none => rfl
  | some last => by_cases late : d.quiet ≤ now - last <;> simp [late]

theorem isPending_of_poll {d : Debouncer} {now : Nat} (rested : (d.poll now).1 = true) :
    d.isPending = true := by
  obtain ⟨last, touched, _⟩ := poll_iff.mp rested
  exact isPending_iff.mpr ⟨last, touched⟩

/-- With no time to wait, a pending change is answered for at once. -/
theorem poll_of_quiet_zero {d : Debouncer} (now : Nat) (always : d.quiet = 0) :
    (d.poll now).1 = d.isPending := by
  rw [Bool.eq_iff_iff, poll_iff, isPending_iff, always]
  simp

end Flowchart.Debouncer

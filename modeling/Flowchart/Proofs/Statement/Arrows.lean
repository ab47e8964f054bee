import Flowchart.Proofs.Statement.Table

/-! Where the edges of a tree lie. All of them end at nodes of the tree, and start at such nodes or
at the node that flows in. -/
namespace Flowchart

/-- The numbers that a tree of `size` nodes may hand on: its own, and the one it was given. -/
def Within (n size : Nat) (incoming : Option Nat) (m : Nat) : Prop :=
  incoming = some m ∨ (n ≤ m ∧ m < n + size)

/-- An edge of a tree of `size` nodes. Only a plain edge comes from the node that flows in. -/
def Edge.Lies (n size : Nat) (incoming : Option Nat) (e : Edge) : Prop :=
  (n ≤ e.target ∧ e.target < n + size) ∧
    ((incoming = some e.source ∧ e.branch = none) ∨ (n ≤ e.source ∧ e.source < n + size))

/-- The edges of a part lie in the whole, if the whole knows the node that flows into the part. -/
theorem Edge.Lies.widen {n size n' size' : Nat} {incoming incoming' : Option Nat} {e : Edge}
    (lies : e.Lies n' size' incoming') (lower : n ≤ n') (upper : n' + size' ≤ n + size)
    (known : ∀ m, incoming' = some m → Within n size incoming m) : e.Lies n size incoming := by
  refine ⟨⟨Nat.le_trans lower lies.1.1, Nat.lt_of_lt_of_le lies.1.2 upper⟩, ?_⟩
  rcases lies.2 with ⟨given, plain⟩ | ⟨above, below⟩
  · rcases known _ given with same | own
    · exact .inl ⟨same, plain⟩
    · exact .inr own
  · exact .inr ⟨Nat.le_trans lower above, Nat.lt_of_lt_of_le below upper⟩

theorem Edge.Lies.ofPart {n size n' size' : Nat} {incoming : Option Nat} {e : Edge}
    (lies : e.Lies n' size' (some n)) (behind : n < n') (upper : n' + size' ≤ n + size) :
    e.Lies n size incoming := by
  refine lies.widen (Nat.le_of_lt behind) upper ?_
  rintro m ⟨⟩
  have := lies.1
  exact .inr (by omega)

theorem Edge.mem_into {incoming : Option Nat} {n : Nat} {e : Edge} :
    e ∈ Edge.into incoming n ↔ ∃ m, incoming = some m ∧ e = ⟨m, n, none⟩ := by
  cases incoming <;> simp [Edge.into]

theorem Edge.mem_toBranch {last : Option Nat} {n : Nat} {branch : Branch} {e : Edge} :
    e ∈ Edge.toBranch n branch last ↔ ∃ m, last = some m ∧ e = ⟨n, m, some branch⟩ := by
  cases last <;> simp [Edge.toBranch]

theorem Edge.lies_of_mem_into {incoming : Option Nat} {n size : Nat} {e : Edge}
    (positive : 0 < size) (member : e ∈ Edge.into incoming n) : e.Lies n size incoming := by
  obtain ⟨m, given, rfl⟩ := Edge.mem_into.mp member
  exact ⟨⟨Nat.le_refl n, by simpa using positive⟩, .inl ⟨given, rfl⟩⟩

theorem Edge.lies_of_mem_toBranch {out incoming : Option Nat} {n size : Nat} {branch : Branch}
    {e : Edge} (member : e ∈ Edge.toBranch n branch out)
    (known : ∀ m, out = some m → n ≤ m ∧ m < n + size) : e.Lies n size incoming := by
  obtain ⟨m, given, rfl⟩ := Edge.mem_toBranch.mp member
  have own := known m given
  exact ⟨own, .inr (by simp only; omega)⟩

namespace Statement

mutual

theorem last_within (n : Nat) (incoming : Option Nat) :
    ∀ (s : Statement) (m : Nat), last n incoming s = some m → Within n s.size incoming m
  | program _ body, m, out => by
    rcases lastAll_within n none body m out with none | own
    · cases none
    · exact .inr own
  | block _ body, m, out => lastAll_within n incoming body m out
  | function .., m, out | declaration .., m, out | loop .., m, out | expression _, m, out
  | exit .., m, out | conditional _ _ _ none, m, out | conditional _ _ _ (some _), m, out => by
    cases Option.some.inj out
    exact .inr ⟨Nat.le_refl n, by simp [size]⟩
  | unsupported .., m, out => by cases out

theorem lastAll_within (n : Nat) (incoming : Option Nat) :
    ∀ (ss : List Statement) (m : Nat), lastAll n incoming ss = some m →
      Within n (sizeAll ss) incoming m
  | [], m, out => .inl out
  | s :: rest, m, out => by
    rw [sizeAll_cons]
    rcases lastAll_within (n + s.size) (last n incoming s) rest m out with handed | own
    · rcases last_within n incoming s m handed with given | own
      · exact .inl given
      · exact .inr (by omega)
    · exact .inr (by omega)

end

theorem last_before {n : Nat} {incoming : Option Nat} {s : Statement}
    (before : ∀ m, incoming = some m → m < n) (m : Nat) (out : last n incoming s = some m) :
    m < n + s.size := by
  rcases last_within n incoming s m out with given | own
  · have := before m given
    omega
  · exact own.2

theorem last_part {n n' : Nat} {s : Statement} {m : Nat} (behind : n < n')
    (out : last n' (some n) s = some m) : n ≤ m ∧ m < n' + s.size := by
  rcases last_within n' (some n) s m out with given | own
  · cases given
    omega
  · omega

mutual

theorem arrows_lie (n : Nat) (incoming : Option Nat) :
    ∀ (s : Statement) (e : Edge), e ∈ arrows n incoming s → e.Lies n s.size incoming
  | program _ body, e, member =>
    (arrowsAll_lie n none body e member).widen (Nat.le_refl n) (Nat.le_refl _) nofun
  | block _ body, e, member => arrowsAll_lie n incoming body e member
  | function _ _ body, e, member => by
    rcases List.mem_append.mp member with entry | inner
    · exact Edge.lies_of_mem_into (Nat.succ_pos _) entry
    · exact (arrows_lie (n + 1) (some n) body e inner).ofPart (by omega)
        (by rw [size_function]; omega)
  | conditional _ _ consequent none, e, member => by
    rw [size_conditional_none]
    rcases List.mem_append.mp member with before | branch
    · rcases List.mem_append.mp before with entry | inner
      · exact Edge.lies_of_mem_into (Nat.succ_pos _) entry
      · exact (arrows_lie (n + 1) (some n) consequent e inner).ofPart (by omega) (by omega)
    · apply Edge.lies_of_mem_toBranch branch
      intro m out
      have := last_part (Nat.lt_succ_self n) out
      omega
  | conditional _ _ consequent (some alternate), e, member => by
    rw [size_conditional_some]
    simp only [arrows, List.mem_append] at member
    obtain (((entry | inner) | branch) | inner) | branch := member
    · exact Edge.lies_of_mem_into (Nat.succ_pos _) entry
    · exact (arrows_lie (n + 1) (some n) consequent e inner).ofPart (by omega) (by omega)
    · apply Edge.lies_of_mem_toBranch branch
      intro m out
      have := last_part (Nat.lt_succ_self n) out
      omega
    · exact (arrows_lie (n + 1 + consequent.size) (some n) alternate e inner).ofPart
        (by omega) (by omega)
    · apply Edge.lies_of_mem_toBranch branch
      intro m out
      have := last_part (by omega : n < n + 1 + consequent.size) out
      omega
  | loop _ _ body, e, member => by
    rw [size_loop]
    simp only [arrows, List.mem_append] at member
    obtain (entry | inner) | back := member
    · exact Edge.lies_of_mem_into (Nat.succ_pos _) entry
    · exact (arrows_lie (n + 1) (some n) body e inner).ofPart (by omega) (by omega)
    · obtain ⟨m, out, rfl⟩ := Edge.mem_into.mp back
      have := last_part (Nat.lt_succ_self n) out
      exact ⟨⟨Nat.le_refl n, by simp⟩, .inr (by simp only; omega)⟩
  | declaration .., e, member | expression _, e, member | exit .., e, member =>
    Edge.lies_of_mem_into (Nat.succ_pos _) member

theorem arrowsAll_lie (n : Nat) (incoming : Option Nat) :
    ∀ (ss : List Statement) (e : Edge), e ∈ arrowsAll n incoming ss →
      e.Lies n (sizeAll ss) incoming
  | s :: rest, e, member => by
    rw [sizeAll_cons]
    rcases List.mem_append.mp member with first | later
    · exact (arrows_lie n incoming s e first).widen (Nat.le_refl n) (by omega) fun m given => .inl given
    · apply (arrowsAll_lie (n + s.size) (last n incoming s) rest e later).widen
      · omega
      · omega
      · intro m handed
        rcases last_within n incoming s m handed with given | own
        · exact .inl given
        · exact .inr (by omega)

end

end Statement

end Flowchart

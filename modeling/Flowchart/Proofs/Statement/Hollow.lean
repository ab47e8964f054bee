import Flowchart.Proofs.Statement.Spanning

/-! Branches without a node. A branch may hand back the condition itself: then it consists of braces
alone, and the edge that tells its answer leads from the condition to the condition. -/
namespace Flowchart

theorem Shows.mem {kind : Nat → Option NodeKind} {n m : Nat} {kinds : List NodeKind}
    (shown : Shows kind n kinds) (lower : n ≤ m) (upper : m < n + kinds.length) :
    ∃ k ∈ kinds, kind m = some k := by
  induction kinds generalizing n with
  | nil =>
    rw [List.length_nil] at upper
    omega
  | cons k rest ih =>
    rw [List.length_cons] at upper
    rcases Nat.eq_or_lt_of_le lower with rfl | above
    · exact ⟨k, List.mem_cons_self, shown.1⟩
    · obtain ⟨k', member, known⟩ := ih shown.2 above (by omega)
      exact ⟨k', List.mem_cons_of_mem k member, known⟩

theorem Edge.not_mem_into {incoming : Option Nat} {n : Nat} {e : Edge} (tagged : e.branch.isSome) :
    e ∉ Edge.into incoming n := by
  intro member
  obtain ⟨m, _, rfl⟩ := Edge.mem_into.mp member
  cases tagged

namespace Statement

mutual

/-- Braces with nothing between them but such braces. -/
def isHollow : Statement → Bool
  | block _ body => allHollow body
  | program .. | function .. | declaration .. | conditional .. | loop .. | expression _ | exit ..
  | unsupported .. => false

def allHollow : List Statement → Bool
  | [] => true
  | s :: rest => isHollow s && allHollow rest

end

mutual

/-- A statement that hands on the node that it was given is hollow. -/
theorem last_owned (n : Nat) (incoming : Option Nat) :
    ∀ (s : Statement) (m : Nat), last n incoming s = some m →
      (s.isHollow ∧ incoming = some m) ∨ (n ≤ m ∧ m < n + s.size)
  | block _ body, m, out => lastAll_owned n incoming body m out
  | program _ body, m, out => by
    rcases lastAll_owned n none body m out with ⟨_, given⟩ | own
    · cases given
    · exact .inr own
  | function .., m, out | declaration .., m, out | loop .., m, out | expression _, m, out
  | exit .., m, out | conditional _ _ _ none, m, out | conditional _ _ _ (some _), m, out => by
    cases Option.some.inj out
    exact .inr ⟨Nat.le_refl n, by simp [size]⟩
  | unsupported .., m, out => by cases out

theorem lastAll_owned (n : Nat) (incoming : Option Nat) :
    ∀ (ss : List Statement) (m : Nat), lastAll n incoming ss = some m →
      (allHollow ss ∧ incoming = some m) ∨ (n ≤ m ∧ m < n + sizeAll ss)
  | [], m, out => .inl ⟨rfl, out⟩
  | s :: rest, m, out => by
    rw [sizeAll_cons]
    rcases lastAll_owned (n + s.size) (last n incoming s) rest m out with ⟨empty, handed⟩ | own
    · rcases last_owned n incoming s m handed with ⟨hollow, given⟩ | own
      · refine .inl ⟨?_, given⟩
        rw [allHollow, hollow, empty]
        rfl
      · exact .inr (by omega)
    · exact .inr (by omega)

end

mutual

theorem last_of_hollow (n : Nat) (incoming : Option Nat) :
    ∀ s : Statement, s.isHollow → last n incoming s = incoming
  | block _ body, hollow => lastAll_of_hollow n incoming body hollow

theorem lastAll_of_hollow (n : Nat) (incoming : Option Nat) :
    ∀ ss : List Statement, allHollow ss → lastAll n incoming ss = incoming
  | [], _ => rfl
  | s :: rest, hollow => by
    rw [allHollow, Bool.and_eq_true] at hollow
    rw [lastAll, last_of_hollow n incoming s hollow.1]
    exact lastAll_of_hollow _ incoming rest hollow.2

end

/-- The edge for an answer ends in the branch for it, unless that branch is hollow. -/
theorem toBranch_target {n n' : Nat} {answer : Branch} {b : Statement} {e : Edge}
    (member : e ∈ Edge.toBranch n answer (last n' (some n) b)) :
    if b.isHollow then e.target = n else n' ≤ e.target ∧ e.target < n' + b.size := by
  obtain ⟨m, out, rfl⟩ := Edge.mem_toBranch.mp member
  split
  · rename_i hollow
    rw [last_of_hollow n' (some n) b hollow] at out
    exact (Option.some.inj out).symm
  · rename_i filled
    rcases last_owned n' (some n) b m out with ⟨hollow, _⟩ | own
    · exact absurd hollow filled
    · exact own

/-- The branches of a condition. -/
def branches : Statement → List Statement
  | conditional _ _ consequent alternate => consequent :: alternate.toList
  | program .. | function .. | block .. | declaration .. | loop .. | expression _ | exit ..
  | unsupported .. => []

/-- No branch in the tree is hollow. -/
def Solid (s : Statement) : Prop := ∀ t ∈ s.preorder, ∀ b ∈ t.branches, b.isHollow = false

theorem toBranch_onward {n n' : Nat} {answer : Branch} {b : Statement} {e : Edge} (behind : n < n')
    (member : e ∈ Edge.toBranch n answer (last n' (some n) b)) (filled : b.isHollow = false) :
    e.source < e.target := by
  have target := toBranch_target member
  rw [filled, if_neg Bool.false_ne_true] at target
  obtain ⟨m, _, rfl⟩ := Edge.mem_toBranch.mp member
  exact Nat.lt_of_lt_of_le behind target.1

mutual

/-- A tagged edge leads on if no branch is hollow. -/
theorem arrows_answer (n : Nat) (incoming : Option Nat) :
    ∀ s : Statement, s.Solid → ∀ e ∈ arrows n incoming s, e.branch.isSome → e.source < e.target
  | program _ body, solid, e, member, tagged =>
    arrowsAll_answer n none body (List.forall_mem_cons.mp solid).2 e member tagged
  | block _ body, solid, e, member, tagged =>
    arrowsAll_answer n incoming body (List.forall_mem_cons.mp solid).2 e member tagged
  | declaration .., _, e, member, tagged | expression _, _, e, member, tagged
  | exit .., _, e, member, tagged => absurd member (Edge.not_mem_into tagged)
  | function _ _ body, solid, e, member, tagged => by
    rcases List.mem_append.mp member with entry | inner
    · exact absurd entry (Edge.not_mem_into tagged)
    · exact arrows_answer (n + 1) (some n) body (List.forall_mem_cons.mp solid).2 e inner tagged
  | conditional _ _ consequent none, solid, e, member, tagged => by
    obtain ⟨here, below⟩ := List.forall_mem_cons.mp solid
    simp only [arrows, List.mem_append] at member
    obtain (entry | inner) | branch := member
    · exact absurd entry (Edge.not_mem_into tagged)
    · exact arrows_answer (n + 1) (some n) consequent below e inner tagged
    · exact toBranch_onward (Nat.lt_succ_self n) branch (here _ List.mem_cons_self)
  | conditional _ _ consequent (some alternate), solid, e, member, tagged => by
    obtain ⟨here, below⟩ := List.forall_mem_cons.mp solid
    obtain ⟨first, second⟩ := List.forall_mem_append.mp below
    simp only [arrows, List.mem_append] at member
    obtain (((entry | inner) | branch) | inner) | branch := member
    · exact absurd entry (Edge.not_mem_into tagged)
    · exact arrows_answer (n + 1) (some n) consequent first e inner tagged
    · exact toBranch_onward (Nat.lt_succ_self n) branch (here _ List.mem_cons_self)
    · exact arrows_answer (n + 1 + consequent.size) (some n) alternate second e inner tagged
    · refine toBranch_onward (by omega) branch (here _ ?_)
      exact List.mem_cons_of_mem _ List.mem_cons_self
  | loop _ _ body, solid, e, member, tagged => by
    simp only [arrows, List.mem_append] at member
    obtain (entry | inner) | back := member
    · exact absurd entry (Edge.not_mem_into tagged)
    · exact arrows_answer (n + 1) (some n) body (List.forall_mem_cons.mp solid).2 e inner tagged
    · exact absurd back (Edge.not_mem_into tagged)

theorem arrowsAll_answer (n : Nat) (incoming : Option Nat) :
    ∀ ss : List Statement, (∀ t ∈ preorderAll ss, ∀ b ∈ t.branches, b.isHollow = false) →
      ∀ e ∈ arrowsAll n incoming ss, e.branch.isSome → e.source < e.target
  | s :: rest, solid, e, member, tagged => by
    obtain ⟨first, others⟩ := List.forall_mem_append.mp solid
    rcases List.mem_append.mp member with here | later
    · exact arrows_answer n incoming s first e here tagged
    · exact arrowsAll_answer (n + s.size) (last n incoming s) rest others e later tagged

end

variable {kind : Nat → Option NodeKind} {n : Nat} {incoming : Option Nat} {s : Statement}

theorem Solid.leaves (solid : s.Solid) (before : ∀ m, incoming = some m → m < n)
    (shown : Shows kind n s.kinds) {e : Edge} (member : e ∈ s.arrows n incoming)
    (condition : kind e.source = some .condition) : e.target ≠ e.source := by
  intro same
  cases tag : e.branch with
  | some answer =>
    have onward := arrows_answer n incoming s solid e member (by rw [tag]; rfl)
    omega
  | none =>
    have fits := arrows_fit n incoming before s shown e member
    rw [Edge.Fits, tag] at fits
    rcases fits with onward | loop
    · omega
    · rw [same, condition] at loop
      cases loop

/-- Without a loop and without a hollow branch all edges lead on. -/
theorem Solid.onward (solid : s.Solid) (straight : .loop ∉ s.kinds)
    (before : ∀ m, incoming = some m → m < n) (shown : Shows kind n s.kinds) {e : Edge}
    (member : e ∈ s.arrows n incoming) : e.source < e.target := by
  cases tag : e.branch with
  | some answer => exact arrows_answer n incoming s solid e member (by rw [tag]; rfl)
  | none =>
    have fits := arrows_fit n incoming before s shown e member
    rw [Edge.Fits, tag] at fits
    rcases fits with onward | loop
    · exact onward
    · obtain ⟨lower, upper⟩ := (arrows_lie n incoming s e member).1
      obtain ⟨k, inside, known⟩ := shown.mem lower upper
      rw [known] at loop
      cases loop
      exact absurd inside straight

end Statement

end Flowchart

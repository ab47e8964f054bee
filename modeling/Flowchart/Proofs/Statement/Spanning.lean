import Flowchart.Proofs.Statement.Slots

/-! Which edges a tree has for sure: in a tree without gaps every node but the first is entered. Where
the other edges start and end depends on the kinds of the nodes. -/
namespace Flowchart

/-- The nodes from `n` on have the given kinds. -/
def Shows (kind : Nat → Option NodeKind) (n : Nat) : List NodeKind → Prop
  | [] => True
  | k :: rest => kind n = some k ∧ Shows kind (n + 1) rest

theorem shows_append {kind : Nat → Option NodeKind} {n : Nat} {before after : List NodeKind} :
    Shows kind n (before ++ after) ↔ Shows kind n before ∧ Shows kind (n + before.length) after := by
  induction before generalizing n with
  | nil => simp [Shows]
  | cons k rest ih =>
    rw [List.cons_append, Shows, Shows, ih, List.length_cons, and_assoc, Nat.add_right_comm,
      Nat.add_assoc]

theorem shows_list (before kinds : List NodeKind) :
    Shows (fun n => (before ++ kinds)[n]?) before.length kinds := by
  induction kinds generalizing before with
  | nil => trivial
  | cons k rest ih =>
    have later := ih (before ++ [k])
    rw [List.append_assoc, List.length_append] at later
    exact ⟨by simp, later⟩

/-- A plain edge leads on, or back to a loop. A tagged edge leaves a condition and does not lead
back. -/
def Edge.Fits (kind : Nat → Option NodeKind) (e : Edge) : Prop :=
  match e.branch with
  | none => e.source < e.target ∨ kind e.target = some .loop
  | some _ => kind e.source = some .condition ∧ e.source ≤ e.target

namespace Edge

variable {kind : Nat → Option NodeKind} {n : Nat} {out : Option Nat} {e : Edge}

theorem fits_into (before : ∀ m, out = some m → m < n) (member : e ∈ into out n) :
    e.Fits kind := by
  obtain ⟨m, given, rfl⟩ := mem_into.mp member
  exact .inl (before m given)

theorem fits_back (loop : kind n = some .loop) (member : e ∈ into out n) : e.Fits kind := by
  obtain ⟨m, given, rfl⟩ := mem_into.mp member
  exact .inr loop

theorem fits_toBranch {answer : Branch} (condition : kind n = some .condition)
    (after : ∀ m, out = some m → n ≤ m) (member : e ∈ toBranch n answer out) : e.Fits kind := by
  obtain ⟨m, given, rfl⟩ := mem_toBranch.mp member
  exact ⟨condition, after m given⟩

end Edge

namespace Statement

mutual

theorem arrows_fit {kind : Nat → Option NodeKind} (n : Nat) (incoming : Option Nat)
    (before : ∀ m, incoming = some m → m < n) :
    ∀ s : Statement, Shows kind n s.kinds → ∀ e ∈ arrows n incoming s, e.Fits kind
  | program _ body, shown, e, member => arrowsAll_fit n none nofun body shown e member
  | block _ body, shown, e, member => arrowsAll_fit n incoming before body shown e member
  | declaration .., _, e, member | expression _, _, e, member | exit .., _, e, member =>
    Edge.fits_into before member
  | function _ _ body, shown, e, member => by
    rcases List.mem_append.mp member with entry | inner
    · exact Edge.fits_into before entry
    · exact arrows_fit (n + 1) (some n) (by simp) body shown.2 e inner
  | conditional _ _ consequent none, shown, e, member => by
    simp only [arrows, List.mem_append] at member
    obtain (entry | inner) | branch := member
    · exact Edge.fits_into before entry
    · exact arrows_fit (n + 1) (some n) (by simp) consequent shown.2 e inner
    · exact Edge.fits_toBranch shown.1 (fun m out => (last_part (Nat.lt_succ_self n) out).1) branch
  | conditional _ _ consequent (some alternate), shown, e, member => by
    rw [kinds_conditional_some] at shown
    obtain ⟨condition, parts⟩ := shown
    obtain ⟨first, second⟩ := shows_append.mp parts
    simp only [arrows, List.mem_append] at member
    obtain (((entry | inner) | branch) | inner) | branch := member
    · exact Edge.fits_into before entry
    · exact arrows_fit (n + 1) (some n) (by simp) consequent first e inner
    · exact Edge.fits_toBranch condition (fun m out => (last_part (Nat.lt_succ_self n) out).1) branch
    · exact arrows_fit (n + 1 + consequent.size) (some n) (by simp; omega) alternate second e inner
    · exact Edge.fits_toBranch condition (fun m out => (last_part (by omega) out).1) branch
  | loop _ _ body, shown, e, member => by
    simp only [arrows, List.mem_append] at member
    obtain (entry | inner) | back := member
    · exact Edge.fits_into before entry
    · exact arrows_fit (n + 1) (some n) (by simp) body shown.2 e inner
    · exact Edge.fits_back shown.1 back

theorem arrowsAll_fit {kind : Nat → Option NodeKind} (n : Nat) (incoming : Option Nat)
    (before : ∀ m, incoming = some m → m < n) :
    ∀ ss : List Statement, Shows kind n (kindsAll ss) →
      ∀ e ∈ arrowsAll n incoming ss, e.Fits kind
  | s :: rest, shown, e, member => by
    rw [kindsAll_cons] at shown
    obtain ⟨here, behind⟩ := shows_append.mp shown
    rcases List.mem_append.mp member with first | later
    · exact arrows_fit n incoming before s here e first
    · exact arrowsAll_fit (n + s.size) (last n incoming s) (last_before before) rest behind e later

end

def IsProgram : Statement → Prop
  | program .. => True
  | _ => False

def IsUnsupported : Statement → Prop
  | unsupported .. => True
  | _ => False

/-- A tree in which everything may be chained: its parts are no programs, and all of it is
supported. -/
def Gapless (s : Statement) : Prop :=
  (∀ t ∈ s.preorder, ¬ t.IsUnsupported) ∧ ∀ t ∈ s.preorder.tail, ¬ t.IsProgram

/-- Statements among which nothing cuts the chain. -/
def Unbroken (reached : List Statement) : Prop := ∀ s ∈ reached, ¬ s.IsUnsupported ∧ ¬ s.IsProgram

theorem unbroken_append {before after : List Statement} :
    Unbroken (before ++ after) ↔ Unbroken before ∧ Unbroken after := List.forall_mem_append

theorem unbroken_cons {s : Statement} {rest : List Statement} :
    Unbroken (s :: rest) ↔ (¬ s.IsUnsupported ∧ ¬ s.IsProgram) ∧ Unbroken rest := List.forall_mem_cons

mutual

/-- A tree without gaps hands a node on if it has one or is given one. -/
theorem last_isSome (n : Nat) (incoming : Option Nat) :
    ∀ s : Statement, Unbroken s.preorder → incoming.isSome ∨ 0 < s.size →
      (last n incoming s).isSome
  | block _ body, whole, flows => lastAll_isSome n incoming body (unbroken_cons.mp whole).2 flows
  | function .., _, _ | declaration .., _, _ | conditional .., _, _ | loop .., _, _
  | expression _, _, _ | exit .., _, _ => rfl
  | program .., whole, _ => absurd trivial (unbroken_cons.mp whole).1.2
  | unsupported .., whole, _ => absurd trivial (unbroken_cons.mp whole).1.1

theorem lastAll_isSome (n : Nat) (incoming : Option Nat) :
    ∀ ss : List Statement, Unbroken (preorderAll ss) → incoming.isSome ∨ 0 < sizeAll ss →
      (lastAll n incoming ss).isSome
  | [], _, flows => flows.resolve_right (Nat.lt_irrefl 0)
  | s :: rest, whole, flows => by
    obtain ⟨first, later⟩ := unbroken_append.mp whole
    apply lastAll_isSome (n + s.size) (last n incoming s) rest later
    rw [sizeAll_cons] at flows
    rcases flows with given | grown
    · exact .inl (last_isSome n incoming s first (.inl given))
    · rcases Nat.eq_zero_or_pos s.size with empty | grows
      · exact .inr (by omega)
      · exact .inl (last_isSome n incoming s first (.inr grows))

end

def Entered (edges : List Edge) (t : Nat) : Prop := ∃ m < t, ⟨m, t, none⟩ ∈ edges

theorem Entered.imp {edges edges' : List Edge} {t : Nat} (entered : Entered edges t)
    (sub : ∀ e ∈ edges, e ∈ edges') : Entered edges' t := by
  obtain ⟨m, before, member⟩ := entered
  exact ⟨m, before, sub _ member⟩

theorem entered_into {n : Nat} {incoming : Option Nat} (before : ∀ m, incoming = some m → m < n)
    (given : incoming.isSome) : Entered (Edge.into incoming n) n := by
  obtain ⟨m, same⟩ := Option.isSome_iff_exists.mp given
  exact ⟨m, before m same, Edge.mem_into.mpr ⟨m, same, rfl⟩⟩

/-- A compound statement has its entry, and the other nodes are those of its parts. -/
theorem entered_behind {n t : Nat} {incoming : Option Nat} {edges : List Edge}
    (before : ∀ m, incoming = some m → m < n) (flows : incoming.isSome ∨ n < t) (lower : n ≤ t)
    (entry : ∀ e ∈ Edge.into incoming n, e ∈ edges) (parts : n < t → Entered edges t) :
    Entered edges t := by
  rcases Nat.eq_or_lt_of_le lower with rfl | behind
  · have given := flows.resolve_right (Nat.lt_irrefl n)
    exact (entered_into before given).imp entry
  · exact parts behind

mutual

/-- In a tree without gaps each node is entered, but for the first where nothing flows in. -/
theorem arrows_enter (n : Nat) (incoming : Option Nat) (before : ∀ m, incoming = some m → m < n) :
    ∀ s : Statement, Unbroken s.preorder → ∀ t, n ≤ t → t < n + s.size →
      incoming.isSome ∨ n < t → Entered (arrows n incoming s) t
  | program .., whole, _, _, _, _ => absurd trivial (unbroken_cons.mp whole).1.2
  | block _ body, whole, t, lower, upper, flows =>
    arrowsAll_enter n incoming before body (unbroken_cons.mp whole).2 t lower upper flows
  | declaration .., _, t, lower, upper, flows | expression _, _, t, lower, upper, flows
  | exit .., _, t, lower, upper, flows => by
    obtain rfl : t = n := Nat.le_antisymm (Nat.le_of_lt_succ upper) lower
    exact entered_into before (flows.resolve_right (Nat.lt_irrefl t))
  | unsupported .., _, t, lower, upper, _ => absurd upper (Nat.not_lt.mpr lower)
  | function _ _ body, whole, t, lower, upper, flows => by
    rw [size_function] at upper
    refine entered_behind before flows lower (fun e member => by simp [arrows, member]) ?_
    intro behind
    have inner := arrows_enter (n + 1) (some n) (by simp) body (unbroken_cons.mp whole).2 t behind
      (by omega) (.inl rfl)
    exact inner.imp fun e member => by simp [arrows, member]
  | conditional _ _ consequent none, whole, t, lower, upper, flows => by
    rw [size_conditional_none] at upper
    refine entered_behind before flows lower (fun e member => by simp [arrows, member]) ?_
    intro behind
    have inner := arrows_enter (n + 1) (some n) (by simp) consequent (unbroken_cons.mp whole).2 t
      behind (by omega) (.inl rfl)
    exact inner.imp fun e member => by simp [arrows, member]
  | conditional _ _ consequent (some alternate), whole, t, lower, upper, flows => by
    rw [size_conditional_some] at upper
    obtain ⟨first, second⟩ := unbroken_append.mp (unbroken_cons.mp whole).2
    refine entered_behind before flows lower (fun e member => by simp [arrows, member]) ?_
    intro behind
    rcases Nat.lt_or_ge t (n + 1 + consequent.size) with inside | beyond
    · have inner := arrows_enter (n + 1) (some n) (by simp) consequent first t behind inside
        (.inl rfl)
      exact inner.imp fun e member => by simp [arrows, member]
    · have inner := arrows_enter (n + 1 + consequent.size) (some n) (by simp; omega) alternate
        second t beyond (by omega) (.inl rfl)
      exact inner.imp fun e member => by simp [arrows, member]
  | loop _ _ body, whole, t, lower, upper, flows => by
    rw [size_loop] at upper
    refine entered_behind before flows lower (fun e member => by simp [arrows, member]) ?_
    intro behind
    have inner := arrows_enter (n + 1) (some n) (by simp) body (unbroken_cons.mp whole).2 t behind
      (by omega) (.inl rfl)
    exact inner.imp fun e member => by simp [arrows, member]

theorem arrowsAll_enter (n : Nat) (incoming : Option Nat)
    (before : ∀ m, incoming = some m → m < n) :
    ∀ ss : List Statement, Unbroken (preorderAll ss) → ∀ t, n ≤ t → t < n + sizeAll ss →
      incoming.isSome ∨ n < t → Entered (arrowsAll n incoming ss) t
  | [], _, t, lower, upper, _ => absurd upper (Nat.not_lt.mpr lower)
  | s :: rest, whole, t, lower, upper, flows => by
    obtain ⟨first, later⟩ := unbroken_append.mp whole
    rw [sizeAll_cons] at upper
    rcases Nat.lt_or_ge t (n + s.size) with inside | beyond
    · have inner := arrows_enter n incoming before s first t lower inside flows
      exact inner.imp fun e member => List.mem_append_left _ member
    · -- The first node of what follows is entered because something flows out of `s`.
      have handed : (last n incoming s).isSome ∨ n + s.size < t := by
        rcases Nat.eq_or_lt_of_le beyond with rfl | behind
        · exact .inl (last_isSome n incoming s first (flows.imp id (by omega)))
        · exact .inr behind
      have inner := arrowsAll_enter (n + s.size) (last n incoming s) (last_before before) rest later
        t beyond (by omega) handed
      exact inner.imp fun e member => List.mem_append_right _ member

end

theorem gapless_iff {s : Statement} : s.Gapless ↔
    ¬ s.IsUnsupported ∧ Unbroken s.preorder.tail := by
  obtain ⟨rest, order⟩ := s.preorder_first
  simp only [Gapless, Unbroken, order, List.forall_mem_cons, List.tail_cons, forall_and, and_assoc]

/-- Where nothing flows in, every node of a tree without gaps is entered but the first. -/
theorem Gapless.enter {n : Nat} {s : Statement} (gapless : s.Gapless) {t : Nat} (lower : n < t)
    (upper : t < n + s.size) : Entered (arrows n none s) t := by
  obtain ⟨supported, whole⟩ := gapless_iff.mp gapless
  by_cases root : s.IsProgram
  · cases s with
    | program _ body =>
      exact arrowsAll_enter n none nofun body whole t (Nat.le_of_lt lower) upper (.inr lower)
    | _ => cases root
  · obtain ⟨rest, order⟩ := s.preorder_first
    rw [order] at whole
    have unbroken : Unbroken s.preorder := by
      rw [order]
      exact unbroken_cons.mpr ⟨⟨supported, root⟩, whole⟩
    exact arrows_enter n none nofun s unbroken t (Nat.le_of_lt lower) upper (.inr lower)

def onwardTargets (n : Nat) (s : Statement) : List Nat :=
  ((arrows n none s).filter fun e => e.IsOnward).map Edge.target

theorem mem_onwardTargets {n t : Nat} {s : Statement} :
    t ∈ onwardTargets n s ↔ Entered (arrows n none s) t := by
  simp only [onwardTargets, List.mem_map, List.mem_filter, decide_eq_true_eq]
  constructor
  · rintro ⟨e, ⟨member, plain, before⟩, rfl⟩
    exact ⟨e.source, before, plain ▸ member⟩
  · rintro ⟨m, before, member⟩
    exact ⟨⟨m, t, none⟩, ⟨member, rfl, before⟩, rfl⟩

theorem onwardTargets_nodup (n : Nat) (s : Statement) : (onwardTargets n s).Nodup := by
  have distinct := (arrows_places n none nofun s).distinct
  have places : (onwardTargets n s).map Slot.front =
      ((arrows n none s).filter fun e => e.IsOnward).map Edge.slot := by
    rw [onwardTargets, List.map_map]
    refine List.map_congr_left fun e member => ?_
    have onward := of_decide_eq_true (List.mem_filter.mp member).2
    exact (Edge.slot_eq_front.mpr ⟨onward, rfl⟩).symm
  have once : ((onwardTargets n s).map Slot.front).Nodup := by
    rw [places]
    exact distinct.sublist (List.filter_sublist.map _)
  exact List.Pairwise.of_map Slot.front (fun t u different same => different (congrArg _ same)) once

/-- A tree without gaps has one plain edge onward for each of its nodes but the first. -/
theorem Gapless.count_onward {n : Nat} {s : Statement} (gapless : s.Gapless) (grown : 0 < s.size) :
    (arrows n none s).countP (fun e => e.IsOnward) + 1 = s.size := by
  -- The targets are the numbers behind `n`, each of them once.
  have same : (onwardTargets n s).Perm (List.range' (n + 1) (s.size - 1)) := by
    rw [List.perm_ext_iff_of_nodup (onwardTargets_nodup n s) List.nodup_range']
    intro t
    rw [mem_onwardTargets, List.mem_range'_1]
    constructor
    · rintro ⟨m, before, member⟩
      obtain ⟨target, ⟨given, _⟩ | own⟩ := arrows_lie n none s _ member
      · cases given
      · simp only at target own
        omega
    · exact fun bounds => gapless.enter (by omega) (by omega)
  have total := same.length_eq
  rw [onwardTargets, List.length_map, ← List.countP_eq_length_filter, List.length_range'] at total
  omega

end Statement

end Flowchart

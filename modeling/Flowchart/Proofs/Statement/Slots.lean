import Flowchart.Proofs.Statement.Arrows

/-! Each edge of a tree takes a place of its own: in front of the node that it enters, behind the
loop that it leads back to, or on a branch of the condition that it leaves. -/
namespace Flowchart

/-- A place for one edge at a node. -/
inductive Slot
  | front (node : Nat)
  | back (node : Nat)
  | branch (node : Nat) (answer : Branch)
deriving DecidableEq

namespace Slot

def node : Slot → Nat
  | front n | back n | branch n _ => n

end Slot

namespace Edge

/-- The place that an edge takes. A plain edge enters a later node or leads back. -/
def slot (e : Edge) : Slot :=
  match e.branch with
  | some answer => .branch e.source answer
  | none => if e.source < e.target then .front e.target else .back e.target

/-- A plain edge to a later node. -/
def IsOnward (e : Edge) : Prop := e.branch = none ∧ e.source < e.target

/-- A plain edge to its own node or an earlier one. -/
def IsReturn (e : Edge) : Prop := e.branch = none ∧ e.target ≤ e.source

instance (e : Edge) : Decidable e.IsOnward := inferInstanceAs (Decidable (_ ∧ _))

instance (e : Edge) : Decidable e.IsReturn := inferInstanceAs (Decidable (_ ∧ _))

theorem slot_eq_front {e : Edge} {n : Nat} : e.slot = .front n ↔ e.IsOnward ∧ e.target = n := by
  unfold slot IsOnward
  split
  · rename_i tagged
    simp [tagged]
  · split <;> simp [*]

theorem slot_eq_back {e : Edge} {n : Nat} : e.slot = .back n ↔ e.IsReturn ∧ e.target = n := by
  unfold slot IsReturn
  split
  · rename_i tagged
    simp [tagged]
  · split
    · rename_i before
      simp [Nat.not_le.mpr before]
    · rename_i after
      simp [*, Nat.not_lt.mp after]

theorem slot_eq_branch {e : Edge} {n : Nat} {answer : Branch} :
    e.slot = .branch n answer ↔ e.branch = some answer ∧ e.source = n := by
  unfold slot
  split
  · rename_i tagged
    simp [tagged, and_comm]
  · split <;> simp [*]

theorem count_slot {es : List Edge} (distinct : (es.map slot).Nodup) (place : Slot) :
    es.countP (fun e => e.slot = place) ≤ 1 := by
  have once := List.nodup_iff_count.mp distinct place
  rw [List.count_eq_countP, List.countP_map] at once
  exact once

theorem slot_into {incoming : Option Nat} {n : Nat} (before : ∀ m, incoming = some m → m < n) :
    (Edge.into incoming n).map slot = incoming.toList.map fun _ => .front n := by
  cases incoming with
  | none => rfl
  | some m => simp [Edge.into, slot, before m rfl]

theorem slot_back {out : Option Nat} {n : Nat} (after : ∀ m, out = some m → n ≤ m) :
    (Edge.into out n).map slot = out.toList.map fun _ => .back n := by
  cases out with
  | none => rfl
  | some m => simp [Edge.into, slot, after m rfl]

theorem slot_toBranch (out : Option Nat) (n : Nat) (answer : Branch) :
    (Edge.toBranch n answer out).map slot = out.toList.map fun _ => .branch n answer := by
  cases out <;> rfl

end Edge

/-- Places at the nodes from `n` on and below `stop`, none of them taken twice. -/
structure Places (n stop : Nat) (slots : List Slot) : Prop where
  distinct : slots.Nodup
  inside : ∀ place ∈ slots, n ≤ place.node ∧ place.node < stop

namespace Places

theorem nil (n stop : Nat) : Places n stop [] := ⟨List.nodup_nil, nofun⟩

theorem append {n middle stop : Nat} {before after : List Slot} (first : Places n middle before)
    (second : Places middle stop after) (lower : n ≤ middle) (upper : middle ≤ stop) :
    Places n stop (before ++ after) := by
  constructor
  · rw [List.nodup_append]
    refine ⟨first.distinct, second.distinct, ?_⟩
    rintro place earlier _ later rfl
    have low := first.inside place earlier
    have high := second.inside place later
    omega
  · intro place member
    rcases List.mem_append.mp member with earlier | later
    · have := first.inside place earlier
      omega
    · have := second.inside place later
      omega

theorem add {n stop : Nat} {slots : List Slot} (places : Places n stop slots) {place : Slot}
    (out : Option Nat) (lower : n ≤ place.node) (upper : place.node < stop)
    (free : place ∉ slots) : Places n stop (slots ++ out.toList.map fun _ => place) := by
  cases out with
  | none => simpa using places
  | some m =>
    constructor
    · simp only [Option.toList_some, List.map_cons, List.map_nil, List.nodup_append]
      refine ⟨places.distinct, by simp, ?_⟩
      rintro other member _ last rfl
      cases List.mem_singleton.mp last
      exact free member
    · intro other member
      rcases List.mem_append.mp member with earlier | last
      · exact places.inside other earlier
      · cases List.mem_singleton.mp last
        exact ⟨lower, upper⟩

theorem not_mem {n stop : Nat} {slots : List Slot} (places : Places n stop slots) (place : Slot)
    (below : place.node < n) : place ∉ slots := by
  intro member
  have := places.inside place member
  omega

/-- A statement's parts stand behind its own node, which may be entered. -/
theorem behind {n stop : Nat} {slots : List Slot} (places : Places (n + 1) stop slots)
    (incoming : Option Nat) (upper : n < stop) :
    Places n stop ((incoming.toList.map fun _ => .front n) ++ slots) := by
  have entry : Places n (n + 1) (incoming.toList.map fun _ => .front n) :=
    (Places.nil n (n + 1)).add incoming (Nat.le_refl n) (Nat.lt_succ_self n) nofun
  exact entry.append places (Nat.le_succ n) upper

end Places

namespace Statement

mutual

/-- No two edges of a tree take the same place. -/
theorem arrows_places (n : Nat) (incoming : Option Nat) (before : ∀ m, incoming = some m → m < n) :
    ∀ s : Statement, Places n (n + s.size) ((arrows n incoming s).map Edge.slot)
  | program _ body => arrowsAll_places n none nofun body
  | block _ body => arrowsAll_places n incoming before body
  | unsupported .. => .nil _ _
  | declaration .. | expression _ | exit .. => by
    rw [arrows, Edge.slot_into before]
    exact (Places.nil _ _).add incoming (Nat.le_refl n) (by simp [size, Slot.node]) nofun
  | function _ _ body => by
    have inner := arrows_places (n + 1) (some n) (by simp) body
    rw [arrows, List.map_append, Edge.slot_into before, size_function,
      Nat.add_comm _ 1, ← Nat.add_assoc]
    exact inner.behind incoming (by omega)
  | conditional _ _ consequent none => by
    have inner := arrows_places (n + 1) (some n) (by simp) consequent
    rw [arrows, List.map_append, List.map_append, Edge.slot_into before, Edge.slot_toBranch,
      size_conditional_none, Nat.add_comm _ 1, ← Nat.add_assoc]
    apply (inner.behind incoming (by omega)).add
    · exact Nat.le_refl n
    · simp only [Slot.node]; omega
    · have := inner.not_mem (.branch n .whenTrue) (Nat.lt_succ_self n)
      simp [this]
  | conditional _ _ consequent (some alternate) => by
    have inner := arrows_places (n + 1) (some n) (by simp) consequent
    have other := arrows_places (n + 1 + consequent.size) (some n) (by simp; omega) alternate
    have total : n + (consequent.size + alternate.size + 1) =
        n + 1 + consequent.size + alternate.size := by omega
    simp only [arrows, List.map_append, Edge.slot_into before, Edge.slot_toBranch,
      size_conditional_some, total]
    apply Places.add
    · apply Places.append _ other (by omega) (by omega)
      apply (inner.behind incoming (by omega)).add
      · exact Nat.le_refl n
      · simp only [Slot.node]; omega
      · have := inner.not_mem (.branch n .whenTrue) (Nat.lt_succ_self n)
        simp [this]
    · exact Nat.le_refl n
    · simp only [Slot.node]; omega
    · have := inner.not_mem (.branch n .whenFalse) (Nat.lt_succ_self n)
      have := other.not_mem (.branch n .whenFalse) (by simp only [Slot.node]; omega)
      simp [*]
  | loop _ _ body => by
    have inner := arrows_places (n + 1) (some n) (by simp) body
    have after : ∀ m, last (n + 1) (some n) body = some m → n ≤ m :=
      fun m out => (last_part (Nat.lt_succ_self n) out).1
    rw [arrows, List.map_append, List.map_append, Edge.slot_into before, Edge.slot_back after,
      size_loop, Nat.add_comm _ 1, ← Nat.add_assoc]
    apply (inner.behind incoming (by omega)).add
    · exact Nat.le_refl n
    · simp only [Slot.node]; omega
    · have := inner.not_mem (.back n) (Nat.lt_succ_self n)
      simp [this]

theorem arrowsAll_places (n : Nat) (incoming : Option Nat)
    (before : ∀ m, incoming = some m → m < n) :
    ∀ ss : List Statement, Places n (n + sizeAll ss) ((arrowsAll n incoming ss).map Edge.slot)
  | [] => .nil _ _
  | s :: rest => by
    have first := arrows_places n incoming before s
    have later := arrowsAll_places (n + s.size) (last n incoming s) (last_before before) rest
    rw [arrowsAll, List.map_append, sizeAll_cons, ← Nat.add_assoc]
    exact first.append later (by omega) (by omega)

end

theorem count_slot_le_one {n : Nat} {incoming : Option Nat}
    (before : ∀ m, incoming = some m → m < n) (s : Statement) (place : Slot) :
    (s.arrows n incoming).countP (fun e => e.slot = place) ≤ 1 :=
  Edge.count_slot (arrows_places n incoming before s).distinct place

end Statement

end Flowchart

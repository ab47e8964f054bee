import Flowchart.Proofs.Statement.Order
import Flowchart.Proofs.Walk.Visits

/-! Numbers of nodes. A visit finds as many new nodes in its graph as charted statements come before its
own, so it places the node with that number. -/
namespace Flowchart.Walk.Visit

variable {source : String} {v w : Visit}

/-- A visit inside another has its statement in that of the other, behind as many charted statements
as nodes were placed between the two. -/
def Behind (v w : Visit) : Prop :=
  ∃ before after, v.statement.preorder = before ++ w.statement.preorder ++ after ∧
    w.graph.nodes.size = v.graph.nodes.size + (before.filterMap Statement.nodeKind?).length

theorem Behind.trans {x : Visit} (first : Behind v w) (second : Behind w x) : Behind v x := by
  obtain ⟨before, after, split, size⟩ := first
  obtain ⟨before', after', split', size'⟩ := second
  refine ⟨before ++ before', after' ++ after, ?_, ?_⟩
  · rw [split, split']
    simp only [List.append_assoc]
  · rw [List.filterMap_append, List.length_append]
    omega

theorem Item.behind {level : Nat} {incoming : Option Nat} {ss : List Statement} {g : Graph}
    (item : Item source level incoming ss g v) :
    ∃ before after, Statement.preorderAll ss = before ++ v.statement.preorder ++ after ∧
      v.graph.nodes.size = g.nodes.size + (before.filterMap Statement.nodeKind?).length := by
  induction item with
  | head => exact ⟨[], _, rfl, rfl⟩
  | @tail _ _ s _ _ _ _ walked _ ih =>
    obtain ⟨before, after, split, size⟩ := ih
    have grown := visit_size walked
    refine ⟨s.preorder ++ before, after, ?_, ?_⟩
    · rw [Statement.preorderAll, split]
      simp only [List.append_assoc]
    · rw [List.filterMap_append, List.length_append]
      rw [Statement.size, Statement.kinds] at grown
      omega

theorem Calls.behind (calls : Calls source v w) : Behind v w := by
  cases calls with
  | @program _ _ span body _ _ item =>
    obtain ⟨before, after, split, size⟩ := item.behind
    refine ⟨.program span body :: before, after, ?_, size⟩
    rw [Statement.preorder, split]
    rfl
  | @block _ _ span body _ _ item =>
    obtain ⟨before, after, split, size⟩ := item.behind
    refine ⟨.block span body :: before, after, ?_, size⟩
    rw [Statement.preorder, split]
    rfl
  | @function _ _ _ span name body _ _ entered =>
    exact ⟨[.function span name body], [], by simp [Statement.preorder], (enter_ok entered).size⟩
  | @consequent _ _ _ span test consequent alternate _ _ entered =>
    refine ⟨[.conditional span test consequent alternate], (alternate.map (·.preorder)).getD [], ?_,
      (enter_ok entered).size⟩
    cases alternate <;> simp [Statement.preorder]
  | @alternate _ _ _ _ span test consequent alternate _ _ _ _ entered walked joined =>
    have began := (enter_ok entered).size
    have grown := visit_size walked
    have same := (joinTo_ok joined).1
    refine ⟨.conditional span test consequent (some alternate) :: consequent.preorder, [], ?_, ?_⟩
    · simp [Statement.preorder]
    · rw [Statement.size, Statement.kinds] at grown
      simp only [same, List.filterMap_cons, Statement.nodeKind?, List.length_cons]
      omega
  | @body _ _ _ span test body _ _ entered =>
    exact ⟨[.loop span test body], [], by simp [Statement.preorder], (enter_ok entered).size⟩

theorem Reaches.behind (reaches : Reaches source v w) : Behind v w := by
  induction reaches with
  | refl => exact ⟨[], [], by simp, rfl⟩
  | tail _ calls ih => exact ih.trans calls.behind

/-- A visit in a walk from an empty graph finds the number of its own statement. -/
theorem Reaches.charted {level : Nat} {incoming : Option Nat} {s : Statement}
    (reaches : Reaches source ⟨level, incoming, s, .empty⟩ w)
    (named : w.statement.nodeKind?.isSome) :
    s.charted[w.graph.nodes.size]? = some w.statement := by
  obtain ⟨before, after, split, size⟩ := reaches.behind
  have number : w.graph.nodes.size = (before.filterMap Statement.nodeKind?).length :=
    size.trans (Nat.zero_add _)
  rw [number]
  exact Statement.charted_at split named

end Flowchart.Walk.Visit

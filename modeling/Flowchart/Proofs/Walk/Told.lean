import Flowchart.Proofs.Walk.Stop
import Flowchart.Synthesis
import Mathlib.Data.List.TakeWhile

/-! What is told of a walk. A walk that ends well has passed over every unsupported statement, and one that
fails over those before the first offence. -/
namespace Flowchart

namespace Walk

variable {source : String} {s : Statement} {g g' : Graph} {last : Option Nat} {fault : WalkFault}
  {place : Nat × Statement} {before after : List (Nat × Statement)}

theorem passes_iff : passes source place ↔ offence? source place = none := by
  rw [offence?_eq_none_iff, Fits, passes, Bool.and_eq_true, decide_eq_true_eq, List.all_eq_true]

theorem passedOver_of_ok (walked : g.walk source s = (.ok last, g')) :
    passedOver source s = s.preorder.filterMap Statement.unsupported? := by
  have past : ∀ place ∈ s.reached 0, passes source place := fun place member =>
    passes_iff.mpr (reached_fine walked place member)
  rw [passedOver, List.takeWhile_eq_self_iff.mpr past, ← s.reached_snd 0, List.filterMap_map]
  rfl

theorem passedOver_of_offence (split : s.reached 0 = before ++ place :: after)
    (fine : ∀ other ∈ before, ∀ fault, ¬ Offends source other fault)
    (wrong : Offends source place fault) :
    passedOver source s = before.filterMap fun other => other.2.unsupported? := by
  have past : ∀ other ∈ before, passes source other := fun other member =>
    passes_iff.mpr (offence?_eq_none (fine other member))
  have stuck : ¬ passes source place := by
    rw [passes_iff, offence?_eq_some_iff.mpr wrong]
    exact nofun
  rw [passedOver, split, List.takeWhile_append_of_pos past, List.takeWhile_cons_of_neg stuck,
    List.append_nil]

end Walk

/-- On the way to a chart all unsupported statements of the tree are told of, and the chart in the end. -/
theorem synthesizeTelling_of_ok {read : Reader} {source : String} {tree : Statement} {last : Option Nat}
    {g : Graph} (parsed : read source = .ok tree)
    (walked : Graph.empty.walk source tree = (.ok last, g)) :
    synthesizeTelling read source =
      ((tree.preorder.filterMap Statement.unsupported?).map (fun statement =>
          Remark.passedOver statement.1 statement.2) ++ [.synthesized g.nodes.size g.edges.size],
        .ok ⟨g, g.mermaid⟩) := by
  rw [synthesizeTelling, parsed]
  dsimp only
  rw [walked, Walk.passedOver_of_ok walked]

end Flowchart

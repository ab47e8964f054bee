import Flowchart.Tree

/-! A place in a tree, from which the nodes around it are reached. -/
namespace Flowchart

namespace Tree

mutual

/-- The number of nodes. -/
def size : Tree → Nat
  | node _ children => sizeAll children + 1

def sizeAll : List Tree → Nat
  | [] => 0
  | t :: rest => size t + sizeAll rest

end

theorem size_pos : ∀ t : Tree, 0 < size t
  | node _ _ => Nat.succ_pos _

end Tree

/-- A node with the siblings behind it, and the nodes above it, the nearest first, each with the
siblings behind it. -/
structure Cursor where
  node : Tree
  behind : List Tree
  above : List (Tree × List Tree)
deriving Inhabited

namespace Cursor

def start (t : Tree) : Cursor := ⟨t, [], []⟩

def firstChild? (c : Cursor) : Option Cursor :=
  match c.node.children with
  | [] => none
  | child :: rest => some ⟨child, rest, (c.node, c.behind) :: c.above⟩

def nextSibling? (c : Cursor) : Option Cursor :=
  match c.behind with
  | [] => none
  | next :: rest => some ⟨next, rest, c.above⟩

def parent? (c : Cursor) : Option Cursor :=
  match c.above with
  | [] => none
  | (parent, behind) :: above => some ⟨parent, behind, above⟩

theorem length_above_parent? {c d : Cursor} (found : c.parent? = some d) :
    d.above.length < c.above.length := by
  obtain ⟨node, behind, above⟩ := c
  cases above with
  | nil => cases found
  | cons parent above =>
    cases found
    exact Nat.lt_succ_self _

/-- The next sibling, or that of the nearest node above which has one. -/
def onward? (c : Cursor) : Option Cursor :=
  match c.nextSibling? with
  | some next => some next
  | none =>
    match _ : c.parent? with
    | some parent => parent.onward?
    | none => none
termination_by c.above.length
decreasing_by exact length_above_parent? ‹_›

/-- The number of nodes behind the cursor's own and all below it. -/
def waiting (c : Cursor) : Nat :=
  Tree.sizeAll c.behind + c.above.foldr (fun (_, behind) count => Tree.sizeAll behind + count) 0

theorem waiting_firstChild? {c d : Cursor} (found : c.firstChild? = some d) :
    d.node.size + d.waiting < c.node.size + c.waiting := by
  obtain ⟨⟨info, children⟩, behind, above⟩ := c
  cases children with
  | nil => cases found
  | cons child rest =>
    cases found
    simp only [waiting, Tree.size, Tree.sizeAll, List.foldr_cons]
    omega

theorem waiting_onward? {c d : Cursor} (found : c.onward? = some d) :
    d.node.size + d.waiting = c.waiting := by
  fun_induction onward? c with
  | case1 c next moved =>
    cases found
    obtain ⟨node, behind, above⟩ := c
    cases behind with
    | nil => cases moved
    | cons sibling rest =>
      cases moved
      simp only [waiting, Tree.sizeAll]
      omega
  | case2 c stuck parent moved ih =>
    rw [ih found]
    obtain ⟨node, behind, above⟩ := c
    cases behind with
    | cons sibling rest => cases stuck
    | nil =>
      cases above with
      | nil => cases moved
      | cons first above =>
        cases moved
        simp only [waiting, Tree.sizeAll, List.foldr_cons]
        omega
  | case3 => cases found

/-- The first node from the cursor on, in document order, that is missing or a fault. What lies below
a node that holds no error is passed over. -/
def firstError? (c : Cursor) : Option Tree :=
  if c.node.info.origin != .read then some c.node
  else
    match _ : if c.node.info.faulty then c.firstChild? else none with
    | some child => child.firstError?
    | none =>
      match _ : c.onward? with
      | some next => next.firstError?
      | none => none
termination_by c.node.size + c.waiting
decreasing_by
  · rename_i inner
    split at inner
    · exact waiting_firstChild? inner
    · cases inner
  · rename_i outer
    have passed := waiting_onward? outer
    have := c.node.size_pos
    omega

end Cursor

end Flowchart

import Flowchart.Proofs.Tree.Levels

/-! The search for errors. It moves from node to node and leaves out what is marked as free of errors;
where the marks are right it finds the first error of the whole tree. -/
namespace Flowchart

namespace Tree

mutual

/-- The nodes of a tree, each before those below it. -/
def preorder : Tree → List Tree
  | node info children => node info children :: preorderIn children

def preorderIn : List Tree → List Tree
  | [] => []
  | t :: rest => preorder t ++ preorderIn rest

end

/-- A node that was not read from the text. -/
def isError (t : Tree) : Bool := t.info.origin != .read

/-- The mark of a node tells whether there is an error in it. -/
def Marked (t : Tree) : Prop := t.info.faulty ↔ ∃ u ∈ t.preorder, u.isError

instance : DecidablePred Marked := fun t =>
  inferInstanceAs (Decidable (t.info.faulty ↔ ∃ u ∈ t.preorder, u.isError))

/-- An error in a node shows in its mark. -/
def Flagged (t : Tree) : Prop := (∃ u ∈ t.preorder, u.isError) → t.info.faulty

instance : DecidablePred Flagged := fun t =>
  inferInstanceAs (Decidable ((∃ u ∈ t.preorder, u.isError) → t.info.faulty))

theorem preorder_eq (t : Tree) : t.preorder = t :: preorderIn t.children := by
  cases t
  rfl

mutual

theorem every_iff {p : Tree → Prop} : ∀ t : Tree, t.Every p ↔ ∀ u ∈ t.preorder, p u
  | node info children => by
    rw [Every, preorder, List.forall_mem_cons, everyIn_iff children]

theorem everyIn_iff {p : Tree → Prop} : ∀ ts : List Tree, EveryIn p ts ↔ ∀ u ∈ preorderIn ts, p u
  | [] => by simp [EveryIn, preorderIn]
  | t :: rest => by
    rw [EveryIn, preorderIn, List.forall_mem_append, every_iff t, everyIn_iff rest]

end

end Tree

namespace Cursor

variable {c d : Cursor}

/-- The nodes behind the cursor's own and all below it, in document order. -/
def pending (c : Cursor) : List Tree :=
  Tree.preorderIn c.behind ++ c.above.flatMap fun (_, behind) => Tree.preorderIn behind

/-- The nodes that are not passed yet. -/
def remaining (c : Cursor) : List Tree := c.node.preorder ++ c.pending

theorem remaining_start (t : Tree) : (start t).remaining = t.preorder := by
  simp [remaining, pending, start, Tree.preorderIn]

theorem remaining_firstChild? (found : c.firstChild? = some d) :
    c.remaining = c.node :: d.remaining := by
  obtain ⟨⟨info, children⟩, behind, above⟩ := c
  cases children with
  | nil => cases found
  | cons child rest =>
    cases found
    simp [remaining, pending, Tree.preorder, Tree.preorderIn]

theorem preorder_of_leaf (found : c.firstChild? = none) : c.node.preorder = [c.node] := by
  obtain ⟨⟨info, children⟩, behind, above⟩ := c
  cases children with
  | nil => rfl
  | cons child rest => cases found

/-- Moving on leaves out what is below the node, and nothing else. -/
theorem pending_eq (c : Cursor) : c.pending = (c.onward?.map remaining).getD [] := by
  fun_induction onward? c with
  | case1 c next moved =>
    obtain ⟨node, behind, above⟩ := c
    cases behind with
    | nil => cases moved
    | cons sibling rest =>
      cases moved
      simp [remaining, pending, Tree.preorderIn]
  | case2 c stuck parent moved ih =>
    obtain ⟨node, behind, above⟩ := c
    cases behind with
    | cons sibling rest => cases stuck
    | nil =>
      cases above with
      | nil => cases moved
      | cons first above =>
        cases moved
        rw [← ih]
        simp [pending, Tree.preorderIn]
  | case3 c stuck last =>
    obtain ⟨node, behind, above⟩ := c
    cases behind with
    | cons sibling rest => cases stuck
    | nil =>
      cases above with
      | nil => rfl
      | cons first above => cases last

theorem read_of_passed (read : ¬ c.node.isError) (flagged : c.node.Flagged)
    (passed : (if c.node.info.faulty then c.firstChild? else none) = none) :
    ∀ u ∈ c.node.preorder, ¬ u.isError := by
  intro u member error
  split at passed
  · rw [preorder_of_leaf passed, List.mem_singleton] at member
    exact read (member ▸ error)
  · rename_i clean
    exact clean (flagged ⟨u, member, error⟩)

theorem firstError?_eq (c : Cursor) (flagged : ∀ u ∈ c.remaining, u.Flagged) :
    c.firstError? = c.remaining.find? Tree.isError := by
  -- A move passes the node itself, or leaves out what is below it because that holds no error.
  fun_induction firstError? c with
  | case1 c error =>
    rw [remaining, Tree.preorder_eq, List.cons_append, List.find?_cons_of_pos (p := Tree.isError) error]
  | case2 c read child inner ih =>
    split at inner
    · rw [remaining_firstChild? inner] at flagged ⊢
      rw [List.find?_cons_of_neg (p := Tree.isError) read]
      exact ih (List.forall_mem_cons.mp flagged).2
    · cases inner
  | case3 c read passed next outer ih =>
    have clean := read_of_passed read (flagged c.node (by simp [remaining, Tree.preorder_eq])) passed
    have later : c.pending = next.remaining := by
      rw [pending_eq, outer]
      rfl
    rw [remaining, later] at flagged ⊢
    rw [List.find?_append, List.find?_eq_none.mpr clean, Option.none_or]
    exact ih (List.forall_mem_append.mp flagged).2
  | case4 c read passed last =>
    have clean := read_of_passed read (flagged c.node (by simp [remaining, Tree.preorder_eq])) passed
    have later : c.pending = [] := by
      rw [pending_eq, last]
      rfl
    rw [remaining, later, List.append_nil, List.find?_eq_none.mpr clean]

end Cursor

namespace Tree

variable {t : Tree}

theorem firstError?_eq_find? (flagged : ∀ u ∈ t.preorder, u.Flagged) :
    t.firstError? = t.preorder.find? isError := by
  have all := Cursor.remaining_start t
  rw [firstError?, Cursor.firstError?_eq _ (all ▸ flagged), all]

/-- The search finds what reading all nodes in order finds. So a script is refused at the first error of
its tree, and a tree without errors is refused only for its depth. -/
theorem read_refuses_first {source : String} {tree? : String → Option Tree}
    (found : tree? source = some t) (marked : ∀ u ∈ t.preorder, u.Marked) :
    t.firstError? = t.preorder.find? isError ∧
    (∀ u ∈ t.preorder, u.isError → ∃ place, t.preorder.find? isError = some place ∧
      read tree? source = .error (.parse
        ⟨"Line " ++ toString (place.info.row + 1) ++ ": " ++ place.errorDetail source,
          some place.info.row, some place.info.column⟩)) ∧
    ((∀ u ∈ t.preorder, ¬ u.isError) → (∀ u ∈ t.preorder, u.Complete) →
      (∃ s, read tree? source = .ok s) ∨
        ∃ line, read tree? source = .error (.tooDeep 256 line)) := by
  have first := firstError?_eq_find? fun u member => (marked u member).mpr
  have root : t ∈ t.preorder := by
    rw [preorder_eq]
    exact List.mem_cons_self
  refine ⟨first, ?_, ?_⟩
  · intro u member error
    have faulty : t.info.faulty := (marked t root).mpr ⟨u, member, error⟩
    have some : (t.preorder.find? isError).isSome := List.find?_isSome.mpr ⟨u, member, error⟩
    obtain ⟨place, here⟩ := Option.isSome_iff_exists.mp some
    refine ⟨place, here, ?_⟩
    simp only [read, found, faulty, if_true, parseFault, first, here, Option.getD_some, faultAt]
  · intro clean complete
    have unmarked : ¬ t.info.faulty := by
      intro faulty
      obtain ⟨u, member, error⟩ := (marked t root).mp faulty
      exact clean u member error
    have lowered : read tree? source = t.lower 0 := by
      rw [read, found]
      exact if_neg unmarked
    have decided := lower_decided 0 t (Nat.zero_le _) (every_iff t |>.mpr complete)
    rw [lowered]
    cases deep : t.tooDeep? 0 with
    | none => exact .inl (decided.ok_iff.mpr deep)
    | some place => exact .inr ⟨_, decided.error_iff.mpr ⟨rfl, place, deep, rfl⟩⟩

/-- The tree of `(a)`, `(b` and `]` on three lines: a sign is missing, and one is too much. -/
def unclosedTree : Tree :=
  let part (kind : String) (faulty : Bool) (span : Span) (row : Nat) : List Tree → Tree :=
    node ⟨kind, true, false, .read, faulty, [], span, row, 0⟩
  part "program" true ⟨0, 8⟩ 0 [
    part "expression_statement" false ⟨0, 3⟩ 0 [part "parenthesized_expression" false ⟨0, 3⟩ 0 []],
    part "expression_statement" true ⟨4, 6⟩ 1 [
      part "parenthesized_expression" true ⟨4, 6⟩ 1 [
        node ⟨")", false, false, .missing, true, [], ⟨6, 6⟩, 1, 2⟩ []]],
    node ⟨"ERROR", true, false, .fault, true, [], ⟨7, 8⟩, 2, 0⟩ []]

theorem unclosedTree_refused :
    (∀ u ∈ unclosedTree.preorder, u.Marked) ∧
      read (fun _ => some unclosedTree) "(a)\n(b\n]" =
        .error (.parse ⟨"Line 2: Missing )", some 1, some 2⟩) := by
  have marked : ∀ u ∈ unclosedTree.preorder, u.Marked := by decide
  obtain ⟨_, refused, _⟩ :=
    @read_refuses_first unclosedTree "(a)\n(b\n]" (fun _ => some unclosedTree) rfl marked
  obtain ⟨place, first, result⟩ :=
    refused (node ⟨"ERROR", true, false, .fault, true, [], ⟨7, 8⟩, 2, 0⟩ [])
      (by simp [unclosedTree, preorder, preorderIn]) rfl
  cases first
  exact ⟨marked, result⟩

end Tree

end Flowchart

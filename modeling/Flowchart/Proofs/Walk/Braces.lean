import Flowchart.Proofs.Walk.Visits

/-! Braces. A block that is opened up in its list, or left out around a single statement, changes nothing in
a chart: the same nodes and edges are added in the same order. -/
namespace Flowchart

namespace Statement

/-- A place for a statement in another. -/
inductive Frame
  | program (span : Span) (before after : List Statement)
  | block (span : Span) (before after : List Statement)
  | function (span name : Span)
  | consequent (span test : Span) (alternate : Option Statement)
  | alternate (span test : Span) (consequent : Statement)
  | loop (span test : Span)

def Frame.fill (frame : Frame) (s : Statement) : Statement :=
  match frame with
  | program span before after => .program span (before ++ s :: after)
  | block span before after => .block span (before ++ s :: after)
  | function span name => .function span name s
  | consequent span test other => .conditional span test s other
  | alternate span test first => .conditional span test first (some s)
  | loop span test => .loop span test s

/-- Trees of which the second has one pair of braces less: those of a block in a list, or those around a
single statement. -/
inductive Unbraced : Statement → Statement → Prop
  | program {span inner : Span} {before body after : List Statement} :
    Unbraced (program span (before ++ block inner body :: after))
      (program span (before ++ (body ++ after)))
  | block {span inner : Span} {before body after : List Statement} :
    Unbraced (block span (before ++ block inner body :: after)) (block span (before ++ (body ++ after)))
  | single {span : Span} {s : Statement} (frame : Frame) :
    Unbraced (frame.fill (block span [s])) (frame.fill s)
  | inside {s t : Statement} (frame : Frame) : Unbraced s t → Unbraced (frame.fill s) (frame.fill t)

end Statement

namespace Walk

/-- Where one part of a walk succeeds, another has the same outcome. -/
def RefinedBy {α : Type} (w w' : Walk α) : Prop :=
  ∀ g a g', w.outcome g = (.ok a, g') → w'.outcome g = (.ok a, g')

namespace RefinedBy

variable {α β : Type} {w w' w'' : Walk α} {f f' : α → Walk β}

theorem refl (w : Walk α) : w.RefinedBy w := fun _ _ _ done => done

theorem trans (first : w.RefinedBy w') (second : w'.RefinedBy w'') : w.RefinedBy w'' := by
  intro g a g' done
  exact second g a g' (first g a g' done)

theorem bind (first : w.RefinedBy w') (rest : ∀ a, (f a).RefinedBy (f' a)) :
    (w >>= f).RefinedBy (w' >>= f') := by
  intro g b g' done
  obtain ⟨a, g₁, here, later⟩ := outcome_bind_ok.mp done
  exact outcome_bind_ok.mpr ⟨a, g₁, first g a g₁ here, rest a g₁ b g' later⟩

theorem andThen (first : w.RefinedBy w') (f : α → Walk β) : (w >>= f).RefinedBy (w' >>= f) :=
  first.bind fun a => .refl (f a)

theorem behind (w : Walk α) (rest : ∀ a, (f a).RefinedBy (f' a)) :
    (w >>= f).RefinedBy (w >>= f') :=
  (refl w).bind rest

end RefinedBy

variable {source : String} {level level' : Nat}

theorem guardLevel_refined (above : level' ≤ level) :
    (guardLevel level).RefinedBy (guardLevel level') := by
  intro g a g' done
  unfold guardLevel at done ⊢
  split at done
  · cases done
  · rename_i fits
    rw [if_neg (by omega)]
    exact done

mutual

/-- What succeeds deep in a tree also succeeds further up. -/
theorem visit_refined : ∀ (s : Statement) {level level' : Nat} (_ : level' ≤ level)
    (incoming : Option Nat),
    (visit source level incoming s).RefinedBy (visit source level' incoming s)
  | .program _ body, _, _, above, _ =>
    (guardLevel_refined above).bind fun _ => visitAll_refined body (Nat.succ_le_succ above) none
  | .block _ body, _, _, above, incoming =>
    (guardLevel_refined above).bind fun _ => visitAll_refined body (Nat.succ_le_succ above) incoming
  | .function _ _ body, _, _, above, _ =>
    (guardLevel_refined above).bind fun _ => .behind _ fun _ => .behind _ fun current =>
      (visit_refined body (Nat.succ_le_succ above) (some current)).andThen _
  | .conditional _ _ consequent none, _, _, above, _ =>
    (guardLevel_refined above).bind fun _ => .behind _ fun _ => .behind _ fun current =>
      (visit_refined consequent (Nat.succ_le_succ above) (some current)).andThen _
  | .conditional _ _ consequent (some alternate), _, _, above, _ =>
    (guardLevel_refined above).bind fun _ => .behind _ fun _ => .behind _ fun current =>
      (visit_refined consequent (Nat.succ_le_succ above) (some current)).bind fun _ =>
        .behind _ fun _ => (visit_refined alternate (Nat.succ_le_succ above) (some current)).andThen _
  | .loop _ _ body, _, _, above, _ =>
    (guardLevel_refined above).bind fun _ => .behind _ fun _ => .behind _ fun current =>
      (visit_refined body (Nat.succ_le_succ above) (some current)).andThen _
  | .declaration _ _, _, _, above, _ | .expression _, _, _, above, _ | .exit _ none, _, _, above, _
  | .exit _ (some _), _, _, above, _ | .unsupported _ _, _, _, above, _ =>
    (guardLevel_refined above).andThen _

theorem visitAll_refined : ∀ (ss : List Statement) {level level' : Nat} (_ : level' ≤ level)
    (incoming : Option Nat),
    (visitAll source level incoming ss).RefinedBy (visitAll source level' incoming ss)
  | [], _, _, _, _ => .refl _
  | s :: rest, _, _, above, incoming =>
    (visit_refined s above incoming).bind fun out => visitAll_refined rest above out

end

theorem visitAll_append (source : String) (level : Nat) (incoming : Option Nat) (ss ts : List Statement) :
    visitAll source level incoming (ss ++ ts) =
      visitAll source level incoming ss >>= fun out => visitAll source level out ts := by
  induction ss generalizing incoming with
  | nil => simp only [List.nil_append, visitAll, pure_bind]
  | cons s rest ih => simp only [List.cons_append, visitAll, ih, bind_assoc]

theorem visit_block_refined (span : Span) (body : List Statement) (incoming : Option Nat) :
    (visit source level incoming (.block span body)).RefinedBy
      (visitAll source level incoming body) := by
  intro g out g' walked
  obtain ⟨_, g₁, guarded, inner⟩ := outcome_bind_ok.mp walked
  cases guardLevel_ok guarded
  -- Without the braces, what is between them is one level further up.
  exact visitAll_refined body (Nat.le_succ level) incoming g out g' inner

theorem splice_refined (span : Span) (before body after : List Statement) (incoming : Option Nat) :
    (visitAll source level incoming (before ++ .block span body :: after)).RefinedBy
      (visitAll source level incoming (before ++ (body ++ after))) := by
  simp only [visitAll_append]
  exact .behind _ fun out => (visit_block_refined span body out).andThen _

theorem single_refined (span : Span) (s : Statement) (incoming : Option Nat) :
    (visit source level incoming (.block span [s])).RefinedBy (visit source level incoming s) := by
  have inner := @visit_block_refined source level span [s] incoming
  simpa only [visitAll, bind_pure] using inner

theorem item_refined {s t : Statement} (before after : List Statement)
    (each : ∀ level incoming, (visit source level incoming s).RefinedBy (visit source level incoming t))
    (level : Nat) (incoming : Option Nat) :
    (visitAll source level incoming (before ++ s :: after)).RefinedBy
      (visitAll source level incoming (before ++ t :: after)) := by
  simp only [visitAll_append]
  exact .behind _ fun out => (each level out).andThen _

/-- Where a statement may be exchanged alone, it may be exchanged anywhere. -/
theorem fill_refined {s t : Statement} (frame : Statement.Frame)
    (each : ∀ level incoming, (visit source level incoming s).RefinedBy (visit source level incoming t))
    (level : Nat) (incoming : Option Nat) :
    (visit source level incoming (frame.fill s)).RefinedBy
      (visit source level incoming (frame.fill t)) := by
  cases frame with
  | program span before after => exact .behind _ fun _ => item_refined before after each _ none
  | block span before after => exact .behind _ fun _ => item_refined before after each _ incoming
  | function span name =>
    exact .behind _ fun _ => .behind _ fun _ => .behind _ fun current => (each _ _).andThen _
  | consequent span test other =>
    cases other with
    | none => exact .behind _ fun _ => .behind _ fun _ => .behind _ fun current => (each _ _).andThen _
    | some other =>
      exact .behind _ fun _ => .behind _ fun _ => .behind _ fun current => (each _ _).andThen _
  | alternate span test first =>
    exact .behind _ fun _ => .behind _ fun _ => .behind _ fun current => .behind _ fun _ =>
      .behind _ fun _ => (each _ _).andThen _
  | loop span test =>
    exact .behind _ fun _ => .behind _ fun _ => .behind _ fun current => (each _ _).andThen _

theorem unbraced_refined {s t : Statement} (unbraced : s.Unbraced t) (level : Nat)
    (incoming : Option Nat) :
    (visit source level incoming s).RefinedBy (visit source level incoming t) := by
  induction unbraced generalizing level incoming with
  | program => exact .behind _ fun _ => splice_refined _ _ _ _ none
  | block => exact .behind _ fun _ => splice_refined _ _ _ _ incoming
  | single frame =>
    exact fill_refined frame (fun level incoming => single_refined _ _ incoming) level incoming
  | inside frame _ ih => exact fill_refined frame ih level incoming

/-- Braces that are left out one after the other, at any depth, do not change what a walk does. -/
theorem unbraced_walks {source : String} {level : Nat} {incoming out : Option Nat} {s t : Statement}
    {g g' : Graph} (unbraced : Relation.ReflTransGen Statement.Unbraced s t)
    (walked : (visit source level incoming s).outcome g = (.ok out, g')) :
    (visit source level incoming t).outcome g = (.ok out, g') := by
  induction unbraced with
  | refl => exact walked
  | tail _ last ih => exact unbraced_refined last level incoming g out g' ih

/-- A condition, with braces around its branches or without. -/
def bracedChoice : Statement :=
  .conditional ⟨0, 5⟩ ⟨0, 1⟩ (.block ⟨2, 3⟩ [.block ⟨2, 3⟩ [.expression ⟨2, 3⟩]])
    (some (.block ⟨4, 5⟩ [.expression ⟨4, 5⟩]))

def plainChoice : Statement :=
  .conditional ⟨0, 5⟩ ⟨0, 1⟩ (.expression ⟨2, 3⟩) (some (.expression ⟨4, 5⟩))

/-- The condition with braces around it and behind it. -/
def bracedTree : Statement :=
  .block ⟨0, 7⟩ [.block ⟨0, 5⟩ [bracedChoice], .block ⟨6, 6⟩ [], .expression ⟨6, 7⟩]

def plainTree : Statement := .block ⟨0, 7⟩ [plainChoice, .expression ⟨6, 7⟩]

def plainChart : Graph :=
  ⟨#[⟨"w", .exit⟩, ⟨"if (x)", .condition⟩, ⟨"a", .expression⟩, ⟨"b", .expression⟩, ⟨"c", .expression⟩],
    #[⟨0, 1, none⟩, ⟨1, 2, none⟩, ⟨1, 2, some .whenTrue⟩, ⟨1, 3, none⟩, ⟨1, 3, some .whenFalse⟩,
      ⟨1, 4, none⟩]⟩

theorem plainTree_walks :
    Relation.ReflTransGen Statement.Unbraced bracedTree plainTree ∧
      (visit "x a b c" 0 (some 0) bracedTree).outcome ⟨#[⟨"w", .exit⟩], #[]⟩ =
        (.ok (some 4), plainChart) ∧
      (visit "x a b c" 0 (some 0) plainTree).outcome ⟨#[⟨"w", .exit⟩], #[]⟩ =
        (.ok (some 4), plainChart) := by
  have around : bracedTree.Unbraced (.block ⟨0, 7⟩ [bracedChoice, .block ⟨6, 6⟩ [], .expression ⟨6, 7⟩]) :=
    @Statement.Unbraced.block ⟨0, 7⟩ ⟨0, 5⟩ [] [bracedChoice] _
  have behind : Statement.Unbraced _ (.block ⟨0, 7⟩ [bracedChoice, .expression ⟨6, 7⟩]) :=
    @Statement.Unbraced.block ⟨0, 7⟩ ⟨6, 6⟩ [bracedChoice] [] [.expression ⟨6, 7⟩]
  have branches : Relation.ReflTransGen Statement.Unbraced bracedChoice plainChoice :=
    .head (.single (.consequent ⟨0, 5⟩ ⟨0, 1⟩ _)) (.head (.single (.consequent ⟨0, 5⟩ ⟨0, 1⟩ _))
      (.head (.single (.alternate ⟨0, 5⟩ ⟨0, 1⟩ _)) .refl))
  have inside := branches.lift (Statement.Frame.block ⟨0, 7⟩ [] [.expression ⟨6, 7⟩]).fill
    fun _ _ step => Statement.Unbraced.inside _ step
  have unbraced : Relation.ReflTransGen Statement.Unbraced bracedTree plainTree :=
    .head around (.head behind inside)
  have walked : (visit "x a b c" 0 (some 0) bracedTree).outcome ⟨#[⟨"w", .exit⟩], #[]⟩ =
      (.ok (some 4), plainChart) := by decide +kernel
  exact ⟨unbraced, walked, unbraced_walks unbraced walked⟩

end Walk

end Flowchart

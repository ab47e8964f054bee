import Flowchart.Parsing.Phrase

/-! The stack of a parser that follows several readings at once. The readings share what they have
in common: a stack is a graph, in which each reading is a way back from its own top. -/
namespace Flowchart.Parsing

open Flowchart.Grammar
open Flowchart.Lexical

/-- A step back, and the phrase between. There is none where the parser lost its way. -/
structure Link where
  previous : Nat
  phrase : Option Phrase
deriving Inhabited

/-- A place that readings lead to, the best sums of the ways there, and the ways back. -/
structure Vertex where
  state : Nat
  place : Cursor
  links : Array Link
  cost : Nat
  progress : Nat
  weight : Int
deriving Inhabited

/-- A reading goes on, waits at a token that it cannot use, or has been given up. -/
inductive Status
  | active
  | paused (lookahead : Phrase)
  | halted
deriving Inhabited

def Status.isActive : Status → Bool
  | active => true
  | _ => false

def Status.isPaused : Status → Bool
  | paused _ => true
  | _ => false

def Status.isHalted : Status → Bool
  | halted => true
  | _ => false

/-- A state that a lost parser may return to, and how many phrases it has to throw away for it. -/
structure Refuge where
  place : Cursor
  depth : Nat
  state : Nat
deriving Inhabited

/-- A reading. `progressAtError` is its progress when it last lost its way. -/
structure Version where
  top : Nat
  progressAtError : Nat
  status : Status
  refuges : Option (List Refuge)
deriving Inhabited

structure Stack where
  vertices : Array Vertex
  versions : Array Version
deriving Inhabited

/-- At most so many ways back are kept at one place. -/
def linkLimit : Nat := 8

/-- At most so many ways back are followed at once. -/
def trailLimit : Nat := 64

namespace Stack

/-- One reading that has read nothing. -/
def start (here : Cursor) : Stack :=
  ⟨#[⟨1, here, #[], 0, 0, 0⟩], #[⟨0, 0, .active, none⟩]⟩

def top (s : Stack) (v : Nat) : Vertex := s.vertices[(s.versions[v]!).top]!

def stateOf (s : Stack) (v : Nat) : Nat := (s.top v).state

def placeOf (s : Stack) (v : Nat) : Cursor := (s.top v).place

def isActive (s : Stack) (v : Nat) : Bool := (s.versions[v]!).status.isActive

/-- Moves a reading on by a phrase, or marks that it is lost. -/
def push (s : Stack) (v : Nat) (phrase : Option Phrase) (state : Nat) : Stack :=
  let old := (s.versions[v]!).top
  let before := s.vertices[old]!
  let n := s.vertices.size
  let link : Link := ⟨old, phrase⟩
  match phrase with
  | some p =>
    let vertex : Vertex := ⟨state, p.stop, #[link], before.cost + p.cost,
      before.progress + p.progress, before.weight + p.weight⟩
    { s with
      vertices := s.vertices.push vertex
      versions := s.versions.modify v fun version => { version with top := n } }
  | none =>
    { s with
      vertices := s.vertices.push { before with state, links := #[link] }
      versions := s.versions.modify v fun version =>
        { version with top := n, progressAtError := before.progress } }

def remove (s : Stack) (v : Nat) : Stack :=
  { s with versions := s.versions.eraseIdxIfInBounds v }

def halt (s : Stack) (v : Nat) : Stack :=
  { s with versions := s.versions.modify v fun version => { version with status := .halted } }

def pause (s : Stack) (v : Nat) (lookahead : Phrase) : Stack :=
  let progress := (s.top v).progress
  { s with versions := s.versions.modify v fun version =>
      { version with status := .paused lookahead, progressAtError := progress } }

def resume (s : Stack) (v : Nat) : Stack :=
  { s with versions := s.versions.modify v fun version => { version with status := .active } }

/-- Adds a reading that is where another one is. -/
def copy (s : Stack) (v : Nat) : Stack :=
  { s with versions := s.versions.push { s.versions[v]! with refuges := none } }

def swap (s : Stack) (v w : Nat) : Stack :=
  { s with versions := s.versions.swapIfInBounds v w }

/-- Puts a reading in the place of an earlier one. -/
def renumber (s : Stack) (source target : Nat) : Stack :=
  if source == target then s else
  let version := s.versions[source]!
  let version := { version with refuges := version.refuges.or (s.versions[target]!).refuges }
  { s with versions := (s.versions.set! target version).eraseIdxIfInBounds source }

/-! ### Joining readings -/

/-- Where a new way back goes: beside the others, nowhere, in place of an equal one, or on to the
place behind an equal one. -/
inductive Joint
  | beside
  | drop
  | replace (i : Nat)
  | beyond (i previous : Nat)

/-- How a new link stands to the links from index `i` on. -/
def joint (s : Stack) (new : Link) : Nat → List Link → Joint
  | _, [] => .beside
  | i, old :: rest =>
    let same := match old.phrase, new.phrase with
      | some a, some b => a.sameReading b
      | none, none => true
      | _, _ => false
    if same then
      if old.previous == new.previous then
        let weight := fun (l : Link) => (l.phrase.map (·.weight)).getD 0
        if weight new > weight old then .replace i else .drop
      else
        let a := s.vertices[old.previous]!
        let b := s.vertices[new.previous]!
        if a.state == b.state && a.place.byte == b.place.byte && a.cost == b.cost then
          .beyond i old.previous
        else joint s new (i + 1) rest
    else joint s new (i + 1) rest

private def raiseWeight (s : Stack) (vertex : Nat) (weight : Int) : Stack :=
  { s with vertices := s.vertices.modify vertex fun x =>
      { x with weight := if weight > x.weight then weight else x.weight } }

/-- Adds a way back to a place. Ways that agree in the last phrase are joined behind it. -/
def addLink : Nat → Stack → Nat → Link → Stack
  | 0, s, _, _ => s
  | fuel + 1, s, vertex, new =>
    if new.previous == vertex then s else
    let before := s.vertices[new.previous]!
    let weight := before.weight + (new.phrase.map (·.weight)).getD 0
    match s.joint new 0 (s.vertices[vertex]!).links.toList with
    | .drop => s
    | .replace i =>
      { s with vertices := s.vertices.modify vertex fun x =>
          { x with links := x.links.set! i new, weight } }
    | .beyond _ previous =>
      let s := before.links.foldl (fun s link => addLink fuel s previous link) s
      s.raiseWeight vertex weight
    | .beside =>
      let progress := before.progress + (new.phrase.map (·.progress)).getD 0
      { s with vertices := s.vertices.modify vertex fun x =>
          if x.links.size ≥ linkLimit then x else
          { x with
            links := x.links.push new
            progress := max x.progress progress
            weight := if weight > x.weight then weight else x.weight } }

/-- Two readings that may become one: nothing that follows could tell them apart. -/
def canMerge (s : Stack) (v w : Nat) : Bool :=
  s.isActive v && s.isActive w &&
    let a := s.top v
    let b := s.top w
    a.state == b.state && a.place.byte == b.place.byte && a.cost == b.cost

/-- Joins reading `w` to reading `v`, if that is possible. -/
def merge (s : Stack) (v w : Nat) : Bool × Stack :=
  if s.canMerge v w then
    let into := (s.versions[v]!).top
    let links := (s.top w).links
    let fuel := s.vertices.size
    let s := links.foldl (fun s link => s.addLink fuel into link) s
    let vertex := s.vertices[into]!
    let s := if vertex.state == 0 then
        { s with versions := s.versions.modify v fun version =>
            { version with progressAtError := vertex.progress } }
      else s
    (true, s.remove w)
  else (false, s)

/-- Joins a reading to the first of some others that it can be joined to. -/
def mergeIntoAny (s : Stack) (w : Nat) : List Nat → Bool × Stack
  | [] => (false, s)
  | v :: rest =>
    if s.canMerge v w then s.merge v w else s.mergeIntoAny w rest

/-! ### Ways back -/

/-- A way back from the top of a reading: the place reached, the phrases passed in document order,
and how many of them are not extras. -/
structure Trail where
  vertex : Nat
  phrases : List Phrase
  depth : Nat
deriving Inhabited

/-- What to do with a way back: follow it further, give it up, or take it as it is. -/
inductive Verdict
  | follow
  | leave
  | take

private def Trail.through (trail : Trail) (link : Link) : Trail :=
  match link.phrase with
  | some p => ⟨link.previous, p :: trail.phrases, if p.extra then trail.depth else trail.depth + 1⟩
  | none => ⟨link.previous, trail.phrases, trail.depth + 1⟩

/-- One step along all ways back at once. `judge` may keep notes of type `α`. -/
private def stepBack {α : Type} (s : Stack) (judge : α → Trail → α × Verdict) :
    List Trail → α → Array Trail → Array Trail → Array Trail →
      α × Array Trail × Array Trail
  | [], notes, kept, fresh, taken => (notes, kept ++ fresh, taken)
  | trail :: rest, notes, kept, fresh, taken =>
    let (notes, verdict) := judge notes trail
    match verdict with
    | .take => stepBack s judge rest notes kept fresh (taken.push trail)
    | .leave => stepBack s judge rest notes kept fresh taken
    | .follow =>
      match (s.vertices[trail.vertex]!).links.toList with
      | [] => stepBack s judge rest notes kept fresh taken
      | first :: others =>
        let room := trailLimit - (kept.size + 1 + rest.length + fresh.size)
        let more := (others.take room).map trail.through
        stepBack s judge rest notes (kept.push (trail.through first)) (fresh ++ more) taken

/-- Follows all ways back until each is taken or given up. -/
private def walkBack {α : Type} (s : Stack) (judge : α → Trail → α × Verdict) :
    Nat → List Trail → α → Array Trail → α × Array Trail
  | 0, _, notes, taken => (notes, taken)
  | _, [], notes, taken => (notes, taken)
  | fuel + 1, trails, notes, taken =>
    let (notes, trails, taken) := stepBack s judge trails notes #[] #[] taken
    walkBack s judge fuel trails.toList notes taken

/-- Sorts ways back by the place they reach, in the order in which the places were first reached. -/
private def groupTrails (taken : Array Trail) : Array (Nat × List (List Phrase)) :=
  taken.foldl (fun groups trail =>
    match groups.findIdx? fun (group : Nat × List (List Phrase)) => group.1 == trail.vertex with
    | some i => groups.modify i fun (vertex, ways) => (vertex, ways ++ [trail.phrases])
    | none => groups.push (trail.vertex, [trail.phrases])) #[]

/-- Adds a reading at each place that some way back reaches, and tells the phrases on the ways. -/
private def pop (s : Stack) (v : Nat) (judge : Trail → Verdict) :
    Array (List (List Phrase)) × Stack :=
  let version := s.versions[v]!
  let (_, taken) := walkBack s (fun (_ : Unit) trail => ((), judge trail)) (s.vertices.size + 1)
    [⟨version.top, [], 0⟩] () #[]
  let groups := groupTrails taken
  let fresh := groups.map fun (vertex, _) =>
    (⟨vertex, version.progressAtError, .active, none⟩ : Version)
  (groups.map (·.2), { s with versions := s.versions ++ fresh })

/-- Goes back by a number of phrases; extras do not count. -/
def popCount (s : Stack) (v count : Nat) : Array (List (List Phrase)) × Stack :=
  s.pop v fun trail => if trail.depth == count then .take else .follow

/-- Goes back to the start. -/
def popAll (s : Stack) (v : Nat) : Array (List (List Phrase)) × Stack :=
  s.pop v fun trail => if (s.vertices[trail.vertex]!).links.isEmpty then .take else .follow

/-- Takes a fault off the top, if there is one. -/
def popFault (s : Stack) (v : Nat) : Option Phrase × Stack :=
  let faulty := fun (link : Link) => match link.phrase with
    | some p => p.isFault
    | none => false
  match (s.top v).links.find? faulty with
  | none => (none, s)
  | some link =>
    let version := s.versions[v]!
    let fresh : Version := ⟨link.previous, version.progressAtError, .active, none⟩
    let n := s.versions.size
    (link.phrase, { s with versions := s.versions.push fresh }.renumber n v)

/-- At most so many phrases are thrown away to return to a state. -/
def refugeDepth : Nat := 16

private def noteRefuge (s : Stack) (found : List Refuge) (trail : Trail) :
    List Refuge × Verdict :=
  let vertex := s.vertices[trail.vertex]!
  if trail.depth > refugeDepth then (found, .leave)
  else if (found.takeWhile fun r => r.depth ≥ trail.depth).any fun r =>
      r.depth == trail.depth && r.state == vertex.state then (found, .follow)
  else (⟨vertex.place, trail.depth, vertex.state⟩ :: found, .follow)

/-- Notes the states that a lost reading may return to. -/
def noteRefuges (s : Stack) (v : Nat) : Stack :=
  let (found, _) := walkBack s (noteRefuge s) (s.vertices.size + 1)
    [⟨(s.versions[v]!).top, [], 0⟩] [] #[]
  { s with versions := s.versions.modify v fun version =>
      { version with refuges := some found.reverse } }

/-! ### How a reading is doing -/

/-- The cost of a reading, with the penalty for being lost. -/
def costOf (s : Stack) (v : Nat) : Nat :=
  let vertex := s.top v
  let astray := vertex.state == 0 && match vertex.links[0]? with
    | some link => link.phrase.isNone
    | none => true
  vertex.cost + if (s.versions[v]!).status.isPaused || astray then penalties.recovery else 0

/-- The progress of a reading since it last lost its way. A reading that was taken back behind that
place starts to count anew. -/
def progressSince (s : Stack) (v : Nat) : Nat × Stack :=
  let progress := (s.top v).progress
  let mark := (s.versions[v]!).progressAtError
  if progress < mark then
    (0, { s with versions := s.versions.modify v fun version =>
        { version with progressAtError := progress } })
  else (progress - mark, s)

/-- From a place back to the mark of the last error something was read. -/
private def readsBack (s : Stack) (mark : Nat) : Nat → Nat → Bool
  | 0, _ => false
  | fuel + 1, vertex =>
    let x := s.vertices[vertex]!
    match x.links[0]? with
    | none => false
    | some link =>
      match link.phrase with
      | none => false
      | some p =>
        p.width > 0 ||
          (x.progress > mark && p.cost == 0 && readsBack s mark fuel link.previous)

/-- A reading has read something since it last lost its way. -/
def hasAdvanced (s : Stack) (v : Nat) : Bool :=
  (s.top v).cost == 0 ||
    s.readsBack (s.versions[v]!).progressAtError s.vertices.size (s.versions[v]!).top

end Stack

end Flowchart.Parsing

/-! The named arguments of the command line. -/
namespace Flowchart.CommandLine

/-- A flag, or an option that takes a value. -/
inductive Switch
  | debounce
  | format
  | help
  | output
  | version
  | verbose
  | watch
deriving DecidableEq, Inhabited, Repr

namespace Switch

/-- All of them in the order in which usage lines list them. -/
def all : List Switch := [debounce, format, help, output, version, verbose, watch]

/-- All of them in the order in which a mistyped name is compared with them. -/
def byFamiliarity : List Switch := [watch, verbose, help, version, debounce, format, output]

def name : Switch → String
  | debounce => "debounce-ms"
  | format => "format"
  | help => "help"
  | output => "output"
  | version => "version"
  | verbose => "verbose"
  | watch => "watch"

def letter? : Switch → Option Char
  | debounce => none
  | format => some 'f'
  | help => some 'h'
  | output => some 'o'
  | version => some 'V'
  | verbose => some 'v'
  | watch => some 'w'

def takesValue : Switch → Bool
  | debounce | format | output => true
  | help | version | verbose | watch => false

/-- The value that is taken when none is given. -/
def default? : Switch → Option String
  | debounce => some "200"
  | format => some "mermaid"
  | _ => none

/-- How a switch is written in messages. -/
def shown (s : Switch) : String :=
  "--" ++ s.name ++ if s.takesValue then " <" ++ s.name ++ ">" else ""

def ofName? (name : String) : Option Switch := all.find? fun s => s.name == name

def ofLetter? (c : Char) : Option Switch := all.find? fun s => s.letter? == some c

end Switch

/-- A use of a switch with its value, if it has one yet. -/
structure Use where
  switch : Switch
  value : Option String
deriving DecidableEq, Inhabited, Repr

/-- What was given: the input and the uses of switches in order. -/
structure Given where
  input : Option String
  uses : List Use
deriving DecidableEq, Inhabited, Repr

namespace Given

def nothing : Given := ⟨none, []⟩

def add (g : Given) (switch : Switch) (value : Option String) : Given :=
  { g with uses := g.uses ++ [⟨switch, value⟩] }

/-- Gives the last use its value. -/
def fill (g : Given) (value : String) : Given :=
  match g.uses.reverse with
  | [] => g
  | last :: before => { g with uses := before.reverse ++ [{ last with value := some value }] }

def has (g : Given) (switch : Switch) : Bool := g.uses.any fun u => u.switch == switch

def count (g : Given) (switch : Switch) : Nat := g.uses.countP fun u => u.switch == switch

/-- The values of a switch, the default one where it has none. -/
def values (g : Given) (switch : Switch) : List String :=
  match (g.uses.filter fun u => u.switch == switch).filterMap (·.value) with
  | [] => switch.default?.toList
  | values => values

end Given

end Flowchart.CommandLine

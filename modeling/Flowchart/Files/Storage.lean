import Flowchart.Files.Path

/-! Files in folders, and what may go wrong when they are read or written. -/
namespace Flowchart

/-- Why a file cannot be used. -/
inductive FileFault
  | missing
  | notFolder
  | isFolder
  | longName
  | nullInName
  | notText
  | other (cause : String)
deriving DecidableEq, Inhabited, Repr

/-- The cause as the system words it. -/
def FileFault.cause : FileFault → String
  | missing => "No such file or directory (os error 2)"
  | notFolder => "Not a directory (os error 20)"
  | isFolder => "Is a directory (os error 21)"
  | longName => "File name too long (os error 36)"
  | nullInName => "file name contained an unexpected NUL byte"
  | notText => "stream did not contain valid UTF-8"
  | other cause => cause

/-- The text that a content is. -/
def textOf (content : ByteArray) : Except FileFault String :=
  match String.fromUTF8? content with
  | some text => .ok text
  | none => .error .notText

/-- The place of a file or folder: names from the outermost folder on. -/
abbrev Place := List String

/-- All plain files and folders, which anyone may read and write, and the folder that is worked in. The
folder that is worked in is there, with those around it. -/
structure Storage where
  files : List (Place × ByteArray)
  folders : List Place
  current : Place
deriving Inhabited

/-- What stands at a place. -/
inductive Entry
  | file (content : ByteArray)
  | folder
  | nothing

namespace Storage

/-- No files, and work in a folder. -/
def startingIn (place : Place) : Storage := ⟨[], [], place⟩

def entry (s : Storage) (place : Place) : Entry :=
  match s.files.lookup place with
  | some content => .file content
  | none =>
    if place.isPrefixOf s.current || s.folders.contains place then .folder else .nothing

/-- Adds a folder with all folders around it. -/
def addFolder (s : Storage) (place : Place) : Storage :=
  let around := (List.range' 1 place.length).map place.take
  { s with folders := s.folders ++ around.filter fun p => !s.folders.contains p }

/-- Puts a file in place of what was there. -/
def put (s : Storage) (place : Place) (content : ByteArray) : Storage :=
  { s with files := (place, content) :: s.files.filter fun f => f.1 != place }

/-- Where a path leads: a place in an existing folder, and whether only a folder may stand there. -/
structure Target where
  place : Place
  folderOnly : Bool
deriving Inhabited

/-- The longest name in bytes. -/
def nameLimit : Nat := 255

/-- The longest path in bytes. -/
def pathLimit : Nat := 4095

/-- Follows names from a folder. All but the last one must name folders. Two dots lead to the folder
around, and from the outermost one nowhere else. -/
def follow (s : Storage) (here : Place) : List (List Char) → Except FileFault Target
  | [] => .ok ⟨here, true⟩
  | name :: rest =>
    if isIdleName name then follow s here rest
    else if nameLimit < (String.ofList name).utf8ByteSize then .error .longName
    else if name == ['.', '.'] then follow s here.dropLast rest
    else
      let place := here ++ [String.ofList name]
      if rest.isEmpty then .ok ⟨place, false⟩
      else
        match s.entry place with
        | .folder => follow s place rest
        | .file _ => .error .notFolder
        | .nothing => if rest.all List.isEmpty then .ok ⟨place, true⟩ else .error .missing

/-- Where a path leads from the folder that is worked in, or from the outermost one if it begins with a
slash. -/
def target (s : Storage) (path : String) : Except FileFault Target :=
  if path.toList.contains '\x00' then .error .nullInName
  else if path.isEmpty then .error .missing
  else if pathLimit < path.utf8ByteSize then .error .longName
  else s.follow (if path.toList.head? = some '/' then [] else s.current) (pathNames path.toList)

/-- The content of a file. -/
def read (s : Storage) (path : String) : Except FileFault ByteArray := do
  let target ← s.target path
  match s.entry target.place with
  | .file content => return content
  | .folder => throw .isFolder
  | .nothing => throw .missing

/-- The content of a file that holds text. -/
def readText (s : Storage) (path : String) : Except FileFault String := s.read path >>= textOf

/-- Makes a text the whole content of a file. -/
def write (s : Storage) (path text : String) : Except FileFault Storage := do
  let target ← s.target path
  match s.entry target.place, target.folderOnly with
  | .folder, _ => throw .isFolder
  | .nothing, true => throw .isFolder
  | _, _ => return s.put target.place text.toUTF8

end Storage

end Flowchart

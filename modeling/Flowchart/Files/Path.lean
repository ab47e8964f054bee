import Flowchart.Text.Quoted

/-! Paths of files: names with slashes between them. -/
namespace Flowchart

/-- The names of a path; doubled slashes give empty ones. -/
def pathNames : List Char → List (List Char)
  | [] => [[]]
  | c :: rest =>
    match c == '/', pathNames rest with
    | true, names => [] :: names
    | false, name :: names => (c :: name) :: names
    | false, [] => [[c]]

/-- An empty name or a single dot leads nowhere. -/
def isIdleName (name : List Char) : Bool := name.isEmpty || name == ['.']

/-- Drops the names at the end that lead nowhere. -/
def trimNames (names : List (List Char)) : List (List Char) :=
  (names.reverse.dropWhile isIdleName).reverse

/-- The part of a path that says where it starts: a slash, or a dot with a slash behind it. -/
def pathRoot : List Char → List Char
  | '/' :: _ => ['/']
  | ['.'] => ['.']
  | '.' :: '/' :: _ => ['.']
  | _ => []

/-- The folder that holds a file; the current folder where the path names none. -/
def folderOf (path : String) : String :=
  let root := pathRoot path.toList
  match (trimNames (pathNames (path.toList.drop root.length))).reverse with
  | [] => "."
  | _ :: before =>
    let rest := List.intercalate ['/'] (trimNames before.reverse)
    if root.isEmpty && rest.isEmpty then "." else String.ofList (root ++ rest)

end Flowchart

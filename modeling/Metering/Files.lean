/-
A tree of files and directories. A path is the list of names from the root; the nodes are kept
by path. Every directory above a node that an operation touches has to be there and has to be
a directory, and the operations say which of the two fails.
-/

import Metering.Bytes

namespace Metering

/-- The names from the root down to a node. -/
abbrev Path := List String

/-- What stands at a path. -/
inductive Node
  | file (content : Bytes)
  | directory (mode : Nat)
  deriving DecidableEq, Repr

/-- Files and directories by path; the root is not among them. -/
structure Files where
  nodes : List (Path × Node)
  deriving DecidableEq, Repr

/-- Why an operation on files fails. -/
inductive FileError
  | missing
  | notDirectory
  | isDirectory
  deriving DecidableEq, Repr

namespace Path

/-- The path that a text names. Empty names and single dots stand for nothing; only at the end,
behind a name, they are kept as one dot, since such a path leads to a directory or nowhere. -/
def ofText (text : String) : Path :=
  let pieces := text.splitOn "/"
  let isName (piece : String) : Bool := piece != "" && piece != "."
  let names := pieces.filter isName
  if names.isEmpty || pieces.getLast?.all isName then names else names ++ ["."]

/-- The path without a dot at its end. -/
def bare (path : Path) : Path := if path.getLast? = some "." then path.dropLast else path

/-- Whether nothing but a directory can be at a path: that of the root, and one with a dot at its
end. -/
def onlyDirectory (path : Path) : Bool := path.isEmpty || path.getLast? == some "."

/-- The path of the directory that a path names something in. -/
def parent (path : Path) : Path := path.bare.dropLast

/-- The paths of the directories above, from the root down, without the root. -/
def above (path : Path) : List Path :=
  (List.range path.length).drop 1 |>.map fun count => path.take count

/-- The paths that have to be directories for a path to be one, from the root down. -/
def row (path : Path) : List Path := (path.above ++ [path]).filter fun place => !place.onlyDirectory

/-- The name without what follows its last dot; a dot at the front does not count. -/
def stem (name : String) : String :=
  let fromDot := name.toList.reverse.dropWhile (· != '.')
  match fromDot with
  | [] => name
  | _ :: before => if before.isEmpty then name else String.ofList before.reverse

/-- The path whose last name has another ending. -/
def withEnding (ending : String) (path : Path) : Path :=
  match path.bare.getLast? with
  | none => path.bare
  | some name =>
    if name = ".." then path.bare else path.parent ++ [stem name ++ "." ++ ending]

end Path

namespace Files

/-- The tree with nothing but the root. -/
def empty : Files := ⟨[]⟩

/-- The node at a path. -/
def node? (files : Files) (path : Path) : Option Node := files.nodes.lookup path

/-- Puts a node at a path, in place of what was there. -/
def put (files : Files) (path : Path) (node : Node) : Files :=
  ⟨(path, node) :: files.nodes.filter fun entry => entry.1 != path⟩

/-- Takes away the node at a path. -/
def remove (files : Files) (path : Path) : Files :=
  ⟨files.nodes.filter fun entry => entry.1 != path⟩

/-- Checks that a path leads to a directory. -/
def checkDirectory (files : Files) (path : Path) : Except FileError Unit :=
  match files.node? path with
  | none => .error .missing
  | some (.file _) => .error .notDirectory
  | some (.directory _) => .ok ()

/-- Checks the directories above a path. -/
def checkAbove (files : Files) (path : Path) : Except FileError Unit :=
  path.above.forM files.checkDirectory

/-- The content of a file. -/
def read (files : Files) (path : Path) : Except FileError Bytes := do
  files.checkAbove path
  match files.node? path with
  | none => if path.onlyDirectory then .error .isDirectory else .error .missing
  | some (.directory _) => .error .isDirectory
  | some (.file content) => .ok content

/-! ### Single steps -/

/-- One change of the tree. -/
inductive Step
  | makeDirectories (mode : Nat) (path : Path)
  | create (path : Path)
  | append (path : Path) (piece : Bytes)
  | rename (source target : Path)
  deriving DecidableEq, Repr

/-- Makes the directories of a row that are not there. -/
def makeAll (mode : Nat) : List Path → Files → Except FileError Files
  | [], files => .ok files
  | path :: rest, files =>
    match files.node? path with
    | none => makeAll mode rest (files.put path (.directory mode))
    | some (.directory _) => makeAll mode rest files
    | some (.file _) => .error .notDirectory

/-- The tree with an empty file at a path. -/
def create (path : Path) (files : Files) : Except FileError Files := do
  files.checkAbove path
  match files.node? path with
  | some (.directory _) => .error .isDirectory
  | _ => if path.onlyDirectory then .error .isDirectory else .ok (files.put path (.file []))

/-- The tree with a file moved to another path; a directory there stands in the way. -/
def rename (source target : Path) (files : Files) : Except FileError Files := do
  let content ← files.read source
  files.checkAbove target
  match files.node? target with
  | some (.directory _) => .error .isDirectory
  | _ =>
    if target.onlyDirectory then .error .isDirectory
    else .ok ((files.remove source).put target (.file content))

/-- The tree after a step. -/
def Step.apply : Step → Files → Except FileError Files
  | .makeDirectories mode path, files => makeAll mode path.row files
  | .create path, files => files.create path
  | .append path piece, files => do return files.put path (.file ((← files.read path) ++ piece))
  | .rename source target, files => files.rename source target

/-- Does the steps up to the first that fails, and keeps what they did. -/
def run : List Step → Files → Except FileError Unit × Files
  | [], files => (.ok (), files)
  | step :: rest, files =>
    match step.apply files with
    | .ok changed => run rest changed
    | .error problem => (.error problem, files)

/-! ### Listing -/

/-- The line of a node in a listing: its path, and of a directory its mode in octal digits. -/
def line (entry : Path × Node) : String :=
  let path := String.intercalate "/" entry.1
  match entry.2 with
  | .file _ => path
  | .directory mode => path ++ "/ " ++ String.ofList (Nat.toDigits 8 mode)

/-- The lines of all nodes, what is in a directory right behind it. -/
def listing (files : Files) : List String :=
  (files.nodes.mergeSort fun left right =>
    !right.1.lex left.1 fun one other => one < other).map line

end Files

end Metering

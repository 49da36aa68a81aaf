import TokenScan.Host

/-!
# Files in memory

A tree of files that is only a value. It stands in for the files of a system wherever a run is to
be followed and not performed.

A path is walked name by name from the root or the working directory. Every name but the last must
be that of a directory; an empty name and a single dot stay where they are, and two dots go back to
the directory above.

## Main definitions

* `FileTree.walk` — following a path
* `FileTree.read` — the text of the file at a path
* `FileTree.host` — the tree as the surroundings of a run
-/

namespace TokenScan

/-- What stands at a place of a tree. -/
inductive FileNode where
  /-- A directory. -/
  | directory
  /-- A file with its bytes. -/
  | file (content : ByteArray)

/-- A tree of files. -/
structure FileTree where
  /-- The files and directories, each by the names on the way to it. The directories on the way are
  there without being mentioned. -/
  nodes : List (List String × FileNode)
  /-- The names on the way to the working directory. -/
  workingDirectory : List String

namespace FileTree

/-- What stands at a place. -/
def node? (tree : FileTree) (place : List String) : Option FileNode :=
  match tree.nodes.lookup place with
  | some node => some node
  | none =>
    if place.isPrefixOf tree.workingDirectory || tree.nodes.any fun (other, _) =>
      place.isPrefixOf other then some .directory
    else none

/-- The most bytes that a name may have. -/
def nameLimit : Nat := 255

/-- The number of bytes that is too much for a path. -/
def pathLimit : Nat := 4096

/-- Follows names from a place. -/
def walk (tree : FileTree) (place : List String) : List String → Except SystemError (List String)
  | [] => .ok place
  | name :: names =>
    match tree.node? place with
    | some .directory =>
      if name = "" ∨ name = "." then walk tree place names
      else if name = ".." then walk tree place.dropLast names
      else if nameLimit < name.utf8ByteSize then .error .nameTooLong
      else if (tree.node? (place ++ [name])).isSome then walk tree (place ++ [name]) names
      else .error .notFound
    | some (.file _) => .error .notADirectory
    | none => .error .notFound

/-- The names that a path consists of. -/
def namesOf (path : String) : List String := path.splitOn "/"

/-- The place that a path leads to. -/
def resolve (tree : FileTree) (path : String) : Except SystemError (List String) :=
  if pathLimit ≤ path.utf8ByteSize then .error .nameTooLong
  else tree.walk (if path.startsWith "/" then [] else tree.workingDirectory) (namesOf path)

/-- The text of the file at a path. -/
def read (tree : FileTree) (path : String) : Except SystemError String := do
  match tree.node? (← tree.resolve path) with
  | some (.file content) => Host.decode content
  | some .directory => .error .isADirectory
  | none => .error .notFound

/-- Whether a path leads to a file or a directory. -/
def isThere (tree : FileTree) (path : String) : Bool :=
  match tree.resolve path with
  | .ok _ => true
  | .error _ => false

/-- A tree as the surroundings of a run. -/
def host (tree : FileTree) (standardInput : ByteArray) (bindings : List (String × String)) :
    Host where
  isThere := tree.isThere
  read := tree.read
  standardInput := Host.decode standardInput
  environment := fun name => bindings.lookup name

end FileTree

end TokenScan

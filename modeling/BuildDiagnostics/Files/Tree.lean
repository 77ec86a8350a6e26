import BuildDiagnostics.Files
import BuildDiagnostics.Text.Lines
/-!
# Trees of files

A tree of directories with files in them, and the way a path is resolved in
it. A path is walked name by name from the root or from the working
directory. Every name needs a directory to look it up in, also the names
for the directory itself and for the one above, so a path that leaves a
missing directory again leads nowhere.
-/


namespace BuildDiagnostics

/-- A file, or a directory with its entries by name. -/
inductive Tree where
  /-- A file with its bytes. -/
  | file (bytes : List UInt8)
  /-- A directory. -/
  | directory (entries : List (String × Tree))

namespace Tree

/-- The entry of a directory. -/
def child? : Tree → String → Option Tree
  | directory entries, name => entries.lookup name
  | file _, _ => none

/-- What a tree is, without what is below it. -/
def entry : Tree → Entry
  | file bytes => .file bytes
  | directory _ => .directory

/-- The entries of a directory with one of them replaced, or added at the
end. -/
def replace (name : String) (t : Tree) : List (String × Tree) → List (String × Tree)
  | [] => [(name, t)]
  | (n, u) :: es => if n = name then (name, t) :: es else (n, u) :: replace name t es

/-- A tree with another put below some names; directories that are missing
are made. -/
def put (leaf : Tree) : List String → Tree → Tree
  | [], t =>
    match leaf, t with
    | directory _, directory es => directory es
    | leaf, _ => leaf
  | name :: names, t =>
    let below := (t.child? name).getD (directory [])
    match t with
    | directory es => directory (replace name (put leaf names below) es)
    | file _ => directory [(name, put leaf names below)]

/-- The longest name, in bytes. -/
def maxName : Nat := 255

/-- The longest path, in bytes. -/
def maxPath : Nat := 4095

/-- Walks some names from the first of `above`, whose directories lead down
from the last of it. -/
def walk (above : List Tree) : List String → Except IoCause Entry
  | [] =>
    match above with
    | [] => .error .missing
    | here :: _ => .ok here.entry
  | name :: names =>
    match above with
    | directory es :: outer =>
      if name = "" ∨ name = "." then walk above names
      else if name = ".." then walk (if outer.isEmpty then above else outer) names
      else if maxName < name.utf8ByteSize then .error .nameTooLong
      else
        match es.lookup name with
        | some t => walk (t :: above) names
        | none => .error .missing
    | _ => .error .notDirectory

/-- The directories from a directory of the tree up to the root. -/
def upwards (root : Tree) (names : List String) : List Tree :=
  names.foldl (fun above name =>
    match above.head?.bind (·.child? name) with
    | some t => t :: above
    | none => above) [root]

/-- The names of a path. -/
def names (path : String) : List String :=
  (Text.splitOn '/' path.toList).map String.ofList

/-- Names without those for the directory itself and for the one above. -/
def plain (names : List String) : List String :=
  (names.foldl (fun above name =>
    if name = "" ∨ name = "." then above
    else if name = ".." then above.tail
    else name :: above) []).reverse

/-- What a path leads to in a tree, from a working directory below some
names. -/
def resolve (root : Tree) (workingDirectory : List String) (path : String) :
    Except IoCause Entry :=
  if path = "" then .error .missing
  else if maxPath < path.utf8ByteSize then .error .nameTooLong
  else if path.toList.head? = some '/' then walk [root] (names path)
  else walk (upwards root workingDirectory) (names path)

/-- The files of a tree as they are found from a working directory. -/
def files (root : Tree) (workingDirectory : List String) : Files :=
  ⟨resolve root workingDirectory⟩

end Tree

end BuildDiagnostics

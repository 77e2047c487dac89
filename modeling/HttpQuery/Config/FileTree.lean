import HttpQuery.Text.Utf8
/-! # Trees of files

A path leads through a tree of files and directories, part by part. It starts at the root if it
begins with a slash, and at the working directory otherwise. A part that is empty or a dot stays in
its directory, and two dots lead to the directory above; every part but the first needs a directory
before it, also the empty one after a slash at the end.

A tree is one state of the files that settings are looked up in: what `FileTree.entryAt` tells of a
path is what a system with these files tells of it.

* `PathEntry`: what stands under a path.
* `FileTree.entryAt`: what stands under a path of a tree. -/

namespace HttpQuery

open Text

/-- Why nothing stands under a path. -/
inductive PathObstacle where
  | missing
  /-- The path leads on from a file. -/
  | notDirectory
  | tooLong
  /-- The path holds the character zero. -/
  | zero
deriving DecidableEq, Repr

/-- What stands under a path. -/
inductive PathEntry where
  | absent (why : PathObstacle)
  | directory
  | file (content : Bytes)
deriving DecidableEq, Repr

/-- Whether a file or a directory stands under a path. -/
def PathEntry.isPresent : PathEntry → Bool
  | .absent _ => false
  | .directory | .file _ => true

/-- **A tree of files.** The directories on the way to a file or a directory exist too. -/
structure FileTree where
  /-- The files with their contents, by the names on the way from the root. -/
  files : List (List String × Bytes)
  directories : List (List String)
  /-- The directory that other paths than those from the root start in. -/
  workingDirectory : List String

/-- The largest number of bytes in a name. -/
def maxNameBytes : Nat := 255

/-- The number that the bytes of a path stay below. -/
def pathLimit : Nat := 4096

namespace FileTree

/-- What stands under some names from the root on. -/
def node (tree : FileTree) (names : List String) : PathEntry :=
  match tree.files.lookup names with
  | some content => .file content
  | none =>
    let known := tree.workingDirectory :: tree.directories ++ tree.files.map (·.1)
    if names = [] ∨ known.any (names.isPrefixOf ·) then .directory else .absent .missing

/-- What a path leads to by its parts, from the directory `here` on. -/
def walk (tree : FileTree) (here : List String) : List String → PathEntry
  | [] => tree.node here
  | part :: parts =>
    match tree.node here with
    | .absent why => .absent why
    | .file _ => .absent .notDirectory
    | .directory =>
      if part = "" ∨ part = "." then tree.walk here parts
      else if part = ".." then tree.walk here.dropLast parts
      else if maxNameBytes < part.utf8ByteSize then .absent .tooLong
      else tree.walk (here ++ [part]) parts

/-- **What stands under a path.** -/
def entryAt (tree : FileTree) (path : String) : PathEntry :=
  if path.toList.contains '\x00' then .absent .zero
  else if path = "" then .absent .missing
  else if pathLimit ≤ path.utf8ByteSize then .absent .tooLong
  else
    let parts := (path.toList.splitOn '/').map String.ofList
    tree.walk (if path.startsWith "/" then [] else tree.workingDirectory) parts

end FileTree

end HttpQuery

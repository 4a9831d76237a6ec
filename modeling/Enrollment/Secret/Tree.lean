import Enrollment.LocalCluster
import Enrollment.Text.Split
import Enrollment.Text.Utf8

/-!
# File trees

What a path leads to in a tree of directories. A path is followed name by name from the
root; each step needs a directory to start from, `.` stays in it and `..` goes back to the
one it was reached from. A slash at the end of a path asks for a directory. The empty path
leads nowhere.

A path without a slash in front is followed from the root too, as it is where the root is the
working directory. A tree holds files and directories only; symbolic links are left out.
-/

namespace Enrollment.Secret

abbrev Bytes := List UInt8

inductive Tree where
  | file (content : Bytes)
  | directory (entries : List (String × Tree))

/-- What a path leads to. -/
inductive Node where
  | file (content : Bytes)
  | directory
  deriving DecidableEq, Repr

/-- Why a path leads nowhere. -/
inductive PathFault where
  | missing
  | fault (fault : FileFault)
  deriving DecidableEq, Repr

/-- The bytes that a name, and a path with its end mark, can have at most. -/
def nameLimit : Nat := 255

def pathLimit : Nat := 4096

namespace Tree

def empty : Tree := directory []

def node : Tree → Node
  | file content => .file content
  | directory _ => .directory

def child? (name : String) : Tree → Option Tree
  | file _ => none
  | directory entries => entries.lookup name

/-- `entries` with `tree` under `name`, in place of what was there. -/
def setEntry (name : String) (tree : Tree) (entries : List (String × Tree)) :
    List (String × Tree) :=
  entries.filter (·.1 ≠ name) ++ [(name, tree)]

/-- The tree with `leaf` at the end of a path; directories on the way are made. An empty
directory takes nothing away from one that is there. -/
def place (leaf : Tree) : List String → Tree → Tree
  | [], tree =>
    match leaf, tree with
    | directory [], directory entries => directory entries
    | leaf, _ => leaf
  | name :: names, tree =>
    let entries := match tree with
      | directory entries => entries
      | file _ => []
    directory (setEntry name (place leaf names ((tree.child? name).getD empty)) entries)

/-- The names on a path; empty ones do not count. -/
def names (path : String) : List String :=
  ((Text.splitAt '/' path.toList).filter (! ·.isEmpty)).map String.ofList

/-- The tree that holds the given files and, where nothing is given, empty directories. -/
def ofFiles (files : List (String × Option Bytes)) (tree : Tree) (mount : List String) : Tree :=
  files.foldl
    (fun tree (path, content) =>
      place ((content.map file).getD empty) (mount ++ names path) tree)
    (place empty mount tree)

/-- Follow names from `tree`, which was reached through the directories `above`. -/
def walk (above : List Tree) (tree : Tree) : List String → Except PathFault Tree
  | [] => .ok tree
  | name :: names =>
    match tree with
    | file _ => .error (.fault .notDirectory)
    | directory _ =>
      if nameLimit < name.utf8ByteSize then .error (.fault .nameTooLong)
      else if name = "." then walk above tree names
      else if name = ".." then
        match above with
        | [] => walk [] tree names
        | parent :: above => walk above parent names
      else
        match tree.child? name with
        | none => .error .missing
        | some child => walk (tree :: above) child names

/-- What a path leads to in the tree below the root. -/
def find (root : Tree) (path : String) : Except PathFault Node :=
  if path.toList.contains '\x00' then .error (.fault .nulInName)
  else if pathLimit ≤ path.utf8ByteSize then .error (.fault .nameTooLong)
  else if path.isEmpty then .error .missing
  else
    let names := names path
    let names := if path.toList.getLast? = some '/' then names ++ ["."] else names
    (walk [] root names).map node

end Tree

/-- A path below another one; an absolute path replaces it. -/
def joinPath (above path : String) : String :=
  if path.toList.head? = some '/' then path
  else if above.isEmpty ∨ above.toList.getLast? = some '/' then above ++ path
  else above ++ "/" ++ path

end Enrollment.Secret

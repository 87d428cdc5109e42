import SnapshotRules.Entries
import SnapshotRules.Files.Reading

/-! # File trees

Files below a working directory, held in memory.
-/

namespace SnapshotRules

def pathParts (path : String) : List (List Char) := split [] path.toList
where
  split (part : List Char) : List Char → List (List Char)
    | [] => [part.reverse]
    | c :: rest => if c = '/' then part.reverse :: split [] rest else split (c :: part) rest

/-- A path below another one, unless it is absolute. -/
def joinPath (base path : String) : String :=
  if path.startsWith "/" || base.isEmpty then path
  else if base.endsWith "/" then base ++ path
  else base ++ "/" ++ path

/-- Files and directories by their paths from the working directory. The directories above
a file exist as well. -/
structure FileTree where
  entries : List (List (List Char) × FileEntry)

namespace FileTree

def isNamed (part : List Char) : Bool := part ≠ [] && part ≠ ['.']

def ofEntries (entries : Entries FileEntry) : FileTree :=
  ⟨entries.map fun (path, entry) => ((pathParts path).filter isNamed, entry)⟩

def find (tree : FileTree) (place : List (List Char)) : FileEntry :=
  match tree.entries.find? fun entry => entry.1 == place with
  | some (_, entry) => entry
  | none =>
    if place = [] || tree.entries.any fun entry => place.isPrefixOf entry.1 then .directory
    else .missing

/-- Follows the parts of a path from a place, itself so many levels above the tree. -/
def walk (tree : FileTree) (above : Nat) (place : List (List Char)) :
    List (List Char) → FileEntry
  | [] => if above = 0 then tree.find place else .directory
  | part :: rest =>
    match if above = 0 then tree.find place else .directory with
    | .directory =>
      if part = ['.', '.'] then
        if place = [] then walk tree (above + 1) [] rest
        else walk tree above place.dropLast rest
      else if isNamed part then
        if above = 0 then walk tree 0 (place ++ [part]) rest else .missing
      else walk tree above place rest
    | _ => .missing

/-- What a path leads to. Above the tree there are only directories. -/
def lookup (tree : FileTree) (path : String) : FileEntry :=
  if path.isEmpty then .missing
  else if path.startsWith "/" then
    if (pathParts path).any isNamed then .missing else .directory
  else tree.walk 0 [] (pathParts path)

end FileTree

end SnapshotRules

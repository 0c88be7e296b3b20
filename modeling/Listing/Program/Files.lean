import Listing.Config.Basic

/-!
# Files in memory

A tree of files given by their paths. A directory is there as long as a file is in it, and the root
always is.
-/

namespace Listing

/-- The files by the names on their paths. -/
structure FileTree where
  files : List (List String × String)

namespace FileTree

inductive Found where
  | file (path : List String) (text : String)
  | directory
  /-- Nothing, in a directory that is there. -/
  | vacant (path : List String)

def ofList (files : List (String × String)) : FileTree :=
  ⟨files.map fun (path, text) =>
    (((path.toList.splitOn '/').map String.ofList).filter fun name => name ≠ "", text)⟩

def isDirectory (t : FileTree) (path : List String) : Bool :=
  path.isEmpty || t.files.any fun (other, _) => path.isPrefixOf other && path ≠ other

/-- Follows the names of a path from a directory. What lies above the root cannot be reached. -/
def walk (t : FileTree) (directory : List String) : List String → Except FileFault Found
  | [] => .ok .directory
  | name :: rest =>
    if name = "" ∨ name = "." then walk t directory rest
    else if name = ".." then
      if directory.isEmpty then .error .notFound else walk t directory.dropLast rest
    else
      let path := directory ++ [name]
      match t.files.lookup path with
      | some text => if rest.isEmpty then .ok (.file path text) else .error .notDirectory
      | none =>
        if t.isDirectory path then walk t path rest
        else if rest.isEmpty then .ok (.vacant path)
        else .error .notFound

def find (t : FileTree) (path : String) : Except FileFault Found :=
  if path.isEmpty || path.startsWith "/" then .error .notFound
  else walk t [] ((path.toList.splitOn '/').map String.ofList)

def read (t : FileTree) (path : String) : Except FileFault String := do
  match ← t.find path with
  | .file _ text => return text
  | .directory => throw .isDirectory
  | .vacant _ => throw .notFound

def pathExists (t : FileTree) (path : String) : Bool :=
  match t.find path with
  | .ok (.file _ _) | .ok .directory => true
  | _ => false

/-- Writes a file in a directory that is there. -/
def write (t : FileTree) (path text : String) : Except FileFault FileTree := do
  match ← t.find path with
  | .file names _ => return ⟨t.files.map fun file => if file.1 = names then (names, text) else file⟩
  | .vacant names => return ⟨t.files ++ [(names, text)]⟩
  | .directory => throw .isDirectory

end FileTree
end Listing

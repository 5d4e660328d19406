import ProseCheck.Files.Basic

/-! # File trees

A file system in memory. Its root is also where relative paths start.
-/

namespace ProseCheck

inductive FileNode where
  | file (bytes : List UInt8)
  | directory
  deriving DecidableEq, Repr

/-- What is found under a path, the names of which are listed from the root on. -/
structure FileTree where
  nodes : List (List String × FileNode)
  deriving DecidableEq, Repr

namespace FileTree

def empty : FileTree := ⟨[]⟩

def find? (t : FileTree) (path : List String) : Option FileNode :=
  if path.isEmpty then some .directory else t.nodes.lookup path

def put (t : FileTree) (path : List String) (node : FileNode) : FileTree :=
  ⟨(path, node) :: t.nodes.filter (·.1 != path)⟩

def enter (t : FileTree) (here : List String) : List String → Except FileError (List String)
  | [] => .ok here
  | name :: rest =>
    if name = "" ∨ name = "." then t.enter here rest
    else if name = ".." then t.enter here.dropLast rest
    else
      match t.find? (here ++ [name]) with
      | none => .error .notFound
      | some (.file _) => .error .notDirectory
      | some .directory => t.enter (here ++ [name]) rest

def names (path : String) : List String := (path.toList.splitOn '/').map String.ofList

/-- Where the last name of a path belongs. A path that ends like that of a directory names no
file. -/
def locate (t : FileTree) (path : String) : Except FileError (List String) := do
  let names := names path
  let last := names.getLastD ""
  if path.isEmpty then throw .notFound
  if last = "" ∨ last = "." ∨ last = ".." then
    discard <| t.enter [] names
    throw .isDirectory
  return (← t.enter [] names.dropLast) ++ [last]

def read (t : FileTree) (path : String) : Except FileError (List UInt8) := do
  match t.find? (← t.locate path) with
  | none => throw .notFound
  | some .directory => throw .isDirectory
  | some (.file bytes) => return bytes

def write (t : FileTree) (path : String) (bytes : List UInt8) : Except FileError FileTree := do
  let place ← t.locate path
  if t.find? place = some .directory then throw .isDirectory
  return t.put place (.file bytes)

def createAlong (t : FileTree) (here : List String) : List String → Except FileError FileTree
  | [] => .ok t
  | name :: rest =>
    if name = "" ∨ name = "." then t.createAlong here rest
    else if name = ".." then t.createAlong here.dropLast rest
    else
      let place := here ++ [name]
      match t.find? place with
      | none => (t.put place .directory).createAlong place rest
      | some (.file _) => .error (if rest.isEmpty then .alreadyExists else .notDirectory)
      | some .directory => t.createAlong place rest

def createDirectory (t : FileTree) (path : String) : Except FileError FileTree :=
  t.createAlong [] (names path)

def modify (change : FileTree → Except FileError FileTree) :
    StateM FileTree (Except FileError Unit) := fun t =>
  match change t with
  | .ok t => (.ok (), t)
  | .error e => (.error e, t)

instance : Files (StateM FileTree) where
  read path := fun t => (t.read path, t)
  write path text := modify (·.write path text.toUTF8.toList)
  createDirectory path := modify (·.createDirectory path)

end FileTree
end ProseCheck

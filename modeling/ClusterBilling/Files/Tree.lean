import ClusterBilling.OrderedMap
import ClusterBilling.Files.Path

/-!
# A tree of files

Files and directories by place. A place is the list of names that lead to it from the root;
relative paths start at the working directory. A path can be followed only through directories,
points and all, so that a path to a file does not end in a slash; and a file written brings the
directories of its path into being.
-/

namespace ClusterBilling

/-- What is at a place. -/
inductive FileNode
  | file (content : List UInt8)
  | directory
deriving DecidableEq, Repr

/-- Files and directories, by the names that lead to them, joined by slashes. -/
structure FileTree where
  nodes : OrderedMap String FileNode
  /-- The place at which relative paths start. -/
  workingDirectory : List String

namespace FileTree

/-- The tree without any file, its working directory the root. -/
def empty : FileTree := ⟨.empty, []⟩

/-- A place as a key. -/
def placeKey (place : List String) : String := "/".intercalate place

/-- What is at a place. -/
def nodeAt? (t : FileTree) (place : List String) : Option FileNode :=
  if place.isEmpty then some .directory else t.nodes.get? (placeKey place)

/-- Where a component leads from a directory. -/
def enter (place : List String) (name : String) : List String :=
  if name = "." then place else if name = ".." then place.dropLast else place ++ [name]

/-- Follows components from a place, every one of them out of a directory. -/
def follow (t : FileTree) (place : List String) : List String → Option (List String)
  | [] => some place
  | name :: rest =>
    match t.nodeAt? place with
    | some .directory => follow t (enter place name) rest
    | _ => none

/-- The place where a path begins. -/
def origin (t : FileTree) (path : String) : List String :=
  if Path.isAbsolute path then [] else t.workingDirectory

/-- The place a path leads to, whether or not something is there. -/
def place? (t : FileTree) (path : String) : Option (List String) :=
  t.follow (t.origin path) (Path.components path)

/-- What a path leads to. -/
def node? (t : FileTree) (path : String) : Option FileNode := (t.place? path).bind t.nodeAt?

def exists? (t : FileTree) (path : String) : Bool := (t.node? path).isSome

/-- The content of a file. -/
def read? (t : FileTree) (path : String) : Option (List UInt8) :=
  match t.node? path with
  | some (.file content) => some content
  | _ => none

/-- Follows components from a place and makes the directories that are missing, unless a file is in
the way. -/
def makeDirectories (t : FileTree) (place : List String) :
    List String → Option (FileTree × List String)
  | [] => some (t, place)
  | name :: rest =>
    let place := enter place name
    match t.nodeAt? place with
    | some (.file _) => none
    | some .directory => makeDirectories t place rest
    | none =>
      makeDirectories { t with nodes := t.nodes.insert (placeKey place) .directory } place rest

/-- All components of a path, from the root. -/
def way (t : FileTree) (path : String) : List String := t.origin path ++ Path.components path

/-- Makes a directory, with all directories on the way to it. -/
def makeDirectory? (t : FileTree) (path : String) : Option FileTree :=
  (t.makeDirectories [] (t.way path)).map Prod.fst

/-- **Writes a file**, with all directories on the way to it, over a file that was there. -/
def write? (t : FileTree) (path : String) (content : List UInt8) : Option FileTree := do
  let name ← (t.way path).getLast?
  if name = "." || name = ".." then none
  let (t, directory) ← t.makeDirectories [] (t.way path).dropLast
  let place := directory ++ [name]
  match t.nodeAt? place with
  | some .directory => none
  | _ => some { t with nodes := t.nodes.insert (placeKey place) (.file content) }

/-- The tree without what a path leads to. -/
def remove (t : FileTree) (path : String) : FileTree :=
  match t.place? path with
  | some place =>
    let kept := t.nodes.toList.filter fun node => node.1 != placeKey place
    { t with nodes := .ofList kept }
  | none => t

end FileTree

end ClusterBilling

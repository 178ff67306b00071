import SurveyCube.Storage.Basic
import SurveyCube.Storage.Path

/-!
# Files in directories

A file tree holds files and directories.  It has two directories to begin with,
the root and, somewhere below the root, the working directory, from which paths
are followed that do not start at the root.  Nobody but the tree itself knows
the name of the working directory, so a path that leaves it upwards cannot come
back by that name.

A path is followed one component after the other, and every component but the
last has to lead to a directory.

Writing a file makes the directories above it; appending to one does not.
`Directory` is the storage whose keys are paths below one directory of a tree.
-/

namespace SurveyCube

/-- The names that lead to a place from one of the two directories that are
always there. -/
inductive Place where
  | fromRoot (names : List String)
  | fromWork (names : List String)
  deriving DecidableEq, Repr

namespace Place

def work : Place :=
  .fromWork []

def start (path : String) : Place :=
  if Path.isAbsolute path then .fromRoot [] else work

def isBuiltIn : Place → Bool
  | .fromRoot names | .fromWork names => names.isEmpty

/-- The directory above.  The root is above itself. -/
def up : Place → Place
  | .fromWork [] => .fromRoot []
  | .fromWork names => .fromWork names.dropLast
  | .fromRoot names => .fromRoot names.dropLast

def child (name : String) : Place → Place
  | .fromWork names => .fromWork (names ++ [name])
  | .fromRoot names => .fromRoot (names ++ [name])

end Place

inductive FileTree.Entry where
  | directory
  | file (content : Bytes)
  deriving DecidableEq, Repr

/-- Files and directories, each with its place. -/
structure FileTree where
  entries : List (Place × FileTree.Entry)
  deriving DecidableEq, Repr

namespace FileTree

def empty : FileTree :=
  ⟨[]⟩

def entry? (tree : FileTree) (place : Place) : Option Entry :=
  if place.isBuiltIn then some .directory else tree.entries.lookup place

def put (tree : FileTree) (place : Place) (entry : Entry) : FileTree :=
  ⟨(place, entry) :: tree.entries.filter fun other => other.1 ≠ place⟩

def step (tree : FileTree) (place : Place) (component : String) : Except FileFault Place :=
  match tree.entry? place with
  | none => .error .missing
  | some (.file _) => .error .unusable
  | some .directory =>
      if Path.isIdle component then .ok place
      else if component = ".." then .ok place.up
      else if Path.isName component then .ok (place.child component)
      else .error .unusable

/-- The place that a path leads to.  Nothing may stand there yet. -/
def resolve (tree : FileTree) (path : String) : Except FileFault Place :=
  if path.isEmpty then .error .missing
  else if Path.isUsable path then
    (Path.components path).foldlM tree.step (Place.start path)
  else .error .unusable

def read (tree : FileTree) (path : String) : Except FileFault Bytes := do
  match tree.entry? (← tree.resolve path) with
  | none => .error .missing
  | some .directory => .error .unusable
  | some (.file content) => .ok content

/-- Follow a component, making a directory if nothing stands there. -/
def stepMaking (tree : FileTree) (place : Place) (component : String) :
    Except FileFault (FileTree × Place) := do
  let place ← tree.step place component
  match tree.entry? place with
  | none => return (tree.put place .directory, place)
  | some .directory => return (tree, place)
  | some (.file _) => .error .unusable

/-- Follow components from a place, making the directories that are missing. -/
def makeAlong (tree : FileTree) (place : Place) :
    List String → FileTree × Except FileFault Unit
  | [] => (tree, .ok ())
  | component :: rest =>
      match tree.stepMaking place component with
      | .ok (tree, place) => tree.makeAlong place rest
      | .error fault => (tree, .error fault)

def makeDirectories (tree : FileTree) (path : String) : FileTree × Except FileFault Unit :=
  if Path.isUsable path then tree.makeAlong (Place.start path) (Path.components path)
  else (tree, .error .unusable)

def withoutSlashes (path : String) : String :=
  String.ofList (path.toList.reverse.dropWhile (· = '/')).reverse

/-- The place of a file to be made.  No file can have a path that ends in a
slash. -/
def filePlace (tree : FileTree) (path : String) : Except FileFault Place :=
  if Path.isUsable path && path.toList.getLast? = some '/' then do
    let _ ← tree.resolve (withoutSlashes path)
    .error .unusable
  else
    tree.resolve path

/-- Change the file at a path, or make it.  The directory has to be there. -/
def update (tree : FileTree) (path : String) (change : Bytes → Bytes) :
    FileTree × Except FileFault Unit :=
  match tree.filePlace path with
  | .error fault => (tree, .error fault)
  | .ok place =>
      match tree.entry? place with
      | some .directory => (tree, .error .unusable)
      | some (.file content) => (tree.put place (.file (change content)), .ok ())
      | none => (tree.put place (.file (change [])), .ok ())

def append (tree : FileTree) (path : String) (content : Bytes) :
    FileTree × Except FileFault Unit :=
  tree.update path (· ++ content)

/-- Write the file at a path, after making the directories above it. -/
def write (tree : FileTree) (path : String) (content : Bytes) :
    FileTree × Except FileFault Unit :=
  match tree.makeDirectories (Path.parent path) with
  | (tree, .ok ()) => tree.update path fun _ => content
  | (tree, .error fault) => (tree, .error fault)

end FileTree

/-- A directory of a file tree, as a storage. -/
structure Directory where
  tree : FileTree
  path : String
  deriving DecidableEq, Repr

instance : Storage Directory where
  read directory key := directory.tree.read (Path.join directory.path key)
  write directory key content :=
    let (tree, outcome) := directory.tree.write (Path.join directory.path key) content
    ({ directory with tree }, outcome)

end SurveyCube

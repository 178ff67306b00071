import SurveyCube.Text.Utf8

/-!
# Paths

A path is a text whose components are separated by slashes.  `Path.join` puts
a path below a directory; `Path.components` splits it, empty components
included, and `Path.parent` goes up to the directory that holds what the path
names.
-/

namespace SurveyCube.Path

def isAbsolute (path : String) : Bool :=
  path.toList.head? = some '/'

/-- A path seen from a directory.  An absolute path stays as it is. -/
def join (directory path : String) : String :=
  if isAbsolute path then path
  else if directory.isEmpty || directory.toList.getLast? = some '/' then directory ++ path
  else directory ++ "/" ++ path

def splitSlashes : List Char → List (List Char)
  | [] => [[]]
  | c :: rest =>
      if c = '/' then [] :: splitSlashes rest
      else match splitSlashes rest with
        | [] => [[c]]
        | part :: parts => (c :: part) :: parts

/-- The components of a path, with an empty one between adjacent slashes and
at an end. -/
def components (path : String) : List String :=
  (splitSlashes path.toList).map String.ofList

/-- The component stays where it is. -/
def isIdle (component : String) : Bool :=
  component = "" || component = "."

/-- The path without its last component that leads somewhere, and without what
follows that component and what stands idle before it. -/
def parent (path : String) : String :=
  let kept := ((components path).reverse.dropWhile isIdle).drop 1
  "/".intercalate (kept.dropWhile isIdle).reverse

def maxLength : Nat := 4095

def isUsable (path : String) : Bool :=
  (Text.bytes path).length ≤ maxLength && !path.toList.contains '\x00'

def maxNameLength : Nat := 255

def isName (component : String) : Bool :=
  (Text.bytes component).length ≤ maxNameLength

end SurveyCube.Path

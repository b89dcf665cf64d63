/-!
# Storage paths

Storage paths are divided by slashes on every platform.  The last element is
what follows the last slash, and a path is cleaned by walking it: empty elements
and single dots do nothing, two dots take back the element before them, and a
path from the root never climbs above it.
-/

namespace EditorLaunch.Path

def lastElement (path : List Char) : List Char :=
  (path.reverse.takeWhile (· != '/')).reverse

/-- Everything up to the last slash, which is included. -/
def throughLastSlash (path : List Char) : List Char :=
  (path.reverse.dropWhile (· != '/')).reverse

/-- The last dot of a name with what follows it, or nothing without a dot. -/
def nameExtension (name : List Char) : List Char :=
  if name.contains '.' then '.' :: (name.reverse.takeWhile (· != '.')).reverse else []

/-- The element that stays where it is. -/
def here : List Char := ['.']

/-- The element that goes back. -/
def back : List Char := ['.', '.']

/-- Walks one element.  The stack holds the elements kept so far, the nearest
first. -/
def step (rooted : Bool) (stack : List (List Char)) (element : List Char) : List (List Char) :=
  if element = [] ∨ element = here then stack
  else if element = back then
    match stack with
    | [] => if rooted then [] else [back]
    | nearest :: others =>
        if nearest = back then (if rooted then stack else back :: stack) else others
  else element :: stack

/-- The elements that a path comes down to, the nearest first. -/
def walk (rooted : Bool) (elements : List (List Char)) : List (List Char) :=
  elements.foldl (step rooted) []

def write (rooted : Bool) (elements : List (List Char)) : List Char :=
  let joined := List.intercalate ['/'] elements
  if rooted then '/' :: joined
  else if joined.isEmpty then here
  else joined

def isRooted (path : List Char) : Bool :=
  path.head? == some '/'

/-- The clean form of a path. -/
def cleanForm (path : List Char) : List Char :=
  let rooted := isRooted path
  write rooted (walk rooted (path.splitOn '/')).reverse

/-- The extension of the last element, with its dot. -/
def extension (path : String) : String :=
  String.ofList (nameExtension (lastElement path.toList))

/-- The path without superfluous elements. -/
def clean (path : String) : String :=
  String.ofList (cleanForm path.toList)

/-- The clean path of the folder that holds the last element. -/
def folder (path : String) : String :=
  String.ofList (cleanForm (throughLastSlash path.toList))

end EditorLaunch.Path

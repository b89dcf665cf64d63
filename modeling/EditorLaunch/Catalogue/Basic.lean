import EditorLaunch.Access
import EditorLaunch.Json.Basic
import EditorLaunch.Unicode.Lowercase

/-!
# The catalogue of editors

The editing bridge lists, for each extension, the addresses of its editors.
Extensions are looked up without regard to case.  If several keys of a list
differ only in case, the lower-case spelling wins, and without one the last key
in the order of characters does; each key that replaces another one is reported.
-/

namespace EditorLaunch

/-- The addresses of the editors for an extension; an empty one means none. -/
structure EditorAddresses where
  view : String
  edit : String
  new : String
deriving DecidableEq, Repr

def EditorAddresses.address (addresses : EditorAddresses) : EditorKind → String
  | .new => addresses.new
  | .edit => addresses.edit
  | .view => addresses.view

/-- Reads the addresses of an extension; those that are not named are empty. -/
def EditorAddresses.ofJson? (value : Json) : Option EditorAddresses := do
  let address (field : Option Json) : Option String :=
    match field with
    | some named => named.asText?
    | none => some ""
  match ← value.fields? ["view", "edit", "new"] with
  | [view, edit, new] => return ⟨← address view, ← address edit, ← address new⟩
  | _ => none

def EditorAddresses.toJson (addresses : EditorAddresses) : Json :=
  .record [("view", .text addresses.view), ("edit", .text addresses.edit),
    ("new", .text addresses.new)]

/-- Editors by extension.  Extensions are in lower case and stand once each. -/
structure Catalogue where
  entries : List (String × EditorAddresses)
deriving DecidableEq, Repr

/-- A key that replaced another one: the extension and its spelling. -/
structure Collision where
  extension : String
  kept : String
deriving DecidableEq, Repr

def Collision.message (collision : Collision) : String :=
  s!"Extension {collision.extension} is listed more than once ignoring case, " ++
    s!"keeping {collision.kept}"

namespace Catalogue

/-- The catalogue without editors. -/
def empty : Catalogue := ⟨[]⟩

def size (catalogue : Catalogue) : Nat :=
  catalogue.entries.length

/-- The editors of an extension in any case. -/
def find? (catalogue : Catalogue) (extension : String) : Option EditorAddresses :=
  catalogue.entries.lookup (lowercase extension)

/-- The address of an editor, if the catalogue has it. -/
def address? (catalogue : Catalogue) (extension : String) (kind : EditorKind) :
    Option String :=
  ((catalogue.find? extension).map (·.address kind)).filter (!·.isEmpty)

/-- Keeps the last value of each key. -/
def lastOfEach : List (String × α) → List (String × α)
  | [] => []
  | (key, value) :: rest =>
      if rest.any (·.1 == key) then lastOfEach rest else (key, value) :: lastOfEach rest

def isLowercase (key : String) : Bool :=
  key == lowercase key

/-- The order in which keys are taken: those in lower case last, otherwise in the
order of characters. -/
def comesBefore (left right : String × α) : Bool :=
  match isLowercase left.1, isLowercase right.1 with
  | false, true => true
  | true, false => false
  | _, _ => left.1 ≤ right.1

def set (catalogue : Catalogue) (extension : String) (addresses : EditorAddresses) :
    Catalogue :=
  ⟨(extension, addresses) :: catalogue.entries.filter (·.1 != extension)⟩

/-- Takes one key, reporting it if it replaces another one. -/
def take (state : Catalogue × List Collision) (entry : String × EditorAddresses) :
    Catalogue × List Collision :=
  let extension := lowercase entry.1
  let collisions :=
    if state.1.entries.any (·.1 == extension) then state.2 ++ [⟨extension, entry.1⟩]
    else state.2
  (state.1.set extension entry.2, collisions)

/-- The catalogue of a list, in which the last value of a repeated key counts,
and its collisions. -/
def ofEntries (entries : List (String × EditorAddresses)) : Catalogue × List Collision :=
  ((lastOfEach entries).mergeSort comesBefore).foldl take (empty, [])

def entriesOfJson? : Json → Option (List (String × EditorAddresses))
  | .object members =>
      members.mapM fun (name?, value) => do
        return (← name?, ← EditorAddresses.ofJson? value)
  | _ => none

end Catalogue

end EditorLaunch

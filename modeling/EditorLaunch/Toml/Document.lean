import EditorLaunch.Settings.Value

/-!
# The tables of settings files

A file fills tables line by line.  A table comes to be by its header, by a header
that leads through it, or by a key with points.  Nothing may be given twice: a
header does not reopen a table that has one or that keys with points made, and
keys with points do not reach into tables of headers.  A header in double
brackets adds a table to a list of them.
-/

namespace EditorLaunch.Toml

/-- How a table came to be. -/
inductive Origin where
  | header
  | passage
  | dotted
deriving DecidableEq, Repr

/-- What stands under a key: a value, a table, or a list of tables. -/
inductive Entry where
  | value (setting : RawSetting)
  | table (origin : Origin) (members : List (String × Entry))
  | tables (items : List (List (String × Entry)))
deriving Repr, Inhabited

abbrev Members : Type :=
  List (String × Entry)

/-- Sets a member, in the place where its key stands already. -/
def putEntry (name : String) (entry : Entry) : Members → Members
  | [] => [(name, entry)]
  | (other, old) :: rest =>
      if other = name then (name, entry) :: rest else (other, old) :: putEntry name entry rest

/-- Changes the table that keys lead to, making those on the way that are not
there.  For the keys of a line, a table with a header is out of reach. -/
def changeAt (byLine : Bool) (change : Origin → Members → Option Members) :
    List String → Origin → Members → Option Members
  | [], origin, members => change origin members
  | name :: rest, _, members =>
      match members.lookup name with
      | none => do
          let origin := if byLine then Origin.dotted else .passage
          let made ← changeAt byLine change rest origin []
          return putEntry name (.table origin made) members
      | some (.value _) => none
      | some (.table origin inner) =>
          if byLine && origin == .header then none
          else do
            let changed ← changeAt byLine change rest origin inner
            return putEntry name (.table origin changed) members
      | some (.tables items) => do
          let last ← items.getLast?
          let changed ← changeAt byLine change rest .header last
          return putEntry name (.tables (items.dropLast ++ [changed])) members

/-- Adds a member that must not be there. -/
def addMember (name : String) (setting : RawSetting) (members : Members) : Option Members :=
  if members.any (·.1 == name) then none else some (members ++ [(name, .value setting)])

/-- Gives a value under keys within a table. -/
def assign (path : List String) (setting : RawSetting) (origin : Origin)
    (members : Members) : Option Members := do
  let name ← path.getLast?
  let leading := path.dropLast
  changeAt true (fun reached inner =>
    if !leading.isEmpty && reached != .dotted then none else addMember name setting inner)
    leading origin members

/-- Opens the table of a header. -/
def openTable (path : List String) (root : Members) : Option Members := do
  let name ← path.getLast?
  changeAt false (fun _ members =>
    match members.lookup name with
    | none => some (putEntry name (.table .header []) members)
    | some (.table .passage inner) => some (putEntry name (.table .header inner) members)
    | some _ => none) path.dropLast .header root

/-- Adds a table to the list of a header in double brackets. -/
def addTable (path : List String) (root : Members) : Option Members := do
  let name ← path.getLast?
  changeAt false (fun _ members =>
    match members.lookup name with
    | none => some (putEntry name (.tables [[]]) members)
    | some (.tables items) => some (putEntry name (.tables (items ++ [[]])) members)
    | some _ => none) path.dropLast .header root

/-- Gives a value under keys within the table that the last header opened. -/
def assignIn (opened : List String) (path : List String) (setting : RawSetting)
    (root : Members) : Option Members :=
  changeAt false (fun _ members => assign path setting .header members) opened .header root

mutual

def Entry.setting : Entry → RawSetting
  | .value found => found
  | .table _ members => .table (settings members)
  | .tables items => .list (listed items)

def settings : List (String × Entry) → List (String × RawSetting)
  | [] => []
  | (name, entry) :: rest => (name, entry.setting) :: settings rest

def listed : List (List (String × Entry)) → List RawSetting
  | [] => []
  | members :: rest => .table (settings members) :: listed rest

end

end EditorLaunch.Toml

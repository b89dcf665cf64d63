import EditorLaunch.Json.Basic

/-!
# Raw settings

Settings come from several sources and are read only once they have been put
together.  Until then they are a tree of values.  In a table each name stands
once.  When two trees are put together tables are joined name by name, and
anywhere else the second one wins.
-/

namespace EditorLaunch

/-- A value of a setting, or a table of them. -/
inductive RawSetting where
  | nothing
  | flag (value : Bool)
  | integer (value : Int)
  | float (value : Float)
  | letter (value : Char)
  | text (value : String)
  | list (items : List RawSetting)
  | table (members : List (String × RawSetting))
deriving Repr, Inhabited

namespace RawSetting

/-- The members of a table; anything else has none. -/
def members : RawSetting → List (String × RawSetting)
  | table found => found
  | _ => []

/-- Sets a member, in the place where its name stands already. -/
def put (name : String) (value : RawSetting) :
    List (String × RawSetting) → List (String × RawSetting)
  | [] => [(name, value)]
  | (other, old) :: rest =>
      if other = name then (name, value) :: rest else (other, old) :: put name value rest

mutual

/-- Puts two trees together; the second one wins. -/
def merge (below above : RawSetting) : RawSetting :=
  match above with
  | table found =>
      match below with
      | table old => table (mergeMembers old found)
      | _ => table found
  | other => other

/-- Puts the members of two tables together. -/
def mergeMembers (below : List (String × RawSetting)) :
    List (String × RawSetting) → List (String × RawSetting)
  | [] => below
  | (name, value) :: rest =>
      let joined := match below.lookup name with
        | some old => merge old value
        | none => value
      mergeMembers (put name joined below) rest

end

/-- The tree that holds one value under names within names. -/
def nested : List String → RawSetting → RawSetting
  | [], value => value
  | name :: rest, value => table [(name, nested rest value)]

/-- The last value of each name, in the order of names. -/
def sorted (members : List (String × RawSetting)) : List (String × RawSetting) :=
  members.mergeSort fun left right => left.1 ≤ right.1

mutual

def ofJson : Json → RawSetting
  | .null => nothing
  | .boolean value => flag value
  | .integer value => integer value
  | .decimal value => float value.toFloat
  | .string content? => text (content?.getD "")
  | .array items => list (ofJsonItems items)
  | .object found => table (ofJsonMembers found)

def ofJsonItems : List Json → List RawSetting
  | [] => []
  | item :: rest => ofJson item :: ofJsonItems rest

def ofJsonMembers : List (Option String × Json) → List (String × RawSetting)
  | [] => []
  | (name?, value) :: rest => (name?.getD "", ofJson value) :: ofJsonMembers rest

end

end RawSetting

end EditorLaunch

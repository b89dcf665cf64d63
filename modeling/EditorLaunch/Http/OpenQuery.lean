import EditorLaunch.Opening
import EditorLaunch.Text.Form

/-!
# Queries that open files

A query names a file by an identifier or by a path.  Each may stand once; other
parameters are passed over.  Empty values count as absent, and an identifier is
preferred to a path.
-/

namespace EditorLaunch.Http

/-- The parameters of a query that opens a file. -/
structure OpenQuery where
  fileId? : Option String
  filePath? : Option String
deriving DecidableEq, Repr

namespace OpenQuery

def idName : String := "fileId"

def pathName : String := "filePath"

/-- A parameter that stands twice. -/
structure Duplicate where
  name : String
deriving DecidableEq, Repr

def Duplicate.message (duplicate : Duplicate) : String :=
  s!"Failed to deserialize query string: duplicate field `{duplicate.name}`"

def take (query : OpenQuery) (pair : Form.Pair) : Except Duplicate OpenQuery :=
  if pair.1 = idName then
    if query.fileId?.isSome then .error ⟨idName⟩
    else .ok { query with fileId? := some pair.2 }
  else if pair.1 = pathName then
    if query.filePath?.isSome then .error ⟨pathName⟩
    else .ok { query with filePath? := some pair.2 }
  else .ok query

def ofText (query : String) : Except Duplicate OpenQuery :=
  (Form.decode query).foldlM take ⟨none, none⟩

def target (query : OpenQuery) : Except Failure FileTarget :=
  match query.fileId?.filter (!·.isEmpty), query.filePath?.filter (!·.isEmpty) with
  | some encoded, _ => .ok (.encodedId encoded)
  | none, some location => .ok (.path location)
  | none, none => .error (.missingParameter "fileID parameter missing in request")

end OpenQuery

end EditorLaunch.Http

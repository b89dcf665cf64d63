import EditorLaunch.Duration.Basic
import EditorLaunch.Failure
import EditorLaunch.Json.Basic
import EditorLaunch.Session
import EditorLaunch.Text.Quoted
import EditorLaunch.Url.Reader

/-!
# Links to editors

A file is opened by sending the user to the address of an editor with the handle
of a session.  The access token that the address may carry is taken out of its
query and handed over beside it; the other parameters are sorted by name, those
of one name in their order.  The token expires after its lifetime, within the
limits of the calendar.
-/

namespace EditorLaunch

/-- What a user needs to open a file: where the editor is, the token for it, and
when the token expires, in milliseconds since the epoch. -/
structure EditorLink where
  address : String
  accessToken : String
  expiresAt : Int
deriving DecidableEq, Repr

namespace EditorLink

def toJson (link : EditorLink) : Json :=
  .record [("wopiclienturl", .text link.address), ("accesstoken", .text link.accessToken),
    ("accesstokenttl", .integer link.expiresAt)]

def tokenName : String := "access_token"

/-- Pairs in the order of their names; pairs of one name stay in order. -/
def sortPairs (pairs : List Form.Pair) : List Form.Pair :=
  pairs.mergeSort fun left right => left.1 ≤ right.1

/-- The token among pairs: the value of the first one of its name. -/
def tokenOf (pairs : List Form.Pair) : String :=
  (pairs.lookup tokenName).getD ""

def otherPairs (pairs : List Form.Pair) : List Form.Pair :=
  sortPairs (pairs.filter (·.1 != tokenName))

/-- An address with these pairs for its query, or without a query if there are
none. -/
def withQuery (url : Url) (pairs : List Form.Pair) : Url :=
  if pairs.isEmpty then url.withoutQuery else url.withPairs pairs

/-- The first instant of the calendar, in milliseconds since the epoch. -/
def firstInstant : Int := -8334601228800000

/-- The last instant of the calendar, in milliseconds since the epoch. -/
def lastInstant : Int := 8210266876799999

/-- The longest lifetime, in nanoseconds. -/
def longestLifetime : Nat := (0x8000000000000000 - 1) * 1000000

/-- When a token expires that is issued now.  The result is in milliseconds. -/
def expiry (lifetime : Duration) (now : Int) : Except Failure Int :=
  if longestLifetime < lifetime.nanoseconds then
    .error (.internal
      ("token ttl out of range: Source duration value is out of range for the " ++
        "target type"))
  else
    let instant := now + Int.ofNat lifetime.milliseconds
    if firstInstant ≤ instant ∧ instant ≤ lastInstant then .ok instant
    else .error (.internal "token expiry overflows")

/-- The link to an editor for a session. -/
def assemble (editorAddress : String) (handle : SessionHandle) (lifetime : Duration)
    (now : Int) : Except Failure EditorLink :=
  let combined := editorAddress ++ "&WOPISrc=" ++ handle.text
  match Url.parse combined with
  | .error cause =>
      .error (.internal
        ("invalid editor URL " ++ Quoted.text combined ++ ": " ++ cause.message))
  | .ok url => do
      let expiresAt ← expiry lifetime now
      return {
        address := (withQuery url (otherPairs url.pairs)).text
        accessToken := tokenOf url.pairs
        expiresAt }

end EditorLink

end EditorLaunch

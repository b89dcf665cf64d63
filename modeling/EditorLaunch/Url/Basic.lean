import EditorLaunch.Text.Form
import EditorLaunch.Url.Host

/-!
# Addresses

An address has a scheme, perhaps an authority that names a host, a path, and
perhaps a query and a fragment.  All parts are kept as they are written, with
escapes.
-/

namespace EditorLaunch

/-- Who serves an address.  Without a password it is empty, and a port that the
scheme has anyway is left out. -/
structure Authority where
  username : List Char
  password : List Char
  host : Host
  port : Option UInt16
deriving DecidableEq, Repr

/-- Where an address leads on its host: a path that starts at the root, a path
without structure, or no path at all. -/
inductive UrlPath where
  | rooted (letters : List Char)
  | opaquePath (letters : List Char)
deriving DecidableEq, Repr

/-- An address. -/
structure Url where
  scheme : List Char
  authority : Option Authority
  path : UrlPath
  query : Option (List Char)
  fragment : Option (List Char)
deriving DecidableEq, Repr

namespace Authority

/-- The text of the user, with the sign behind it. -/
def userLetters (authority : Authority) : List Char :=
  if authority.username.isEmpty && authority.password.isEmpty then []
  else if authority.password.isEmpty then authority.username ++ ['@']
  else authority.username ++ ':' :: authority.password ++ ['@']

/-- The text of the port, with the sign before it. -/
def portLetters (authority : Authority) : List Char :=
  match authority.port with
  | some port => ':' :: Nat.toDigits 10 port.toNat
  | none => []

def letters (authority : Authority) : List Char :=
  authority.userLetters ++ authority.host.letters ++ authority.portLetters

end Authority

namespace Url

/-- The text of a path.  Without an authority, a path that starts with two
slashes gets a dot in front, or it would read as one. -/
def pathLetters (url : Url) : List Char :=
  match url.path, url.authority with
  | .rooted ('/' :: '/' :: rest), none => '/' :: '.' :: '/' :: '/' :: rest
  | .rooted letters, _ => letters
  | .opaquePath letters, _ => letters

/-- An optional part behind its sign. -/
def optional (sign : Char) : Option (List Char) → List Char
  | some letters => sign :: letters
  | none => []

def letters (url : Url) : List Char :=
  let authority := match url.authority with
    | some authority => '/' :: '/' :: authority.letters
    | none => []
  url.scheme ++ ':' :: authority ++ url.pathLetters ++ optional '?' url.query ++
    optional '#' url.fragment

def text (url : Url) : String :=
  String.ofList url.letters

def pairs (url : Url) : List Form.Pair :=
  Form.decode (String.ofList (url.query.getD []))

/-- The address with these pairs for its query. -/
def withPairs (url : Url) (pairs : List Form.Pair) : Url :=
  { url with query := some (Form.encode pairs).toList }

/-- The address without a query.  Blanks at the end of a path without structure
go with it if nothing else stands behind them. -/
def withoutQuery (url : Url) : Url :=
  match url.path, url.fragment with
  | .opaquePath letters, none =>
      { url with
        path := .opaquePath (letters.reverse.dropWhile (· == ' ')).reverse
        query := none }
  | _, _ => { url with query := none }

/-- The address without the name and password of its user. -/
def withoutUser (url : Url) : Url :=
  { url with authority := url.authority.map ({ · with username := [], password := [] }) }

end Url

end EditorLaunch

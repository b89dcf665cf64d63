import EditorLaunch.Url.Basic

/-!
# Reading addresses

Addresses are read leniently: characters that may not stand where they do are
escaped, backslashes count as slashes in the common schemes, dots in paths are
resolved, and tabs and line breaks are passed over.  What remains to be refused
are texts without a scheme, and hosts and ports that are none.
-/

namespace EditorLaunch.Url

/-- The kinds of schemes that are read differently. -/
inductive SchemeKind where
  | file
  | common
  | other
deriving DecidableEq, Repr

def defaultPort? (scheme : List Char) : Option Nat :=
  if scheme = "http".toList ∨ scheme = "ws".toList then some 80
  else if scheme = "https".toList ∨ scheme = "wss".toList then some 443
  else if scheme = "ftp".toList then some 21
  else none

def SchemeKind.ofScheme (scheme : List Char) : SchemeKind :=
  if scheme = "file".toList then file
  else if (defaultPort? scheme).isSome then common
  else other

/-- Whether a scheme is one of those that browsers know. -/
def SchemeKind.isSpecial : SchemeKind → Bool
  | other => false
  | _ => true

/-- Characters that are passed over. -/
def isSkipped (character : Char) : Bool :=
  character == '\t' || character == '\n' || character == '\r'

/-- Characters that are cut off at both ends. -/
def isTrimmed (character : Char) : Bool :=
  character.toNat ≤ 0x20

/-- The text without what is cut off and passed over. -/
def relevant (letters : List Char) : List Char :=
  (((letters.dropWhile isTrimmed).reverse.dropWhile isTrimmed).reverse).filter (!isSkipped ·)

def isSchemeLetter (character : Char) : Bool :=
  character.isAlphanum || character == '+' || character == '-' || character == '.'

/-- Splits off the scheme, in lower case. -/
def scheme? (letters : List Char) : Option (List Char × List Char) :=
  let (found, rest) := letters.span isSchemeLetter
  match found, rest with
  | first :: _, ':' :: behind =>
      if first.isAlpha then some (found.map Char.toLower, behind) else none
  | _, _ => none

def isSlash (kind : SchemeKind) (character : Char) : Bool :=
  character == '/' || (kind.isSpecial && character == '\\')

def endsAuthority (kind : SchemeKind) (character : Char) : Bool :=
  isSlash kind character || character == '?' || character == '#'

def endsPath (character : Char) : Bool :=
  character == '?' || character == '#'

def readUser (letters : List Char) : List Char × List Char :=
  let (username, password) := letters.span (· != ':')
  (Percent.encode Percent.escapedInUserinfo username,
    Percent.encode Percent.escapedInUserinfo (password.drop 1))

/-- Splits off the user: what stands before the last at sign of the authority. -/
def splitUser (kind : SchemeKind) (letters : List Char) :
    Except UrlError ((List Char × List Char) × List Char) :=
  let authority := letters.takeWhile (!endsAuthority kind ·)
  let behind := letters.drop authority.length
  if authority.contains '@' then
    let host := (authority.reverse.takeWhile (· != '@')).reverse
    let user := ((authority.reverse.dropWhile (· != '@')).drop 1).reverse
    if user.isEmpty && host.isEmpty && !behind.isEmpty then .error .emptyHost
    else .ok (readUser user, host ++ behind)
  else .ok (([], []), letters)

/-- Splits off the text of the host, which ends at a colon outside brackets. -/
def splitHost (kind : SchemeKind) : (inBrackets : Bool) → List Char → List Char × List Char
  | _, [] => ([], [])
  | inBrackets, letter :: rest =>
      if endsAuthority kind letter || (letter == ':' && !inBrackets) then ([], letter :: rest)
      else
        let brackets :=
          if letter = '[' then true else if letter = ']' then false else inBrackets
        let (host, behind) := splitHost kind brackets rest
        (letter :: host, behind)

/-- Splits off the port, if there is one. -/
def splitPort (scheme : List Char) (letters : List Char) :
    Except UrlError (Option UInt16 × List Char) :=
  match letters with
  | ':' :: rest =>
      let (digits, behind) := rest.span Char.isDigit
      let value := digits.foldl (fun value digit => value * 10 + (digit.toNat - 0x30)) 0
      let ends := match behind with
        | [] => true
        | next :: _ => endsAuthority .common next
      if 65535 < value ∨ !ends then .error .badPort
      else if digits.isEmpty ∨ defaultPort? scheme = some value then .ok (none, behind)
      else .ok (some (.ofNat value), behind)
  | _ => .ok (none, letters)

/-- Reads a host as its kind of scheme has it. -/
def readHost (kind : SchemeKind) (letters : List Char) : Except UrlError Host :=
  if kind.isSpecial then Host.readCommon letters else Host.readOther letters

/-- Refuses an address that lacks a host. -/
def refuseIf (lacksHost : Bool) : Except UrlError Unit :=
  if lacksHost then .error .emptyHost else .ok ()

def readAuthority (scheme : List Char) (kind : SchemeKind) (letters : List Char) :
    Except UrlError (Authority × List Char) := do
  let ((username, password), afterUser) ← splitUser kind letters
  let (hostLetters, afterHost) := splitHost kind false afterUser
  refuseIf (hostLetters.isEmpty && kind.isSpecial)
  let host ← readHost kind hostLetters
  refuseIf (host.isEmpty && afterHost.head? == some ':')
  let (port, rest) ← splitPort scheme afterHost
  refuseIf (host.isEmpty && !(username.isEmpty && password.isEmpty))
  return (⟨username, password, host, port⟩, rest)

/-- Whether an element of a path is a single dot, escaped or not. -/
def isHere (element : List Char) : Bool :=
  let lower := String.ofList (element.map Char.toLower)
  lower == "." || lower == "%2e"

/-- Whether an element of a path is two dots, escaped or not. -/
def isBack (element : List Char) : Bool :=
  let lower := String.ofList (element.map Char.toLower)
  lower == ".." || lower == "%2e." || lower == ".%2e" || lower == "%2e%2e"

/-- Whether an element names a drive: a letter with a colon or a bar. -/
def isDrive : List Char → Bool
  | [letter, mark] => letter.isAlpha && (mark == ':' || mark == '|')
  | _ => false

/-- Takes back the element before two dots, unless it names a drive. -/
def goBack : List (List Char) → List (List Char)
  | [] => []
  | nearest :: others => if isDrive nearest then nearest :: others else others

/-- Resolves the elements of a path.  `kept` holds those before, the nearest
first; an empty last element leaves a slash at the end. -/
def resolve (kind : SchemeKind) (kept : List (List Char)) :
    List (List Char) → List (List Char)
  | [] => kept
  | element :: rest =>
      if isBack element then
        let shorter := goBack kept
        resolve kind (if rest.isEmpty then [] :: shorter else shorter) rest
      else if isHere element then
        resolve kind (if rest.isEmpty then [] :: kept else kept) rest
      else
        let written :=
          if kind == .file && kept.isEmpty && isDrive element then element.take 1 ++ [':']
          else element
        resolve kind (written :: kept) rest

def splitPath (kind : SchemeKind) (letters : List Char) : List (List Char) :=
  (letters.map fun letter => if isSlash kind letter then '/' else letter).splitOn '/'

/-- The resolved elements of a path; a slash in front does not count. -/
def readElements (kind : SchemeKind) (letters : List Char) : List (List Char) :=
  let relative := match letters with
    | first :: rest => if isSlash kind first then rest else letters
    | [] => []
  let elements := (splitPath kind relative).map (Percent.encode Percent.escapedInPath)
  (resolve kind [] elements).reverse

/-- Reads the path behind an authority.  The path of a file starts with a single
slash. -/
def readPath (kind : SchemeKind) (letters : List Char) : List Char :=
  if letters.isEmpty && !kind.isSpecial then []
  else
    let kept := readElements kind letters
    let relevant := if kind == .file then kept.dropWhile List.isEmpty else kept
    '/' :: List.intercalate ['/'] relevant

def readTail (kind : SchemeKind) (letters : List Char) :
    Option (List Char) × Option (List Char) :=
  let escapedInQuery :=
    if kind.isSpecial then Percent.escapedInSpecialQuery else Percent.escapedInQuery
  let (before, behind) := letters.span (· != '#')
  let query := match before with
    | '?' :: rest => some (Percent.encode escapedInQuery rest)
    | _ => none
  let fragment := match behind with
    | _ :: rest => some (Percent.encode Percent.escapedInFragment rest)
    | [] => none
  (query, fragment)

/-- Reads the path, the query and the fragment behind an authority. -/
def finish (scheme : List Char) (kind : SchemeKind) (authority : Option Authority)
    (letters : List Char) : Url :=
  let (path, tail) := letters.span (!endsPath ·)
  let (query, fragment) := readTail kind tail
  { scheme, authority, path := .rooted (readPath kind path), query, fragment }

/-- Reads the host of a file, behind two slashes.  A drive is no host. -/
def readFileHost (letters : List Char) : Except UrlError (Host × List Char) := do
  let (found, rest) := letters.span (!endsAuthority .file ·)
  if isDrive found then return (.name [], letters)
  else if found.isEmpty then return (.name [], rest)
  else
    let host ← Host.readCommon found
    return (if host = .name "localhost".toList then .name [] else host, rest)

/-- Whether the path of a file leads to a drive, which makes its host void. -/
def leadsToDrive (letters : List Char) : Bool :=
  (readElements .file (letters.takeWhile (!endsPath ·))).head?.any isDrive

def readFile (scheme letters : List Char) : Except UrlError Url := do
  match letters with
  | first :: second :: rest =>
      if isSlash .file first && isSlash .file second then
        let (host, behind) ← readFileHost rest
        let kept := if leadsToDrive behind then .name [] else host
        return finish scheme .file (some ⟨[], [], kept, none⟩) behind
      else return finish scheme .file (some ⟨[], [], .name [], none⟩) letters
  | _ => return finish scheme .file (some ⟨[], [], .name [], none⟩) letters

def readOther (scheme letters : List Char) : Except UrlError Url := do
  match letters with
  | '/' :: '/' :: rest =>
      let (authority, behind) ← readAuthority scheme .other rest
      return finish scheme .other (some authority) behind
  | '/' :: _ => return finish scheme .other none letters
  | _ =>
      let (path, tail) := letters.span (!endsPath ·)
      let (query, fragment) := readTail .other tail
      return {
        scheme
        authority := none
        path := .opaquePath (Percent.encode Percent.isControl path)
        query
        fragment }

/-- Reads an address. -/
def parse (content : String) : Except UrlError Url :=
  match scheme? (relevant content.toList) with
  | none => .error .relative
  | some (scheme, rest) =>
      match SchemeKind.ofScheme scheme with
      | .file => readFile scheme rest
      | .other => readOther scheme rest
      | .common => do
          let (authority, behind) ←
            readAuthority scheme .common (rest.dropWhile (isSlash .common))
          return finish scheme .common (some authority) behind

end EditorLaunch.Url

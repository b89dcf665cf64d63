import EditorLaunch.Http.Headers

/-!
# Requests

A request has a method, a target and headers.  A target is a path with an
optional query, the address of a host, or both, and not every character may
stand everywhere in it.  What stands behind a number sign is cut off.
-/

namespace EditorLaunch.Http

/-- What is left of a target once its host is taken off. -/
structure Target where
  path : List Char
  query? : Option (List Char)
deriving DecidableEq, Repr

/-- A request. -/
structure Request where
  method : String
  target : Target
  headers : Headers
deriving DecidableEq, Repr

def isTokenCharacter (character : Char) : Bool :=
  character.isAlphanum || "!#$%&'*+-.^_`|~".toList.contains character

def isMethod (method : String) : Bool :=
  !method.isEmpty && method.toList.all isTokenCharacter

namespace Target

def fitsPath (character : Char) : Bool :=
  0x7F ≤ character.toNat || character.isAlphanum ||
    "!$%&'()*+,-./:;=@[\\]^_|~\"\x7b\x7d".toList.contains character

def fitsQuery (character : Char) : Bool :=
  0x21 ≤ character.toNat && !"\"#<>".toList.contains character

/-- Reads a path with an optional query. -/
def ofPath? (letters : List Char) : Option Target :=
  let relevant := letters.takeWhile (· != '#')
  let (path, rest) := relevant.span (· != '?')
  let query? := match rest with
    | _ :: query => some query
    | [] => none
  if path.all fitsPath && (query?.getD []).all fitsQuery then some ⟨path, query?⟩ else none

/-- Whether a character may be part of a host with its user and port. -/
def fitsAuthority (character : Char) : Bool :=
  character.isAlphanum || "!$&'()*+,-.:;=@[]_~%".toList.contains character

/-- What has been seen of an authority: colons, brackets, and percent signs,
those of its user aside. -/
structure AuthoritySight where
  colons : Nat
  opened : Bool
  closed : Bool
  percent : Bool
deriving DecidableEq, Repr

/-- Passes one character of an authority. -/
def passAuthority (sight : AuthoritySight) (character : Char) : Option AuthoritySight :=
  if !fitsAuthority character then none
  else if character = ':' then
    if 8 ≤ sight.colons then none else some { sight with colons := sight.colons + 1 }
  else if character = '[' then
    if sight.percent || sight.opened then none else some { sight with opened := true }
  else if character = ']' then
    if !sight.opened || sight.closed then none
    else some { sight with closed := true, colons := 0, percent := false }
  else if character = '@' then some { sight with colons := 0, percent := false }
  else if character = '%' then some { sight with percent := true }
  else some sight

/-- Whether a text is an authority, which may be empty. -/
def isAuthority (letters : List Char) : Bool :=
  match letters.foldlM passAuthority ⟨0, false, false, false⟩ with
  | none => false
  | some sight =>
      sight.opened == sight.closed && sight.colons ≤ 1 && !sight.percent &&
        letters.getLast? != some '@'

def endsAuthority (character : Char) : Bool :=
  character == '/' || character == '?' || character == '#'

def fitsScheme (character : Char) : Bool :=
  character.isAlphanum || character == '+' || character == '-' || character == '.'

def longestScheme : Nat := 64

/-- Takes off a scheme with its two slashes.  Nothing is answered when a scheme
is too long. -/
def dropScheme? (letters : List Char) : Option (Bool × List Char) :=
  let (scheme, rest) := letters.span fitsScheme
  match rest with
  | ':' :: '/' :: '/' :: behind =>
      if longestScheme < scheme.length then none else some (true, behind)
  | _ => some (false, letters)

/-- Reads a target that does not start with a slash. -/
def ofHost? (letters : List Char) : Option Target := do
  let (hasScheme, rest) ← dropScheme? letters
  let authority := rest.takeWhile (!endsAuthority ·)
  let behind := rest.drop authority.length
  if !isAuthority authority then none
  else if hasScheme then
    if authority.isEmpty then none
    else
      let target ← ofPath? behind
      return { target with path := if target.path.isEmpty then ['/'] else target.path }
  else if behind.isEmpty then some ⟨[], none⟩
  else none

def longest : Nat := 65534

def ofText? (content : String) : Option Target :=
  if content.isEmpty || longest < content.utf8ByteSize then none
  else
    match content.toList with
    | '/' :: _ => ofPath? content.toList
    | ['*'] => some ⟨['*'], none⟩
    | letters => ofHost? letters

/-- A path without slashes at either end. -/
def trimSlashes (path : List Char) : List Char :=
  ((path.dropWhile (· == '/')).reverse.dropWhile (· == '/')).reverse

/-- The target by which a request is routed: a path that ends with a slash, or
starts with two, has one slash in front and none at the end. -/
def normalized (target : Target) : Target :=
  if target.path.getLast? == some '/' || ['/', '/'].isPrefixOf target.path then
    { target with path := '/' :: trimSlashes target.path }
  else target

end Target

def Request.build? (method : String) (address : String) (headers : Headers) :
    Option Request := do
  let target ← Target.ofText? address
  if isMethod method then some ⟨method, target, headers⟩ else none

end EditorLaunch.Http

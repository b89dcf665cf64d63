import EditorLaunch.Caller
import EditorLaunch.Clock.Instant
import EditorLaunch.Digest.Hmac
import EditorLaunch.Json.Printer
import EditorLaunch.Settings.Basic
import EditorLaunch.Text.Base64
import EditorLaunch.Text.Utf8
import EditorLaunch.Trace

/-!
# Storage tokens

Calls to the storage carry a token that speaks for the user.  It is either taken
over from the request or minted here: a header and claims in JSON, each in base
64, and a code that authenticates both under a shared secret, with points
between the three.
-/

namespace EditorLaunch

/-- What a minted token claims.  Times are in seconds since the epoch. -/
structure TokenClaims where
  issuedAt : Int
  expiresAt : Int
  principal : Principal
deriving DecidableEq, Repr

namespace TokenClaims

/-- Who issues tokens. -/
def issuer : String := "wopi-server"

/-- Whom tokens are for. -/
def audience : String := "reva"

/-- The last second that a claim can name. -/
def lastSecond : Int := 0x8000000000000000 - 1

/-- The claims for a principal, valid for so long from now on. -/
def forPrincipal (principal : Principal) (lifetime : Duration) (now : Instant) : TokenClaims :=
  let issuedAt := Int.ofNat now.seconds
  { issuedAt
    expiresAt := min (issuedAt + min (Int.ofNat lifetime.seconds) lastSecond) lastSecond
    principal }

/-- The rights of an owner on everything that is the user's. -/
def ownerScope : Json :=
  .record [("user", .record [
    ("resource", .record [("decoder", .text "json"), ("value", .text "Iioi")]),
    ("role", .natural 1)])]

def toJson (claims : TokenClaims) : Json :=
  .record [
    ("iss", .text issuer),
    ("aud", .text audience),
    ("iat", .integer claims.issuedAt),
    ("exp", .integer claims.expiresAt),
    ("user", .record [("id", .text claims.principal.userId),
      ("display_name", .text claims.principal.displayName)]),
    ("scope", ownerScope)]

end TokenClaims

namespace StorageToken

def header : Json :=
  .record [("alg", .text "HS256"), ("typ", .text "JWT")]

def segment (value : Json) : String :=
  Base64.text (Utf8.ofText value.print)

/-- The part of a token that is signed. -/
def signedPart (claims : TokenClaims) : String :=
  segment header ++ "." ++ segment claims.toJson

def signature (secret : String) (content : String) : String :=
  Base64.text (Hmac.code (Utf8.ofText secret) (Utf8.ofText content))

/-- The token with these claims. -/
def sign (secret : String) (claims : TokenClaims) : String :=
  signedPart claims ++ "." ++ signature secret (signedPart claims)

end StorageToken

/-- Where storage tokens come from. -/
inductive TokenSource where
  | minted (secret : String) (lifetime : Duration)
  | forwarded
deriving DecidableEq, Repr

namespace TokenSource

def ofSettings (settings : Settings) : TokenSource :=
  match settings.auth.mode with
  | .mint => minted settings.token.secret settings.token.lifetime
  | .forward => forwarded

/-- The token for a caller. -/
def tokenFor (source : TokenSource) (now : Instant) (caller : Caller) : Action κ String :=
  match source with
  | minted secret lifetime => do
      Action.log .debug s!"Minting storage token for {caller.principal.userId}"
      return StorageToken.sign secret (.forPrincipal caller.principal lifetime now)
  | forwarded =>
      match caller.forwardedToken?.filter (!·.isEmpty) with
      | some token => return token
      | none => throw (.unauthenticated "no storage token forwarded with request")

end TokenSource

end EditorLaunch

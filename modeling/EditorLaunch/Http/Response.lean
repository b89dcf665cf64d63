import EditorLaunch.Failure
import EditorLaunch.Json.Printer

/-!
# Responses

A response has a status, headers and a body.  Failures leave as a status for
their kind with their message for a body.  Every answer says that it must not be
kept, how it may be shown, and which version gave it.
-/

namespace EditorLaunch.Http

/-- An answer to a request. -/
structure Response where
  status : Nat
  headers : List (String × String)
  body : String
deriving DecidableEq, Repr

def version : String := "0.1.0"

namespace Response

def lengthHeader (body : String) : String × String :=
  ("content-length", toString body.utf8ByteSize)

/-- A response without a body. -/
def empty (status : Nat) : Response :=
  ⟨status, [lengthHeader ""], ""⟩

def plain (status : Nat) (body : String) : Response :=
  ⟨status, [("content-type", "text/plain; charset=utf-8"), lengthHeader body], body⟩

def json (status : Nat) (value : Json) : Response :=
  let body := value.print
  ⟨status, [("content-type", "application/json"), lengthHeader body], body⟩

def withHeaders (response : Response) (headers : List (String × String)) : Response :=
  { response with headers := response.headers ++ headers }

/-- The response without its body, whose length stays announced. -/
def withoutBody (response : Response) : Response :=
  { response with body := "" }

def statusOf : Failure → Nat
  | .malformedIdentifier _ => 400
  | .missingParameter _ => 400
  | .unauthenticated _ => 400
  | .unsupportedType _ => 400
  | .notFound _ => 404
  | .bridgeUnavailable _ _ => 500
  | .backend _ => 500
  | .configuration _ => 500
  | .internal _ => 500
  | .transport _ => 500

def ofFailure (failure : Failure) : Response :=
  plain (statusOf failure) failure.message

/-- What every answer says about itself. -/
def labels : List (String × String) :=
  [("x-wopiserver-version", version),
    ("cache-control", "no-cache, no-store, must-revalidate, max-age=0"),
    ("pragma", "no-cache"),
    ("expires", "0"),
    ("x-content-type-options", "nosniff"),
    ("x-frame-options", "DENY"),
    ("referrer-policy", "strict-origin-when-cross-origin")]

/-- The header that names what an answer depends on. -/
def varyHeader : String × String :=
  ("vary", "origin, access-control-request-method, access-control-request-headers")

/-- What allows pages of other origins to read an answer. -/
def sharing : List (String × String) :=
  [("access-control-allow-origin", "*"), ("access-control-expose-headers", "*"), varyHeader]

/-- The methods that routes answer. -/
def allowHeader : String × String :=
  ("allow", "GET,HEAD")

/-- The answer to a browser that asks what it may request. -/
def preflight : Response :=
  (empty 200).withHeaders
    [("access-control-allow-origin", "*"), ("access-control-allow-methods", "*"),
      ("access-control-allow-headers", "*"), varyHeader]

end Response

end EditorLaunch.Http

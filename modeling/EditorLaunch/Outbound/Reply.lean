import EditorLaunch.Duration.Basic
import EditorLaunch.Failure
import EditorLaunch.Text.Utf8
import EditorLaunch.Unicode.Blank

/-!
# Replies of other services

What comes of a request that was sent: no answer at all, or a status with a body
that arrives whole, is cut short or never ends, and perhaps the location of another
address.  How the other side behaves is given as a script, which tells what comes of
each request of each attempt and how long it takes.
-/

namespace EditorLaunch.Outbound

/-- How a body ends: whole, before its announced end, or never. -/
inductive BodyEnd where
  | whole
  | cutShort
  | unfinished
deriving DecidableEq, Repr

/-- An answer of another service. -/
structure Reply where
  status : Nat
  body : List UInt8
  bodyEnd : BodyEnd
  location? : Option String := none
deriving DecidableEq, Repr

/-- What comes of sending a request. -/
inductive Attempt where
  | silent (silence : Silence)
  | answered (reply : Reply)
deriving DecidableEq, Repr

/-- What comes of sending a request, and after what time. -/
structure Exchange where
  elapsed : Duration
  attempt : Attempt
deriving DecidableEq, Repr

/-- What comes of each attempt, counted from one, and in it of each request, counted from
nought: first the client's own, and then those that replies lead to. -/
abbrev Script : Type :=
  Nat → Nat → Exchange

def reason : Nat → String
  | 100 => "Continue"
  | 101 => "Switching Protocols"
  | 102 => "Processing"
  | 200 => "OK"
  | 201 => "Created"
  | 202 => "Accepted"
  | 203 => "Non Authoritative Information"
  | 204 => "No Content"
  | 205 => "Reset Content"
  | 206 => "Partial Content"
  | 207 => "Multi-Status"
  | 208 => "Already Reported"
  | 226 => "IM Used"
  | 300 => "Multiple Choices"
  | 301 => "Moved Permanently"
  | 302 => "Found"
  | 303 => "See Other"
  | 304 => "Not Modified"
  | 305 => "Use Proxy"
  | 307 => "Temporary Redirect"
  | 308 => "Permanent Redirect"
  | 400 => "Bad Request"
  | 401 => "Unauthorized"
  | 402 => "Payment Required"
  | 403 => "Forbidden"
  | 404 => "Not Found"
  | 405 => "Method Not Allowed"
  | 406 => "Not Acceptable"
  | 407 => "Proxy Authentication Required"
  | 408 => "Request Timeout"
  | 409 => "Conflict"
  | 410 => "Gone"
  | 411 => "Length Required"
  | 412 => "Precondition Failed"
  | 413 => "Payload Too Large"
  | 414 => "URI Too Long"
  | 415 => "Unsupported Media Type"
  | 416 => "Range Not Satisfiable"
  | 417 => "Expectation Failed"
  | 418 => "I'm a teapot"
  | 421 => "Misdirected Request"
  | 422 => "Unprocessable Entity"
  | 423 => "Locked"
  | 424 => "Failed Dependency"
  | 425 => "Too Early"
  | 426 => "Upgrade Required"
  | 428 => "Precondition Required"
  | 429 => "Too Many Requests"
  | 431 => "Request Header Fields Too Large"
  | 451 => "Unavailable For Legal Reasons"
  | 500 => "Internal Server Error"
  | 501 => "Not Implemented"
  | 502 => "Bad Gateway"
  | 503 => "Service Unavailable"
  | 504 => "Gateway Timeout"
  | 505 => "HTTP Version Not Supported"
  | 506 => "Variant Also Negotiates"
  | 507 => "Insufficient Storage"
  | 508 => "Loop Detected"
  | 510 => "Not Extended"
  | 511 => "Network Authentication Required"
  | _ => "<unknown status code>"

namespace Reply

/-- The status with its words. -/
def statusLine (reply : Reply) : String :=
  s!"{reply.status} {reason reply.status}"

def isSuccess (reply : Reply) : Bool :=
  200 ≤ reply.status && reply.status < 300

/-- The location that a reply names, if its status says that something is there. -/
def lead? (reply : Reply) : Option String :=
  if [301, 302, 303, 307, 308].contains reply.status then reply.location? else none

/-- The octets of the body, if all of it arrives. -/
def octets (reply : Reply) : Except TransportFailure (List UInt8) :=
  match reply.bodyEnd with
  | .whole => .ok reply.body
  | .cutShort => .error (.unreadable false)
  | .unfinished => .error (.unreadable true)

/-- The text of the body, with damaged octets replaced. -/
def text (reply : Reply) : Except TransportFailure String :=
  reply.octets.map Utf8.toTextLossy

/-- The text of the body for messages: without blanks around it, and empty if it
does not arrive. -/
def excerpt (reply : Reply) : String :=
  match reply.text with
  | .ok content => trimmed content
  | .error _ => ""

end Reply

end EditorLaunch.Outbound

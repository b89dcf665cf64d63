/-!
# Failures

Every stage of opening a file stops at the first failure.  A failure is one of
ten kinds with a message for people; one of the kinds is a request to another
service that brought no usable reply.  Only that kind can be transient: a later
attempt may succeed when the other side was not reached, or did not finish its
answer in time.
-/

namespace EditorLaunch

/-- Why a request that was sent brought no reply. -/
inductive Silence where
  | refused
  | timedOut
  | dropped
deriving DecidableEq, Repr

/-- Why a request brought no usable reply. -/
inductive TransportFailure where
  | unbuildable (address? : Option String)
  | unanswered (address : String) (silence : Silence)
  | unreadable (timedOut : Bool)
  | turnedAway (status : String) (address : String)
  | misdirected (address : String)
deriving DecidableEq, Repr

namespace TransportFailure

def message : TransportFailure → String
  | unbuildable none => "builder error"
  | unbuildable (some address) => s!"builder error for url ({address})"
  | unanswered address _ => s!"error sending request for url ({address})"
  | unreadable _ => "error decoding response body"
  | turnedAway status address => s!"HTTP status server error ({status}) for url ({address})"
  | misdirected address => s!"error following redirect for url ({address})"

/-- Whether a later attempt may succeed. -/
def isTransient : TransportFailure → Bool
  | unanswered _ .refused => true
  | unanswered _ .timedOut => true
  | unreadable timedOut => timedOut
  | _ => false

end TransportFailure

/-- Why a file could not be opened, or the service not be started. -/
inductive Failure where
  | malformedIdentifier (detail : String)
  | missingParameter (detail : String)
  | unauthenticated (detail : String)
  | notFound (detail : String)
  | unsupportedType (detail : String)
  | bridgeUnavailable (endpoint : String) (detail : String)
  | backend (detail : String)
  | configuration (detail : String)
  | internal (detail : String)
  | transport (cause : TransportFailure)
deriving DecidableEq, Repr

namespace Failure

def message : Failure → String
  | malformedIdentifier detail => "Malformed identifier: " ++ detail
  | missingParameter detail => detail
  | unauthenticated detail => "Unauthenticated: " ++ detail
  | notFound detail => "Not found: " ++ detail
  | unsupportedType detail => "Unsupported type: " ++ detail
  | bridgeUnavailable endpoint detail =>
      s!"Editing bridge unavailable: {endpoint} - {detail}"
  | backend detail => "Storage backend error: " ++ detail
  | configuration detail => "Configuration error: " ++ detail
  | internal detail => "Internal error: " ++ detail
  | transport cause => "HTTP error: " ++ cause.message

/-- Whether a later attempt may succeed. -/
def isTransient : Failure → Bool
  | transport cause => cause.isTransient
  | _ => false

end Failure

end EditorLaunch

import EditorLaunch.Catalogue.Basic
import EditorLaunch.Metadata
import EditorLaunch.Session
import EditorLaunch.Trace

/-!
# The services behind this one

Opening a file asks two other services: the storage gateway for the metadata of
the file, and the editing bridge for its catalogue of editors and for a session.
Nothing is assumed about what they answer, how long they take and which requests
they send for it.
-/

namespace EditorLaunch

/-- A request over the network, with its headers in the order in which they are
set. -/
structure OutboundRequest where
  method : String
  address : String
  headers : List (String × String)
  body : String
deriving DecidableEq, Repr

/-- What goes out over the network: the requests that a client makes, and those that
replies lead to from there. -/
inductive Outgoing where
  | asked (request : OutboundRequest)
  | followed (request : OutboundRequest)
deriving DecidableEq, Repr

def Outgoing.request : Outgoing → OutboundRequest
  | asked request => request
  | followed request => request

/-- What opening a file asks of other services, and what is sent for it. -/
inductive Call where
  | stat (reference : Reference) (token : String)
  | fetchCatalogue
  | openSession (request : SessionRequest) (token : String)
  | send (outgoing : Outgoing)
deriving DecidableEq, Repr

/-- The other services. -/
structure Backend where
  stat : Reference → String → Action Outgoing Metadata
  fetchCatalogue : Action Outgoing Catalogue
  openSession : SessionRequest → String → Action Outgoing SessionHandle

/-- Reports the keys that replaced others. -/
def reportCollisions (collisions : List Collision) : Traced κ Unit :=
  ⟨collisions.map fun collision => .logged ⟨.warn, collision.message⟩, ()⟩

end EditorLaunch

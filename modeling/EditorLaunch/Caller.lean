/-!
# Callers

Who asks for a file.  The identity is established in front of this service; a
storage token may come with it.
-/

namespace EditorLaunch

/-- The user behind a request. -/
structure Principal where
  userId : String
  displayName : String
deriving DecidableEq, Repr

/-- What is known about who is asking. -/
structure Caller where
  principal : Principal
  forwardedToken? : Option String
deriving DecidableEq, Repr

end EditorLaunch

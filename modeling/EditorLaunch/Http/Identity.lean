import EditorLaunch.Caller
import EditorLaunch.Failure
import EditorLaunch.Http.Headers
import EditorLaunch.Settings.Basic

/-!
# Who is asking

The proxy in front of this service says in headers who is asking, and where the
request comes from.  Each of them is read from the first value of its name.
-/

namespace EditorLaunch.Http

/-- The caller that headers name.  Without a name to display, the identifier
serves as one. -/
def callerOf (headers : Headers) (auth : AuthSettings) : Except Failure Caller :=
  match headers.text? auth.userIdHeader with
  | none => .error (.unauthenticated s!"missing {auth.userIdHeader} header")
  | some userId =>
      .ok {
        principal :=
          { userId, displayName := (headers.text? auth.displayNameHeader).getD userId }
        forwardedToken? := headers.text? auth.tokenHeader }

/-- Where a request comes from. -/
structure RequestContext where
  userAgent? : Option String
  address? : Option String
deriving DecidableEq, Repr

/-- The first item of a list with commas, without blanks around it. -/
def firstItem (list : String) : String :=
  String.ofList (trimBlanks (list.toList.takeWhile (· != ',')))

/-- Where headers say that a request comes from.  One header wins over the other
even if its value is unusable. -/
def contextOf (headers : Headers) : RequestContext :=
  let address := (headers.first? "x-real-ip").or (headers.first? "x-forwarded-for")
  { userAgent? := (headers.first? "user-agent").bind visibleText?
    address? := (address.bind visibleText?).map firstItem }

end EditorLaunch.Http

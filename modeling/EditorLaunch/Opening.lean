import EditorLaunch.Backend
import EditorLaunch.EditorLink
import EditorLaunch.StorageToken

/-!
# Opening a file

A file is opened in stages, each of which needs the one before: the target is
decoded, a token is obtained, the file is looked up and has to be a plain file,
its rights decide how it opens, the catalogue names the editor, the bridge opens
a session, and the link to the editor is put together.  The first failure ends
everything, and so does a refusal, which is no failure.  The clock is read for the
token and once more for the link.
-/

namespace EditorLaunch

/-- How a caller names a file: by an encoded identifier or by its path. -/
inductive FileTarget where
  | encodedId (encoded : String)
  | path (location : String)
deriving DecidableEq, Repr

namespace FileTarget

/-- The reference that a target stands for.  Paths are taken as they are. -/
def reference : FileTarget → Except Failure Reference
  | encodedId encoded => (ResourceId.decode encoded).map .resource
  | path location => .ok (.path location)

def label : FileTarget → String
  | encodedId encoded => "EncodedId(" ++ Quoted.text encoded ++ ")"
  | path location => "Path(" ++ Quoted.text location ++ ")"

end FileTarget

/-- What comes of opening a file. -/
inductive Outcome where
  | opened (link : EditorLink)
  | denied (reason : DenyReason)
deriving DecidableEq, Repr

/-- What opening files takes: the other services, a source of tokens, and how
long the token of an editor lasts. -/
structure Opener where
  backend : Backend
  tokens : TokenSource
  lifetime : Duration

namespace Opener

/-- The address of the editor for a file. -/
def editorAddress (catalogue : Catalogue) (metadata : Metadata) (kind : EditorKind) :
    Except Failure String :=
  match catalogue.address? metadata.extension kind with
  | some address => .ok address
  | none =>
      .error (.unsupportedType (s!"no {kind.text} editor registered for extension " ++
        Quoted.text metadata.extension))

/-- What the bridge is asked for. -/
def sessionRequest (metadata : Metadata) (mode : ViewMode) (caller : Caller) :
    SessionRequest :=
  { fileKey := metadata.id.opaqueId
    mode
    storageId := metadata.id.storageId
    folder := metadata.folder
    userName := caller.principal.displayName }

def stat (opener : Opener) (reference : Reference) (token : String) :
    Action Call Metadata := do
  Action.start (.stat reference token)
  (opener.backend.stat reference token).mapCalls .send

def fetchCatalogue (opener : Opener) : Action Call Catalogue := do
  Action.start .fetchCatalogue
  opener.backend.fetchCatalogue.mapCalls .send

def openSession (opener : Opener) (request : SessionRequest) (token : String) :
    Action Call SessionHandle := do
  Action.start (.openSession request token)
  (opener.backend.openSession request token).mapCalls .send

/-- Opens a session for a file and puts the link to its editor together. -/
def connect (opener : Opener) (clock : Clock) (caller : Caller) (token : String)
    (metadata : Metadata) (mode : ViewMode) (address : String) : Action Call Outcome := do
  let handle ← opener.openSession (sessionRequest metadata mode caller) token
  let link ← Action.settle
    (EditorLink.assemble address handle opener.lifetime clock.second.milliseconds)
  return .opened link

/-- Finds an editor for a file and opens a session with it. -/
def launch (opener : Opener) (clock : Clock) (caller : Caller) (token : String)
    (metadata : Metadata) (mode : ViewMode) (kind : EditorKind) : Action Call Outcome := do
  Action.log .debug s!"Opening {metadata.path} as {mode.text} via {kind.text} URL"
  let catalogue ← opener.fetchCatalogue
  let address ← Action.settle (editorAddress catalogue metadata kind)
  opener.connect clock caller token metadata mode address

/-- Opens a file that was looked up, if it may be opened. -/
def openFound (opener : Opener) (clock : Clock) (caller : Caller) (token : String)
    (metadata : Metadata) : Action Call Outcome := do
  Action.settle metadata.ensureFile
  match metadata.decide with
  | .denied reason =>
      Action.log .info
        s!"Not opening {metadata.path} for {caller.principal.userId}: {reason.text}"
      return .denied reason
  | .allowed mode kind => opener.launch clock caller token metadata mode kind

/-- Opens a file for a caller. -/
def openFile (opener : Opener) (clock : Clock) (target : FileTarget) (caller : Caller) :
    Action Call Outcome := do
  let reference ← Action.settle target.reference
  let token ← opener.tokens.tokenFor clock.first caller
  let metadata ← opener.stat reference token
  opener.openFound clock caller token metadata

end Opener

end EditorLaunch

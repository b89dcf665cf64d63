import EditorLaunch.Opening
import EditorLaunch.Proofs.Trace

/-!
# Where opening a file can end

Opening a file ends at the first stage that fails, at a refusal or with a link,
and at each of these places it is settled which services were asked and what
comes of it.  `Opener.Run` lists the places, and `Opener.run_iff` proves that the
list is exact.  Whatever holds of runs can then be proved by looking through it.
-/

namespace EditorLaunch

/-- Whether a call sends a request, and does not ask a service by itself. -/
def Call.isSent : Call → Bool
  | send _ => true
  | _ => false

/-- The calls of a trace that ask a service, without the requests that are sent
for them. -/
def Traced.asked (traced : Traced Call α) : List Call :=
  traced.calls.filter (!·.isSent)

/-- A target stands for a reference.  An identifier has to be decoded, and a path
is passed on as it is. -/
inductive FileTarget.Names : FileTarget → Reference → Prop where
  | encodedId {encoded : String} {id : ResourceId}
      (decoded : ResourceId.decode encoded = .ok id) :
      Names (.encodedId encoded) (.resource id)
  | path {location : String} : Names (.path location) (.path location)

theorem FileTarget.reference_eq_ok_iff {target : FileTarget} {reference : Reference} :
    target.reference = .ok reference ↔ target.Names reference := by
  constructor
  · intro named
    cases target with
    | encodedId encoded =>
        cases decoded : ResourceId.decode encoded with
        | ok id =>
            simp only [FileTarget.reference, decoded, Except.map, Except.ok.injEq] at named
            exact named ▸ .encodedId decoded
        | error failure => simp [FileTarget.reference, decoded, Except.map] at named
    | path location =>
        simp only [FileTarget.reference, Except.ok.injEq] at named
        exact named ▸ .path
  · intro named
    cases named with
    | encodedId decoded => simp [FileTarget.reference, decoded, Except.map]
    | path => rfl

namespace Traced

@[simp]
theorem asked_mapCalls_send (traced : Traced Outgoing α) :
    (traced.mapCalls Call.send).asked = [] := by
  simp [asked, Call.isSent]

end Traced

namespace Action

/-- The services that a computation asks, and what comes of it. -/
def observed (action : Action Call α) : List Call × Except Failure α :=
  (action.run.asked, action.run.result)

theorem observed_bind_of_ok {action : Action Call α} {calls : List Call} {value : α}
    (next : α → Action Call β) (succeeded : action.observed = (calls, .ok value)) :
    (action >>= next).observed =
      (calls ++ (next value).observed.1, (next value).observed.2) := by
  obtain ⟨rfl, resultEq⟩ := Prod.mk.inj succeeded
  refine Prod.ext ?_ ?_
  · simp only [observed, Traced.asked, calls_bind_of_ok next resultEq,
      List.filter_append]
  · simp only [observed, run_bind_of_ok next resultEq]

theorem observed_bind_of_error {action : Action Call α} {calls : List Call}
    {failure : Failure} (next : α → Action Call β)
    (failed : action.observed = (calls, .error failure)) :
    (action >>= next).observed = (calls, .error failure) := by
  obtain ⟨rfl, resultEq⟩ := Prod.mk.inj failed
  refine Prod.ext ?_ ?_
  · simp only [observed, Traced.asked, calls_bind_of_error next resultEq]
  · simp only [observed, run_bind_of_error next resultEq]

@[simp]
theorem observed_pure (value : α) :
    (pure value : Action Call α).observed = ([], .ok value) :=
  rfl

@[simp]
theorem observed_settle (outcome : Except Failure α) :
    (settle outcome : Action Call α).observed = ([], outcome) :=
  rfl

@[simp]
theorem observed_log (level : Level) (message : String) :
    (log level message : Action Call Unit).observed = ([], .ok ()) :=
  rfl

/-- Asking a service is one call, whatever the service sends for it. -/
theorem observed_start_relay (call : Call) (isService : call.isSent = false)
    (relayed : Action Outgoing α) :
    (start call >>= fun _ => relayed.mapCalls Call.send).observed =
      ([call], relayed.run.result) := by
  have started : (start call).observed = ([call], .ok ()) := by
    simp [observed, start, ExceptT.lift, Traced.start, Traced.asked, Traced.calls,
      ExceptT.run, ExceptT.mk, Functor.map, isService]
  rw [observed_bind_of_ok _ started]
  simp [observed, mapCalls, ExceptT.run, ExceptT.mk]

end Action

theorem TokenSource.onlyLogs_tokenFor (source : TokenSource) (now : Instant)
    (caller : Caller) : (source.tokenFor now caller : Action κ String).run.OnlyLogs := by
  cases source with
  | minted secret lifetime =>
      exact Action.onlyLogs_bind (Action.onlyLogs_log _ _) fun _ => Action.onlyLogs_pure _
  | forwarded =>
      simp only [TokenSource.tokenFor]
      split
      · exact Action.onlyLogs_pure _
      · exact Action.onlyLogs_throw _

theorem TokenSource.calls_tokenFor (source : TokenSource) (now : Instant) (caller : Caller) :
    (source.tokenFor now caller : Action κ String).run.calls = [] :=
  (source.onlyLogs_tokenFor now caller).calls_eq

theorem TokenSource.observed_tokenFor (source : TokenSource) (now : Instant)
    (caller : Caller) :
    (source.tokenFor now caller : Action Call String).observed =
      ([], (source.tokenFor (κ := Call) now caller).run.result) := by
  simp [Action.observed, Traced.asked, source.calls_tokenFor now caller]

namespace Opener

variable {opener : Opener} {clock : Clock} {target : FileTarget} {caller : Caller}

/-- A reference and a token are there to look the file up with. -/
structure Asks (opener : Opener) (clock : Clock) (target : FileTarget) (caller : Caller)
    (reference : Reference) (token : String) : Prop where
  named : target.Names reference
  granted : (opener.tokens.tokenFor (κ := Call) clock.first caller).run.result = .ok token

/-- The gateway answers with metadata. -/
structure Finds (opener : Opener) (clock : Clock) (target : FileTarget) (caller : Caller)
    (reference : Reference) (token : String) (metadata : Metadata) : Prop
    extends Asks opener clock target caller reference token where
  found : (opener.backend.stat reference token).run.result = .ok metadata

/-- The resource is a file that may be opened. -/
structure Admits (opener : Opener) (clock : Clock) (target : FileTarget) (caller : Caller)
    (reference : Reference) (token : String) (metadata : Metadata) (mode : ViewMode)
    (kind : EditorKind) : Prop
    extends Finds opener clock target caller reference token metadata where
  file : metadata.kind = .file
  allowed : metadata.decide = .allowed mode kind

/-- The catalogue arrives and has an address of the kind of editor under the
extension of the file. -/
structure Offers (opener : Opener) (clock : Clock) (target : FileTarget) (caller : Caller)
    (reference : Reference) (token : String) (metadata : Metadata) (mode : ViewMode)
    (kind : EditorKind) (catalogue : Catalogue) (address : String) : Prop
    extends Admits opener clock target caller reference token metadata mode kind where
  listed : opener.backend.fetchCatalogue.run.result = .ok catalogue
  offered : ∃ addresses, catalogue.find? metadata.extension = some addresses ∧
    addresses.address kind = address ∧ address ≠ ""

/-- The services that a run asks and what comes of it, by the place where it ends:
at the first stage that fails, at a refusal, or with a link. -/
inductive Run (opener : Opener) (clock : Clock) (target : FileTarget) (caller : Caller) :
    List Call → Except Failure Outcome → Prop where
  | withoutReference {failure} (failed : target.reference = .error failure) :
      Run opener clock target caller [] (.error failure)
  | withoutToken {failure} (named : target.Names reference)
      (failed :
        (opener.tokens.tokenFor (κ := Call) clock.first caller).run.result = .error failure) :
      Run opener clock target caller [] (.error failure)
  | withoutMetadata {failure} (asks : opener.Asks clock target caller reference token)
      (failed : (opener.backend.stat reference token).run.result = .error failure) :
      Run opener clock target caller [.stat reference token] (.error failure)
  | withoutFile {failure} (finds : opener.Finds clock target caller reference token metadata)
      (failed : metadata.ensureFile = .error failure) :
      Run opener clock target caller [.stat reference token] (.error failure)
  | denied (finds : opener.Finds clock target caller reference token metadata)
      (file : metadata.kind = .file) (refused : metadata.decide = .denied reason) :
      Run opener clock target caller [.stat reference token] (.ok (.denied reason))
  | withoutCatalogue {failure}
      (admits : opener.Admits clock target caller reference token metadata mode kind)
      (failed : opener.backend.fetchCatalogue.run.result = .error failure) :
      Run opener clock target caller [.stat reference token, .fetchCatalogue]
        (.error failure)
  | withoutEditor {failure}
      (admits : opener.Admits clock target caller reference token metadata mode kind)
      (listed : opener.backend.fetchCatalogue.run.result = .ok catalogue)
      (failed : editorAddress catalogue metadata kind = .error failure) :
      Run opener clock target caller [.stat reference token, .fetchCatalogue]
        (.error failure)
  | withoutSession {failure}
      (offers : opener.Offers clock target caller reference token metadata mode kind
        catalogue address)
      (failed : (opener.backend.openSession
        (sessionRequest metadata mode caller) token).run.result = .error failure) :
      Run opener clock target caller
        [.stat reference token, .fetchCatalogue,
          .openSession (sessionRequest metadata mode caller) token]
        (.error failure)
  | withoutLink {failure}
      (offers : opener.Offers clock target caller reference token metadata mode kind
        catalogue address)
      (opened : (opener.backend.openSession
        (sessionRequest metadata mode caller) token).run.result = .ok handle)
      (failed : EditorLink.assemble address handle opener.lifetime
        clock.second.milliseconds = .error failure) :
      Run opener clock target caller
        [.stat reference token, .fetchCatalogue,
          .openSession (sessionRequest metadata mode caller) token]
        (.error failure)
  | opened
      (offers : opener.Offers clock target caller reference token metadata mode kind
        catalogue address)
      (opened : (opener.backend.openSession
        (sessionRequest metadata mode caller) token).run.result = .ok handle)
      (linked : EditorLink.assemble address handle opener.lifetime
        clock.second.milliseconds = .ok link) :
      Run opener clock target caller
        [.stat reference token, .fetchCatalogue,
          .openSession (sessionRequest metadata mode caller) token]
        (.ok (.opened link))

theorem observed_stat (opener : Opener) (reference : Reference) (token : String) :
    (opener.stat reference token).observed =
      ([.stat reference token], (opener.backend.stat reference token).run.result) :=
  Action.observed_start_relay _ rfl _

theorem observed_fetchCatalogue (opener : Opener) :
    opener.fetchCatalogue.observed =
      ([.fetchCatalogue], opener.backend.fetchCatalogue.run.result) :=
  Action.observed_start_relay _ rfl _

theorem observed_openSession (opener : Opener) (request : SessionRequest)
    (token : String) :
    (opener.openSession request token).observed =
      ([.openSession request token],
        (opener.backend.openSession request token).run.result) :=
  Action.observed_start_relay _ rfl _

theorem editorAddress_eq_ok_iff {catalogue : Catalogue} {metadata : Metadata}
    {kind : EditorKind} {address : String} :
    editorAddress catalogue metadata kind = .ok address ↔
      ∃ addresses, catalogue.find? metadata.extension = some addresses ∧
        addresses.address kind = address ∧ address ≠ "" := by
  simp only [editorAddress, Catalogue.address?]
  cases found : catalogue.find? metadata.extension with
  | none => simp
  | some addresses =>
      by_cases isEmpty : addresses.address kind = ""
      · constructor
        · simp [Option.filter, isEmpty]
        · rintro ⟨_, ⟨⟩, rfl, nonempty⟩
          exact absurd isEmpty nonempty
      · constructor
        · intro chosen
          simp [Option.filter, isEmpty] at chosen
          exact ⟨addresses, rfl, chosen, chosen ▸ isEmpty⟩
        · rintro ⟨_, ⟨⟩, rfl, _⟩
          simp [Option.filter, isEmpty]

theorem observed_openFile_of_named {reference : Reference} (named : target.Names reference) :
    (opener.openFile clock target caller).observed =
      (opener.tokens.tokenFor clock.first caller >>= fun token =>
        opener.stat reference token >>= opener.openFound clock caller token).observed := by
  have decoded : (Action.settle target.reference : Action Call Reference).observed =
      ([], .ok reference) := by
    rw [Action.observed_settle, FileTarget.reference_eq_ok_iff.mpr named]
  rw [openFile, Action.observed_bind_of_ok _ decoded]
  rfl

theorem observed_openFile_of_asks {reference : Reference} {token : String}
    (asks : opener.Asks clock target caller reference token) :
    (opener.openFile clock target caller).observed =
      (opener.stat reference token >>= opener.openFound clock caller token).observed := by
  have granted : (opener.tokens.tokenFor clock.first caller : Action Call String).observed =
      ([], .ok token) := by
    rw [TokenSource.observed_tokenFor, asks.granted]
  rw [observed_openFile_of_named asks.named, Action.observed_bind_of_ok _ granted]
  rfl

/-- Once the gateway has answered, a run goes on without the target. -/
theorem observed_openFile_of_finds {reference : Reference} {token : String}
    {metadata : Metadata}
    (finds : opener.Finds clock target caller reference token metadata) :
    (opener.openFile clock target caller).observed =
      (.stat reference token :: (opener.openFound clock caller token metadata).observed.1,
        (opener.openFound clock caller token metadata).observed.2) := by
  have answered : (opener.stat reference token).observed =
      ([.stat reference token], .ok metadata) := by
    rw [observed_stat, finds.found]
  rw [observed_openFile_of_asks finds.toAsks, Action.observed_bind_of_ok _ answered]
  rfl

theorem observed_openFound_of_file {token : String} {metadata : Metadata}
    (file : metadata.kind = .file) :
    (opener.openFound clock caller token metadata).observed =
      match metadata.decide with
      | .denied reason => ([], .ok (.denied reason))
      | .allowed mode kind =>
          (opener.launch clock caller token metadata mode kind).observed := by
  have isFile : (Action.settle metadata.ensureFile : Action Call Unit).observed =
      ([], .ok ()) := by
    simp [Metadata.ensureFile, file]
  rw [openFound, Action.observed_bind_of_ok _ isFile]
  cases metadata.decide with
  | denied reason => rfl
  | allowed mode kind => rfl

theorem observed_launch_of_listed {token : String} {metadata : Metadata}
    {mode : ViewMode} {kind : EditorKind} {catalogue : Catalogue}
    (listed : opener.backend.fetchCatalogue.run.result = .ok catalogue) :
    (opener.launch clock caller token metadata mode kind).observed =
      (.fetchCatalogue :: (Action.settle (editorAddress catalogue metadata kind) >>=
          opener.connect clock caller token metadata mode).observed.1,
        (Action.settle (editorAddress catalogue metadata kind) >>=
          opener.connect clock caller token metadata mode).observed.2) := by
  have answered : opener.fetchCatalogue.observed = ([.fetchCatalogue], .ok catalogue) := by
    rw [observed_fetchCatalogue, listed]
  rw [launch, Action.observed_bind_of_ok _ (Action.observed_log _ _),
    Action.observed_bind_of_ok _ answered]
  rfl

theorem observed_openFile_of_admits {reference : Reference} {token : String}
    {metadata : Metadata} {mode : ViewMode} {kind : EditorKind}
    (admits : opener.Admits clock target caller reference token metadata mode kind) :
    (opener.openFile clock target caller).observed =
      (.stat reference token ::
          (opener.launch clock caller token metadata mode kind).observed.1,
        (opener.launch clock caller token metadata mode kind).observed.2) := by
  rw [observed_openFile_of_finds admits.toFinds, observed_openFound_of_file admits.file,
    admits.allowed]

theorem observed_openFile_of_offers {reference : Reference} {token : String}
    {metadata : Metadata} {mode : ViewMode} {kind : EditorKind} {catalogue : Catalogue}
    {address : String}
    (offers : opener.Offers clock target caller reference token metadata mode kind
      catalogue address) :
    (opener.openFile clock target caller).observed =
      (.stat reference token :: .fetchCatalogue ::
          (opener.connect clock caller token metadata mode address).observed.1,
        (opener.connect clock caller token metadata mode address).observed.2) := by
  have chosen : (Action.settle (editorAddress catalogue metadata kind) :
      Action Call String).observed = ([], .ok address) := by
    rw [Action.observed_settle, editorAddress_eq_ok_iff.mpr offers.offered]
  rw [observed_openFile_of_admits offers.toAdmits, observed_launch_of_listed offers.listed,
    Action.observed_bind_of_ok _ chosen]
  rfl

/-- What the list says about a place is what opening the file does there. -/
theorem Run.observed_eq {calls : List Call} {outcome : Except Failure Outcome}
    (run : opener.Run clock target caller calls outcome) :
    (opener.openFile clock target caller).observed = (calls, outcome) := by
  cases run with
  | withoutReference failed =>
      rw [openFile, Action.observed_bind_of_error _ (by rw [Action.observed_settle, failed])]
  | withoutToken named failed =>
      rw [observed_openFile_of_named named,
        Action.observed_bind_of_error _ (by rw [TokenSource.observed_tokenFor, failed])]
  | withoutMetadata asks failed =>
      rw [observed_openFile_of_asks asks,
        Action.observed_bind_of_error _ (by rw [observed_stat, failed])]
  | withoutFile finds failed =>
      rw [observed_openFile_of_finds finds, openFound,
        Action.observed_bind_of_error _ (by rw [Action.observed_settle, failed])]
  | denied finds file refused =>
      rw [observed_openFile_of_finds finds, observed_openFound_of_file file, refused]
  | withoutCatalogue admits failed =>
      rw [observed_openFile_of_admits admits, launch,
        Action.observed_bind_of_ok _ (Action.observed_log _ _),
        Action.observed_bind_of_error _ (by rw [observed_fetchCatalogue, failed])]
      rfl
  | withoutEditor admits listed failed =>
      rw [observed_openFile_of_admits admits, observed_launch_of_listed listed,
        Action.observed_bind_of_error _ (by rw [Action.observed_settle, failed])]
  | withoutSession offers failed =>
      rw [observed_openFile_of_offers offers, connect,
        Action.observed_bind_of_error _ (by rw [observed_openSession, failed])]
  | withoutLink offers opened failed =>
      rw [observed_openFile_of_offers offers, connect,
        Action.observed_bind_of_ok _ (by rw [observed_openSession, opened]),
        Action.observed_bind_of_error _ (by rw [Action.observed_settle, failed])]
      rfl
  | opened offers opened linked =>
      rw [observed_openFile_of_offers offers, connect,
        Action.observed_bind_of_ok _ (by rw [observed_openSession, opened]),
        Action.observed_bind_of_ok _ (by rw [Action.observed_settle, linked])]
      rfl

/-- Behind an address of an editor, only the bridge and the link can still fail. -/
theorem exists_run_of_offers {reference : Reference} {token : String}
    {metadata : Metadata} {mode : ViewMode} {kind : EditorKind} {catalogue : Catalogue}
    {address : String}
    (offers : opener.Offers clock target caller reference token metadata mode kind
      catalogue address) :
    ∃ calls outcome, opener.Run clock target caller calls outcome := by
  cases session : (opener.backend.openSession
      (sessionRequest metadata mode caller) token).run.result with
  | error failure => exact ⟨_, _, .withoutSession offers session⟩
  | ok handle =>
      cases linked : EditorLink.assemble address handle opener.lifetime
          clock.second.milliseconds with
      | error failure => exact ⟨_, _, .withoutLink offers session linked⟩
      | ok link => exact ⟨_, _, .opened offers session linked⟩

theorem exists_run_of_admits {reference : Reference} {token : String}
    {metadata : Metadata} {mode : ViewMode} {kind : EditorKind}
    (admits : opener.Admits clock target caller reference token metadata mode kind) :
    ∃ calls outcome, opener.Run clock target caller calls outcome := by
  cases listed : opener.backend.fetchCatalogue.run.result with
  | error failure => exact ⟨_, _, .withoutCatalogue admits listed⟩
  | ok catalogue =>
      cases chosen : editorAddress catalogue metadata kind with
      | error failure => exact ⟨_, _, .withoutEditor admits listed chosen⟩
      | ok address =>
          exact exists_run_of_offers
            ⟨admits, listed, editorAddress_eq_ok_iff.mp chosen⟩

theorem exists_run_of_finds {reference : Reference} {token : String}
    {metadata : Metadata}
    (finds : opener.Finds clock target caller reference token metadata) :
    ∃ calls outcome, opener.Run clock target caller calls outcome := by
  by_cases file : metadata.kind = .file
  · cases decision : metadata.decide with
    | denied reason => exact ⟨_, _, .denied finds file decision⟩
    | allowed mode kind => exact exists_run_of_admits ⟨finds, file, decision⟩
  · exact ⟨_, _, .withoutFile finds (if_neg file)⟩

/-- A run ends at one of the places where runs can end. -/
theorem exists_run (opener : Opener) (clock : Clock) (target : FileTarget) (caller : Caller) :
    ∃ calls outcome, opener.Run clock target caller calls outcome := by
  cases decoded : target.reference with
  | error failure => exact ⟨_, _, .withoutReference decoded⟩
  | ok reference =>
      have named : target.Names reference := FileTarget.reference_eq_ok_iff.mp decoded
      cases granted : (opener.tokens.tokenFor (κ := Call) clock.first caller).run.result with
      | error failure => exact ⟨_, _, .withoutToken named granted⟩
      | ok token =>
          cases found : (opener.backend.stat reference token).run.result with
          | error failure => exact ⟨_, _, .withoutMetadata ⟨named, granted⟩ found⟩
          | ok metadata => exact exists_run_of_finds ⟨⟨named, granted⟩, found⟩

/-- The list of places is exact: it tells what is asked and what comes of it. -/
theorem run_iff {calls : List Call} {outcome : Except Failure Outcome} :
    opener.Run clock target caller calls outcome ↔
      (opener.openFile clock target caller).observed = (calls, outcome) := by
  constructor
  · exact Run.observed_eq
  · intro observed
    obtain ⟨actualCalls, actualOutcome, run⟩ := exists_run opener clock target caller
    have same : (actualCalls, actualOutcome) = (calls, outcome) :=
      run.observed_eq.symm.trans observed
    obtain ⟨rfl, rfl⟩ := Prod.mk.inj same
    exact run

end Opener

end EditorLaunch

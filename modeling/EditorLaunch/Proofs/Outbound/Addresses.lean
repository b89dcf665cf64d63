import EditorLaunch.Outbound.Network
import EditorLaunch.Proofs.Http.Admission
import EditorLaunch.Proofs.Outbound.Building
import EditorLaunch.Proofs.Settings.Workable
import EditorLaunch.Proofs.Url.Blanks

/-!
# Where outbound calls go

Settings name an address for each of the other services, and every call puts its path
behind the text of one.  Validation makes sure that the text is an address, but not that
paths can stand behind it.  Where they can, every call goes to the same host, below the
path of the address; what else is accepted makes calls fail, or leads them elsewhere.
-/

namespace EditorLaunch

namespace Outbound

/-- The calls to other services. -/
inductive Endpoint where
  | stat
  | catalogue
  | session
deriving DecidableEq, Repr

namespace Endpoint

/-- The configured address of the service that is called. -/
def service (settings : Settings) : Endpoint → String
  | stat => settings.gateway.address
  | catalogue => settings.bridge.host
  | session => settings.bridge.host

def path : Endpoint → String
  | stat => GatewayClient.statPath
  | catalogue => BridgeClient.cataloguePath
  | session => BridgeClient.sessionPath

/-- The address that is called. -/
def address (settings : Settings) (endpoint : Endpoint) : String :=
  trimAddress (endpoint.service settings) ++ endpoint.path

/-- What clients with these settings draft for a call. -/
inductive Drafts (settings : Settings) : Endpoint → Draft → Prop where
  | stat {client : GatewayClient} (reference : Reference) (token : String)
      (configured : client.address = settings.gateway.address) :
      Drafts settings .stat (client.statDraft reference token)
  | catalogue {client : BridgeClient} (configured : client.host = settings.bridge.host) :
      Drafts settings .catalogue client.catalogueDraft
  | session {client : BridgeClient} (request : SessionRequest) (token : String)
      (configured : client.host = settings.bridge.host) :
      Drafts settings .session (client.sessionDraft request token)

theorem Drafts.address_eq {settings : Settings} {endpoint : Endpoint} {draft : Draft}
    (drafts : endpoint.Drafts settings draft) : draft.address = endpoint.address settings := by
  cases drafts with
  | stat reference token configured =>
      rw [address, service, ← configured]
      rfl
  | catalogue configured =>
      rw [address, service, ← configured]
      rfl
  | session request token configured =>
      rw [address, service, ← configured]
      rfl

theorem isTail_path (endpoint : Endpoint) : Url.IsTail endpoint.path.toList := by
  have plain : ∀ letter ∈ endpoint.path.toList, Url.isTrimmed letter = false := by
    have noneTrimmed : endpoint.path.toList.all (!Url.isTrimmed ·) = true := by
      cases endpoint <;> decide
    simpa using noneTrimmed
  have unmarked : Url.Unmarked endpoint.path.toList := by
    cases endpoint <;> decide
  refine ⟨?_, plain, unmarked⟩
  cases endpoint <;> rfl

theorem exists_plain_path (endpoint : Endpoint) :
    ∃ tail, endpoint.path.toList = '/' :: tail ∧ Url.IsPlain tail := by
  have named {name : List Char} (isName : Percent.encode Percent.escapedInPath name = name ∧
      Url.isBack name = false ∧ Url.isHere name = false) : Url.IsName name :=
    ⟨isName.1, isName.2.1, isName.2.2⟩
  refine ⟨endpoint.path.toList.tail, ?_, ?_, fun name member => named ?_⟩
  · cases endpoint <;> rfl
  · cases endpoint <;> decide
  · revert name
    cases endpoint <;> decide +kernel

end Endpoint

/-- A call stays below a service: it is spoken, the scheme, the host and the port are those
of the service, and its path is that of the service, less the slashes at its end, with
its own behind it. -/
structure StaysBelow (url : Url) (path : List Char) (called : Url) : Prop where
  spoken : isSpoken called = true
  scheme : called.scheme = url.scheme
  host : called.authority.map Authority.host = url.authority.map Authority.host
  port : called.authority.map Authority.port = url.authority.map Authority.port
  noQuery : called.query = none
  noFragment : called.fragment = none
  path : called.path = .rooted (trimEndWhile (· == '/') url.path.letters ++ path)

instance (url : Url) (path : List Char) (called : Url) : Decidable (StaysBelow url path called) :=
  decidable_of_iff
    (isSpoken called = true ∧ called.scheme = url.scheme ∧
      called.authority.map Authority.host = url.authority.map Authority.host ∧
      called.authority.map Authority.port = url.authority.map Authority.port ∧
      called.query = none ∧ called.fragment = none ∧
      called.path = .rooted (trimEndWhile (· == '/') url.path.letters ++ path))
    ⟨fun ⟨spoken, scheme, host, port, noQuery, noFragment, pathEq⟩ =>
        ⟨spoken, scheme, host, port, noQuery, noFragment, pathEq⟩,
      fun below => ⟨below.spoken, below.scheme, below.host, below.port, below.noQuery,
        below.noFragment, below.path⟩⟩

/-- A call goes to an address, and stays below its service. -/
def Endpoint.Arrives (settings : Settings) (endpoint : Endpoint) : Prop :=
  ∃ url called, Url.parse (endpoint.service settings) = .ok url ∧
    Url.parse (endpoint.address settings) = .ok called ∧
    StaysBelow url endpoint.path.toList called

instance (settings : Settings) (endpoint : Endpoint) : Decidable (endpoint.Arrives settings) :=
  match reads : Url.parse (endpoint.service settings),
      parsed : Url.parse (endpoint.address settings) with
  | .ok url, .ok called =>
      decidable_of_iff (StaysBelow url endpoint.path.toList called)
        ⟨fun below => ⟨url, called, reads, parsed, below⟩, by
          rintro ⟨other, otherCalled, otherReads, otherParsed, below⟩
          obtain rfl := Except.ok.inj (reads.symm.trans otherReads)
          obtain rfl := Except.ok.inj (parsed.symm.trans otherParsed)
          exact below⟩
  | .ok _, .error _ => isFalse fun ⟨_, _, _, otherParsed, _⟩ => by
      rw [parsed] at otherParsed
      cases otherParsed
  | .error _, _ => isFalse fun ⟨_, _, otherReads, _, _⟩ => by
      rw [reads] at otherReads
      cases otherReads

/-- No blanks are cut off at the end of an address. -/
def EndsPlainly (address : String) : Prop :=
  Url.relevant address.toList = Url.begun address.toList

/-- An address that paths can stand behind: it is spoken, has neither a query nor a
fragment, and with one slash behind its text it does not end with two. -/
structure Extensible (address : String) (url : Url) : Prop where
  spoken : isSpoken url = true
  noQuery : url.query = none
  noFragment : url.fragment = none
  single : ∀ slashed, Url.parse (trimAddress address ++ "/") = .ok slashed →
    ¬ ['/', '/'] <:+ slashed.path.letters

theorem isTail_slash : Url.IsTail "/".toList :=
  ⟨rfl, List.forall_mem_singleton.mpr rfl, by decide⟩

section

variable {address path : String} {url : Url} {tail : List Char}

/-- Behind an address without a query and a fragment, a path stands where the slashes at
its end were, if there are no others. -/
theorem exists_parse_append (reads : Url.parse address = .ok url) (plainEnd : EndsPlainly address)
    (spoken : isSpoken url = true) (noQuery : url.query = none) (noFragment : url.fragment = none)
    (isTail : Url.IsTail path.toList) (starts : path.toList = '/' :: tail)
    (plain : Url.IsPlain tail) :
    ∃ letters, Url.parse (trimAddress address ++ path) =
        .ok ⟨url.scheme, url.authority, .rooted letters, none, none⟩ ∧
      (letters = trimEndWhile (· == '/') url.path.letters ++ path.toList ↔
        Extensible address url) := by
  obtain ⟨outside, slashes, stops, onlySlashes, urlEq, parses⟩ :=
    Url.parse_append reads (common_of_isSpoken spoken) plainEnd
  rw [urlEq] at noQuery noFragment
  have unmarked := Url.unmarked_of_finish noQuery noFragment
  have outsideUnmarked := (Url.unmarked_append.mp unmarked).1
  have begins := Url.begins_of_stops stops outsideUnmarked
  rw [Url.finish_of_unmarked unmarked] at urlEq
  have pathEq : url.path.letters = Url.readPath .common (outside ++ slashes) := by
    rw [urlEq]
    rfl
  have read {path : String} (isTail : Url.IsTail path.toList) :
      Url.parse (trimAddress address ++ path) = .ok ⟨url.scheme, url.authority,
        .rooted (Url.readPath .common (outside ++ path.toList)), none, none⟩ := by
    rw [parses path isTail, Url.finish_of_unmarked
      (Url.unmarked_append.mpr ⟨outsideUnmarked, isTail.unmarked⟩)]
  refine ⟨_, read isTail, ?_⟩
  rw [pathEq, starts, Url.readPath_keeps_iff begins onlySlashes plain]
  constructor
  · intro noTwo
    refine ⟨spoken, congrArg Url.query urlEq, congrArg Url.fragment urlEq, ?_⟩
    intro slashed slashedEq
    rw [read isTail_slash] at slashedEq
    obtain rfl := Except.ok.inj slashedEq
    exact noTwo
  · intro extensible
    exact extensible.single _ (read isTail_slash)

/-- A path stays below an address exactly where the address lets it. -/
theorem staysBelow_iff (reads : Url.parse address = .ok url) (isTail : Url.IsTail path.toList)
    (starts : path.toList = '/' :: tail) (plain : Url.IsPlain tail) :
    (∃ called, Url.parse (trimAddress address ++ path) = .ok called ∧
        StaysBelow url path.toList called) ↔
      EndsPlainly address ∧ Extensible address url := by
  constructor
  · rintro ⟨called, parsed, staysBelow⟩
    have spoken : isSpoken url = true := by
      rw [isSpoken, ← staysBelow.scheme]
      exact staysBelow.spoken
    have common := common_of_isSpoken spoken
    have plainEnd : EndsPlainly address := by
      by_contra cutOff
      exact Url.path_ne_of_blanks reads common cutOff isTail starts plain parsed
        staysBelow.noQuery staysBelow.noFragment staysBelow.path
    obtain ⟨noQuery, noFragment⟩ : url.query = none ∧ url.fragment = none := by
      obtain ⟨outside, slashes, -, onlySlashes, urlEq, parses⟩ :=
        Url.parse_append reads common plainEnd
      rw [parses path isTail] at parsed
      obtain rfl := Except.ok.inj parsed
      have unmarked := Url.unmarked_of_finish staysBelow.noQuery staysBelow.noFragment
      have outsideUnmarked := (Url.unmarked_append.mp unmarked).1
      rw [urlEq, Url.finish_of_unmarked
        (Url.unmarked_append.mpr ⟨outsideUnmarked, Url.unmarked_of_slashes onlySlashes⟩)]
      exact ⟨rfl, rfl⟩
    obtain ⟨letters, longer, keepsIff⟩ :=
      exists_parse_append reads plainEnd spoken noQuery noFragment isTail starts plain
    rw [longer] at parsed
    obtain rfl := Except.ok.inj parsed
    exact ⟨plainEnd, keepsIff.mp (UrlPath.rooted.inj staysBelow.path)⟩
  · rintro ⟨plainEnd, extensible⟩
    obtain ⟨letters, longer, keepsIff⟩ := exists_parse_append reads plainEnd extensible.spoken
      extensible.noQuery extensible.noFragment isTail starts plain
    refine ⟨_, longer, extensible.spoken, rfl, rfl, rfl, rfl, rfl, ?_⟩
    exact congrArg UrlPath.rooted (keepsIff.mpr extensible)

end

/-- Settings that pass validation name addresses.  The calls of a service stay below its
address exactly where paths can stand behind it: no blanks are cut off at its end, it is
spoken, has neither a query nor a fragment and ends with no slash that stays.  A call
that stays below its service goes to the host of this, and unless a header is refused it
is requested, whatever it asks for, exactly if a request can carry that host and the
address is not too long. -/
theorem calls_stay_below_addresses {settings : Settings} (valid : settings.validate = .ok ())
    (endpoint : Endpoint) :
    ∃ url, Url.parse (endpoint.service settings) = .ok url ∧
      (endpoint.Arrives settings ↔
        EndsPlainly (endpoint.service settings) ∧
          Extensible (endpoint.service settings) url) ∧
      ∀ called, Url.parse (endpoint.address settings) = .ok called →
        StaysBelow url endpoint.path.toList called →
          ∀ draft, endpoint.Drafts settings draft →
            (∀ header ∈ draft.headers, isHeaderValue header.2 = true) →
              (draft.sentTo called).path = called.path ∧
              (draft.sentTo called).authority.map Authority.host =
                url.authority.map Authority.host ∧
              draft.build =
                if Requestable (draft.sentTo called) then
                  .ok ⟨draft.method, (draft.sentTo called).text,
                    credentialHeaders called ++ draft.headers, draft.body⟩
                else .error (.unbuildable (some (draft.sentTo called).text)) := by
  have workable := Settings.workable_of_validate valid
  obtain ⟨gatewayUrl, gateway⟩ := workable.gatewayAddress
  obtain ⟨bridgeUrl, bridge⟩ := workable.bridgeAddress
  obtain ⟨url, reads⟩ : ∃ url, Url.parse (endpoint.service settings) = .ok url := by
    cases endpoint with
    | stat => exact ⟨gatewayUrl, gateway⟩
    | catalogue => exact ⟨bridgeUrl, bridge⟩
    | session => exact ⟨bridgeUrl, bridge⟩
  obtain ⟨tail, starts, plain⟩ := endpoint.exists_plain_path
  refine ⟨url, reads, ?_, ?_⟩
  · rw [← staysBelow_iff reads endpoint.isTail_path starts plain]
    constructor
    · rintro ⟨other, called, otherReads, parsed, below⟩
      obtain rfl := Except.ok.inj (reads.symm.trans otherReads)
      exact ⟨called, parsed, below⟩
    · rintro ⟨called, parsed, below⟩
      exact ⟨url, called, reads, parsed, below⟩
  · intro called parsed below draft drafts headersFit
    rw [← drafts.address_eq] at parsed
    exact ⟨sentUrl_path called, (host_sentTo draft called).trans below.host,
      build_of_spoken parsed below.spoken below.noQuery below.noFragment headersFit⟩

/-- Settings with both services at one address. -/
def servedAt (address : String) : Settings where
  auth := { mode := .forward }
  bridge := { host := address }
  gateway := { address }

theorem validate_servedAt {address : String} (noBlank : isBlankText address = false)
    (accepted : isAddress address = true) : (servedAt address).validate = .ok () := by
  have steady : ¬ (servedAt address).retry.multiplier < 1.0 := by
    change ¬ (servedAt "").retry.multiplier < 1.0
    decide
  have budget : ¬ (servedAt address).web.requestTimeout.nanoseconds ≤
      (servedAt address).outboundBudget.nanoseconds := by
    change ¬ (servedAt "").web.requestTimeout.nanoseconds ≤
      (servedAt "").outboundBudget.nanoseconds
    decide +kernel
  have bridge : isBlankText (servedAt address).bridge.host = false := noBlank
  have bridgeReads : isAddress (servedAt address).bridge.host = true := accepted
  have gatewayReads : isAddress (servedAt address).gateway.address = true := accepted
  unfold Settings.validate
  rw [bridge, bridgeReads, gatewayReads, decide_eq_false steady, decide_eq_false budget]
  rfl

/-- Paths can stand behind an address with a path of its own, and are requested if they
are not too long. -/
theorem sessions_below_a_path :
    (servedAt "http://[::1]:8880/hub/").validate = .ok () ∧
      EndsPlainly "http://[::1]:8880/hub/" ∧
      ∃ url, Url.parse "http://[::1]:8880/hub/" = .ok url ∧
        Extensible "http://[::1]:8880/hub/" url ∧
        ∃ called, Url.parse "http://[::1]:8880/hub/wopi/iop/open" = .ok called ∧
          ∀ draft, Endpoint.session.Drafts (servedAt "http://[::1]:8880/hub/") draft →
            (∀ header ∈ draft.headers, isHeaderValue header.2 = true) →
              (draft.sentTo called).text.utf8ByteSize ≤ Http.Target.longest →
                draft.build = .ok ⟨draft.method, (draft.sentTo called).text,
                  credentialHeaders called ++ draft.headers, draft.body⟩ := by
  have valid : (servedAt "http://[::1]:8880/hub/").validate = .ok () :=
    validate_servedAt (by decide +kernel) (by decide +kernel)
  have arrives : Endpoint.session.Arrives (servedAt "http://[::1]:8880/hub/") := by
    decide +kernel
  have carried : ((Url.parse "http://[::1]:8880/hub/").toOption.all fun url =>
      (url.authority.map Authority.host).all (decide ·.FitsRequest)) = true := by
    decide +kernel
  obtain ⟨url, reads, exactly, builds⟩ := calls_stay_below_addresses valid .session
  obtain ⟨plainEnd, extensible⟩ := exactly.mp arrives
  refine ⟨valid, plainEnd, url, reads, extensible, ?_⟩
  obtain ⟨other, called, otherReads, parsed, below⟩ := arrives
  obtain rfl := Except.ok.inj (reads.symm.trans otherReads)
  refine ⟨called, parsed, fun draft drafts headersFit short => ?_⟩
  obtain ⟨-, sameHost, built⟩ := builds called parsed below draft drafts headersFit
  rw [built, if_pos]
  refine ⟨fun authority isAuthority => ?_, short⟩
  have addressRead : Url.parse "http://[::1]:8880/hub/" = .ok url := reads
  rw [addressRead] at carried
  have hostFits : (url.authority.map Authority.host).all (decide ·.FitsRequest) = true :=
    carried
  rw [← sameHost, isAuthority] at hostFits
  exact of_decide_eq_true hostFits

/-- Validation accepts addresses that no path can stand behind: a host and its port without
a scheme, other schemes, queries, fragments, blanks that are cut off, and ends that are
slashes in disguise. -/
theorem accepted_addresses_of_no_use :
    List.Forall
      (fun address => (servedAt address).validate = .ok () ∧
        ¬ Endpoint.stat.Arrives (servedAt address) ∧
        ¬ Endpoint.catalogue.Arrives (servedAt address) ∧
        ¬ Endpoint.session.Arrives (servedAt address))
      ["bridge:8880", "ftp://[::1]/", "http://[::1]/?a=1", "http://[::1]/#a",
        "http://[::1]/a ", "http://[::1]/a\\", "http://[::1]/a//."] := by
  rw [List.forall_iff_forall_mem]
  intro address member
  have accepted : isBlankText address = false ∧ isAddress address = true := by
    revert address
    decide +kernel
  refine ⟨validate_servedAt accepted.1 accepted.2, ?_⟩
  revert address
  decide +kernel

end Outbound

end EditorLaunch

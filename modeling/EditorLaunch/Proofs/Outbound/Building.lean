import EditorLaunch.Proofs.Http.Authority
import EditorLaunch.Proofs.Outbound.Sending

/-!
# Requests to addresses that are spoken

A draft names an address, and once this is read the request is put together unless a
header is refused.  Whatever is put into the query, a request can carry it, so nothing
stands in the way of one to a spoken address but its length, and four letters that the
name of a host may have.
-/

namespace EditorLaunch

namespace Outbound

/-- The headers of a user depend on the user alone. -/
theorem credentialHeaders_congr {url other : Url}
    (user : other.authority.map (fun authority => (authority.username, authority.password)) =
      url.authority.map fun authority => (authority.username, authority.password)) :
    credentialHeaders other = credentialHeaders url := by
  have same : other.authority.bind credentials? = url.authority.bind credentials? := by
    cases found : url.authority with
    | none =>
        rw [found, Option.map_none, Option.map_eq_none_iff] at user
        rw [user]
    | some authority =>
        rw [found, Option.map_some, Option.map_eq_some_iff] at user
        obtain ⟨otherAuthority, otherFound, sameUser⟩ := user
        obtain ⟨username, password⟩ := Prod.mk.inj sameUser
        rw [otherFound]
        simp only [Option.bind_some, credentials?, username, password]
  rw [credentialHeaders, credentialHeaders, same]

theorem divided_sentUrl {url : Url} (divided : url.Divided) : (sentUrl url).Divided := by
  unfold sentUrl
  split
  · exact divided
  · refine ⟨divided.scheme, ?_, divided.path⟩
    intro authority found
    obtain ⟨original, isOriginal, rfl⟩ := Option.map_eq_some_iff.mp found
    have unmarked := divided.authority original isOriginal
    rw [Authority.letters, List.append_assoc, Url.unmarked_append] at unmarked
    exact unmarked.2

theorem scheme_of_isSpoken {url : Url} (spoken : isSpoken url = true) :
    url.scheme = "http".toList ∨ url.scheme = "https".toList := by
  simpa [isSpoken] using spoken

theorem common_of_isSpoken {url : Url} (spoken : isSpoken url = true) :
    Url.SchemeKind.ofScheme url.scheme = .common := by
  rcases scheme_of_isSpoken spoken with isHttp | isHttps
  · rw [isHttp]
    decide
  · rw [isHttps]
    decide

theorem sentUrl_scheme (url : Url) : (sentUrl url).scheme = url.scheme := by
  unfold sentUrl
  split <;> rfl

theorem sentUrl_path (url : Url) : (sentUrl url).path = url.path := by
  unfold sentUrl
  split <;> rfl

theorem sentUrl_fragment (url : Url) : (sentUrl url).fragment = url.fragment := by
  unfold sentUrl
  split <;> rfl

/-- Whether an address can be requested is up to its authority and its length, whatever
its path and its query are. -/
theorem isSome_ofText?_iff {url : Url} {authority : Authority} (query : Option (List Char))
    (divided : url.Divided) (spoken : isSpoken url = true) (noFragment : url.fragment = none)
    (path : ∃ letters, url.path = .rooted (Url.readPath .common letters))
    (authorityEq : (sentUrl url).authority = some authority)
    (queryFits : ∀ letters ∈ query, ∀ letter ∈ letters,
      Http.Target.fitsQuery letter = true) :
    (Http.Target.ofText? { sentUrl url with query }.text).isSome ↔
      Http.Target.FitsAuthority authority.letters ∧
        { sentUrl url with query }.text.utf8ByteSize ≤ Http.Target.longest := by
  have sentDivided := divided_sentUrl divided
  obtain ⟨letters, pathEq⟩ := path
  obtain ⟨rest, rooted⟩ := Url.exists_readPath_eq letters
  have pathFits : ∀ letter ∈ Url.readPath .common letters,
      Http.Target.fitsPath letter = true := Http.Target.fitsPath_of_mem_readPath
  rw [rooted] at pathEq pathFits
  refine Http.Target.ofText?_isSome_iff
    ⟨sentDivided.scheme, sentDivided.authority, sentDivided.path⟩ ?_ authorityEq
    ((sentUrl_path url).trans pathEq) pathFits
    ((sentUrl_fragment url).trans noFragment) queryFits
  rw [sentUrl_scheme]
  exact scheme_of_isSpoken spoken

/-- What an address needs so that a request can be sent there: a host without the letters
that requests cannot carry, and a text that is not too long. -/
structure Requestable (url : Url) : Prop where
  host : ∀ authority ∈ url.authority, authority.host.FitsRequest
  short : url.text.utf8ByteSize ≤ Http.Target.longest

instance (url : Url) : Decidable (Requestable url) :=
  decidable_of_iff
    (url.authority.all (fun authority => decide authority.host.FitsRequest) = true ∧
      url.text.utf8ByteSize ≤ Http.Target.longest)
    (by
      simp only [Option.all_eq_true, decide_eq_true_eq]
      exact ⟨fun ⟨host, short⟩ => ⟨host, short⟩, fun ⟨host, short⟩ => ⟨host, short⟩⟩)

theorem exists_authority_sentUrl {url : Url} {authority : Authority}
    (authorityEq : url.authority = some authority) (written : authority.IsWritten) :
    ∃ sent, (sentUrl url).authority = some sent ∧ sent.IsWritten ∧
      sent.host = authority.host := by
  unfold sentUrl
  split
  · exact ⟨authority, authorityEq, written, rfl⟩
  · exact ⟨_, by rw [Url.withoutUser, authorityEq]; rfl, written.withoutUser, rfl⟩

theorem fitsQuery_of_mem_extendQuery {parameters : List Form.Pair} :
    ∀ letters ∈ extendQuery none parameters, ∀ letter ∈ letters,
      Http.Target.fitsQuery letter = true := by
  intro letters isQuery letter member
  cases parameters with
  | nil => cases isQuery
  | cons parameter others =>
      obtain rfl := Option.some.inj isQuery
      exact Http.Target.fitsQuery_of_mem_encode member

/-- A spoken address without a query or a fragment can be requested with whatever
parameters, as far as its host and its length let it, unless a header is refused. -/
theorem build_of_spoken {url : Url} {draft : Draft} (parsed : Url.parse draft.address = .ok url)
    (spoken : isSpoken url = true) (noQuery : url.query = none) (noFragment : url.fragment = none)
    (headersFit : ∀ header ∈ draft.headers, isHeaderValue header.2 = true) :
    draft.build =
      if Requestable (draft.sentTo url) then
        .ok ⟨draft.method, (draft.sentTo url).text, credentialHeaders url ++ draft.headers,
          draft.body⟩
      else .error (.unbuildable (some (draft.sentTo url).text)) := by
  have common := common_of_isSpoken spoken
  obtain ⟨authority, authorityEq, hasHost⟩ := Url.exists_host_of_parse parsed common
  obtain ⟨sent, sentEq, written, -⟩ :=
    exists_authority_sentUrl authorityEq (Url.isWritten_of_parse parsed common authorityEq)
  have sendableIff := isSome_ofText?_iff (extendQuery url.query draft.parameters)
    (Url.divided_parse parsed) spoken noFragment (Url.exists_path_of_parse parsed common) sentEq
    (by
      rw [noQuery]
      exact fitsQuery_of_mem_extendQuery)
  rw [Http.Target.fitsAuthority_letters_iff written] at sendableIff
  have requestableIff : (Http.Target.ofText? (draft.sentTo url).text).isSome ↔
      Requestable (draft.sentTo url) := by
    refine sendableIff.trans ⟨fun ⟨host, short⟩ => ⟨fun other isOther => ?_, short⟩,
      fun requestable => ⟨requestable.host sent sentEq, requestable.short⟩⟩
    obtain rfl := Option.some.inj (sentEq.symm.trans isOther)
    exact host
  have hasSomeHost : Outbound.hasHost url = true := by
    rw [Outbound.hasHost, authorityEq]
    simp [hasHost]
  rw [build_of_parse parsed hasSomeHost headersFit spoken]
  simp only [requestableIff]

/-- The host of an address that can be requested itself keeps no request from its
paths. -/
theorem fitsRequest_of_isSome {url : Url} {content : String}
    (parsed : Url.parse content = .ok url) (spoken : isSpoken url = true)
    (noQuery : url.query = none) (noFragment : url.fragment = none)
    (sendable : (Http.Target.ofText? (sentUrl url).text).isSome) :
    ∀ authority ∈ url.authority, authority.host.FitsRequest := by
  intro authority authorityEq
  have common := common_of_isSpoken spoken
  obtain ⟨sent, sentEq, written, sameHost⟩ :=
    exists_authority_sentUrl authorityEq (Url.isWritten_of_parse parsed common authorityEq)
  have noQuerySent : { sentUrl url with query := none } = sentUrl url := by
    have sentQuery : (sentUrl url).query = none := by
      unfold sentUrl
      split <;> exact noQuery
    rw [← sentQuery]
  rw [← noQuerySent, isSome_ofText?_iff none (Url.divided_parse parsed) spoken noFragment
    (Url.exists_path_of_parse parsed common) sentEq (by simp),
    Http.Target.fitsAuthority_letters_iff written, sameHost] at sendable
  exact sendable.1

theorem host_sentTo (draft : Draft) (url : Url) :
    (draft.sentTo url).authority.map Authority.host = url.authority.map Authority.host := by
  change (sentUrl url).authority.map Authority.host = _
  unfold sentUrl
  split
  · rfl
  · rw [Url.withoutUser, Option.map_map]
    rfl

end Outbound

end EditorLaunch

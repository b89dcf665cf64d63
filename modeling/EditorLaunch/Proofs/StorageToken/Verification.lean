import EditorLaunch.Proofs.Http.StorageToken
import EditorLaunch.Proofs.Json.ReadBack
import EditorLaunch.Proofs.StorageToken

/-!
# Minted tokens under verification

Who shares the secret divides a token at its points, computes the code of what stands
before the last one, and reads the claims from the segment in the middle.  Every minted
token passes, and what is read is what was claimed: the two texts between points are
written forms of JSON that is read back, and names stand in it as strings, whatever
characters they have.
-/

namespace EditorLaunch

namespace Json

def asInteger? : Json → Option Int
  | .integer value => some value
  | _ => none

end Json

namespace StorageToken

/-- The octets that a segment is the unpadded form of. -/
def octets? (segment : List Char) : Option (List UInt8) :=
  if '=' ∈ segment then none
  else (Base64.decode (Utf8.ofText (String.ofList segment))).toOption

/-- The JSON in a segment. -/
def value? (segment : List Char) : Option Json := do
  let octets ← octets? segment
  let text ← Utf8.toText? octets
  Json.read? text

/-- What stands before the last point of a token. -/
def signedText (token : String) : String :=
  String.ofList (['.'].intercalate (segments token).dropLast)

/-- The algorithm and the type that a header names. -/
def header? (value : Json) : Option (String × String) := do
  match ← value.fields? ["alg", "typ"] with
  | [some algorithm, some type] => return (← algorithm.asText?, ← type.asText?)
  | _ => none

/-- What a token says to its reader. -/
structure Contents where
  issuer : String
  audience : String
  issuedAt : Int
  expiresAt : Int
  principal : Principal
  scope : Json

namespace Contents

def ofJson? (value : Json) : Option Contents := do
  match ← value.fields? ["iss", "aud", "iat", "exp", "user", "scope"] with
  | [some issuer, some audience, some issuedAt, some expiresAt, some user, some scope] =>
      match ← user.fields? ["id", "display_name"] with
      | [some userId, some displayName] =>
          let principal := ⟨← userId.asText?, ← displayName.asText?⟩
          return { issuer := ← issuer.asText?, audience := ← audience.asText?,
                   issuedAt := ← issuedAt.asInteger?, expiresAt := ← expiresAt.asInteger?,
                   principal, scope }
      | _ => none
  | _ => none

/-- What a token says that is minted for a principal.  It is valid from the second of
`now` for the seconds of its lifetime, and does not last beyond 63 bits. -/
def minted (principal : Principal) (lifetime : Duration) (now : Instant) : Contents where
  issuer := TokenClaims.issuer
  audience := TokenClaims.audience
  issuedAt := now.seconds
  expiresAt := min ((now.seconds : Int) + lifetime.seconds) (2 ^ 63 - 1)
  principal
  scope := TokenClaims.ownerScope

end Contents

/-- What a reader with the secret takes from a token, if it is genuine. -/
def verify? (secret token : String) : Option Contents :=
  match segments token with
  | [head, body, code] => do
      let (algorithm, type) ← header? (← value? head)
      guard (algorithm = "HS256" ∧ type = "JWT")
      guard (octets? code =
        some (Hmac.code (Utf8.ofText secret) (Utf8.ofText (signedText token))))
      Contents.ofJson? (← value? body)
  | _ => none

theorem octets?_text (octets : List UInt8) :
    octets? (Base64.text octets).toList = some octets := by
  rw [octets?, if_neg (Base64.equalsSign_not_mem_text octets), String.ofList_toList,
    Base64.decode_text]
  rfl

theorem value?_segment {value : Json} (writable : value.Writable) :
    value? (segment value).toList = some value := by
  rw [value?, segment, octets?_text]
  simp only [Option.bind_eq_bind, Option.bind_some, Utf8.toText?_ofText,
    Json.read?_print writable]

theorem ofJson?_toJson (claims : TokenClaims) :
    Contents.ofJson? claims.toJson = some
      { issuer := TokenClaims.issuer, audience := TokenClaims.audience,
        issuedAt := claims.issuedAt, expiresAt := claims.expiresAt,
        principal := claims.principal, scope := TokenClaims.ownerScope } := by
  rfl

theorem header?_header : header? header = some ("HS256", "JWT") := by
  rfl

theorem writable_header : Json.Writable header := by
  simp [header, Json.record, Json.text, Json.Writable, Json.WritableMembers]

theorem writable_toJson {claims : TokenClaims} (issued : Json.isWhole claims.issuedAt = true)
    (expires : Json.isWhole claims.expiresAt = true) : claims.toJson.Writable := by
  simp [TokenClaims.toJson, TokenClaims.ownerScope, Json.record, Json.text, Json.natural,
    Json.Writable, Json.WritableMembers, issued, expires]
  rfl

theorem signedText_sign (secret : String) (claims : TokenClaims) :
    signedText (sign secret claims) = signedPart claims := by
  rw [signedText, segments_sign]
  apply String.toList_injective
  simp [signedPart, List.intercalate, List.intersperse]

theorem code_ne_nil (key message : List UInt8) : Hmac.code key message ≠ [] := by
  rw [Hmac.code, Sha256.digest, Sha256.State.octets, List.flatMap_cons]
  exact nofun

theorem text_ne_nil {octets : List UInt8} (filled : octets ≠ []) :
    (Base64.text octets).toList ≠ [] := by
  intro isEmpty
  have noText : Base64.text octets = Base64.text [] := String.toList_injective isEmpty
  exact filled (Base64.text_injective noText)

theorem ofText_print_ne_nil (value : Json) : Utf8.ofText value.print ≠ [] := by
  intro isEmpty
  have noText : value.print = "" := Utf8.ofText_injective isEmpty
  obtain ⟨first, others, filled, -⟩ := Json.starts_value value
  rw [Json.print, filled] at noText
  simp at noText

/-- The seconds of the clock are far from the end of 63 bits. -/
theorem seconds_le (now : Instant) : now.seconds ≤ 8210266876799 := by
  have onCalendar := now.onCalendar
  unfold Instant.seconds
  omega

theorem isWhole_of_bounds {second : Int} (lower : -2 ^ 63 ≤ second) (upper : second < 2 ^ 63) :
    Json.isWhole second = true := by
  simp only [Json.isWhole, Bool.and_eq_true, decide_eq_true_eq]
  omega

theorem forPrincipal_writable (principal : Principal) (lifetime : Duration) (now : Instant) :
    (TokenClaims.forPrincipal principal lifetime now).toJson.Writable := by
  have early := seconds_le now
  apply writable_toJson
  · apply isWhole_of_bounds <;> simp only [TokenClaims.forPrincipal, Int.ofNat_eq_natCast] <;>
      omega
  · apply isWhole_of_bounds
    · simp only [TokenClaims.forPrincipal, TokenClaims.lastSecond, Int.ofNat_eq_natCast]
      omega
    · simp only [TokenClaims.forPrincipal, TokenClaims.lastSecond, Int.ofNat_eq_natCast]
      omega

/-- The lifetime is cut to 63 bits before it is added to the time, which makes no
difference for a time that is not negative. -/
theorem ofJson?_forPrincipal (principal : Principal) (lifetime : Duration) (now : Instant) :
    Contents.ofJson? (TokenClaims.forPrincipal principal lifetime now).toJson =
      some (.minted principal lifetime now) := by
  have sameEnd : min ((now.seconds : Int) + min (lifetime.seconds : Int) TokenClaims.lastSecond)
      TokenClaims.lastSecond = min ((now.seconds : Int) + lifetime.seconds) (2 ^ 63 - 1) := by
    unfold TokenClaims.lastSecond
    omega
  rw [ofJson?_toJson, TokenClaims.forPrincipal, Contents.minted]
  simp only [Int.ofNat_eq_natCast, sameEnd]

theorem verify?_sign (secret : String) (principal : Principal) (lifetime : Duration)
    (now : Instant) :
    verify? secret (sign secret (.forPrincipal principal lifetime now)) =
      some (.minted principal lifetime now) := by
  have writable := forPrincipal_writable principal lifetime now
  rw [verify?, segments_sign]
  simp only [value?_segment writable_header, value?_segment writable, header?_header,
    signedText_sign, signature, octets?_text, Option.bind_eq_bind, Option.bind_some,
    and_self, guard_true, ofJson?_forPrincipal]
  rfl

theorem eq_of_signedPart_eq {claims others : TokenClaims}
    (writable : claims.toJson.Writable) (otherWritable : others.toJson.Writable)
    (same : signedPart claims = signedPart others) : claims.principal = others.principal := by
  have sameBody : (segment claims.toJson).toList = (segment others.toJson).toList := by
    rw [signedPart, signedPart] at same
    exact congrArg String.toList (String.append_right_inj _ |>.mp same)
  have read := value?_segment writable
  rw [sameBody, value?_segment otherWritable] at read
  have sameContents := ofJson?_toJson claims
  rw [← Option.some.inj read, ofJson?_toJson] at sameContents
  exact (congrArg Contents.principal (Option.some.inj sameContents)).symm

/-- Minting succeeds for every caller.  The token has three segments, none of them empty,
which are unpadded written forms: a header for the algorithm, the claims for the caller,
and the code that the secret gives to the text before.  With the secret the token is
found genuine and to say exactly what was claimed; it does not end before it begins to be
valid.  Tokens of callers with different names differ in the text that is signed. -/
theorem tokenFor_minted_is_verified (now : Instant) (secret : String) (lifetime : Duration)
    (caller : Caller) :
    ∃ token,
      ((TokenSource.minted secret lifetime).tokenFor (κ := Call) now caller).run.result =
        .ok token ∧
      (∃ head body code, segments token = [head, body, code] ∧
        (∀ segment ∈ [head, body, code],
          segment ≠ [] ∧ ∃ octets, segment = (Base64.text octets).toList) ∧
        (value? head).bind header? = some ("HS256", "JWT") ∧
        (value? body).bind Contents.ofJson? =
          some (.minted caller.principal lifetime now) ∧
        octets? code =
          some (Hmac.code (Utf8.ofText secret) (Utf8.ofText (signedText token)))) ∧
      verify? secret token = some (.minted caller.principal lifetime now) ∧
      now.seconds ≤ (Contents.minted caller.principal lifetime now).expiresAt ∧
      ∀ otherSecret otherLifetime otherNow otherCaller otherToken,
        ((TokenSource.minted otherSecret otherLifetime).tokenFor (κ := Call) otherNow
          otherCaller).run.result = .ok otherToken →
        signedText token = signedText otherToken →
        caller.principal = otherCaller.principal := by
  have writable := forPrincipal_writable caller.principal lifetime now
  refine ⟨_, TokenSource.result_tokenFor_minted secret lifetime, ⟨_, _, _, segments_sign _ _,
    ?_, ?_, ?_, ?_⟩, verify?_sign secret caller.principal lifetime now, ?_, ?_⟩
  · simp only [List.mem_cons, List.not_mem_nil, or_false, forall_eq_or_imp, forall_eq]
    exact ⟨⟨text_ne_nil (ofText_print_ne_nil _), _, rfl⟩,
      ⟨text_ne_nil (ofText_print_ne_nil _), _, rfl⟩, ⟨text_ne_nil (code_ne_nil _ _), _, rfl⟩⟩
  · rw [value?_segment writable_header]
    exact header?_header
  · rw [value?_segment writable]
    exact ofJson?_forPrincipal caller.principal lifetime now
  · rw [signature, octets?_text, signedText_sign]
  · have early := seconds_le now
    simp only [Contents.minted]
    omega
  · intro otherSecret otherLifetime otherNow otherCaller otherToken minted same
    rw [TokenSource.result_tokenFor_minted] at minted
    obtain rfl := Except.ok.inj minted
    rw [signedText_sign, signedText_sign] at same
    exact eq_of_signedPart_eq writable
      (forPrincipal_writable otherCaller.principal otherLifetime otherNow) same

/-- A caller whose names have quotes, a backslash, a control character and a symbol
beyond 16 bits. -/
def oddlyNamed : Caller :=
  ⟨⟨"\"quoted\" back\\slash", "line\nbreak \x01 😀"⟩, none⟩

/-- The longest lifetime ends with the last second that 63 bits can name. -/
theorem oddlyNamed_is_verified :
    ∃ token contents,
      ((TokenSource.minted "secret" .longest).tokenFor (κ := Call) { milliseconds := 1999 }
        oddlyNamed).run.result = .ok token ∧
      verify? "secret" token = some contents ∧ contents.principal = oddlyNamed.principal ∧
      contents.issuedAt = 1 ∧ contents.expiresAt = 2 ^ 63 - 1 := by
  obtain ⟨token, minted, -, verified, -⟩ :=
    tokenFor_minted_is_verified { milliseconds := 1999 } "secret" .longest oddlyNamed
  exact ⟨token, _, minted, verified, rfl, by decide, by decide⟩

end StorageToken

end EditorLaunch

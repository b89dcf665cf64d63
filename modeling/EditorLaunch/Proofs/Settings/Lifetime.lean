import EditorLaunch.Proofs.EditorLink.Expiry
import EditorLaunch.Proofs.Settings.Workable
import EditorLaunch.Proofs.StorageToken.Verification

/-!
# Lifetimes of use

Validation asks of a lifetime that it is not zero.  Minted tokens last for its whole
seconds, though, and links for its whole milliseconds, up to the end of the calendar.  So
a lifetime below a second mints tokens that are over when they begin, one below a
millisecond does the same to links, and one that leaves the calendar opens no file at all.
Everything between is of use.
-/

namespace EditorLaunch

namespace StorageToken

/-- A token begins before it ends if it lasts a second. -/
theorem issuedAt_lt_expiresAt_iff (now : Instant) (principal : Principal)
    (lifetime : Duration) :
    (Contents.minted principal lifetime now).issuedAt <
        (Contents.minted principal lifetime now).expiresAt ↔
      1 ≤ lifetime.seconds := by
  have early := seconds_le now
  simp only [Contents.minted]
  omega

end StorageToken

namespace EditorLink

variable {lifetime : Duration}

/-- A lifetime of links that are issued now: they expire later, before the calendar is
over. -/
structure Outlasts (lifetime : Duration) (now : Instant) : Prop where
  later : 1 ≤ lifetime.milliseconds
  countable : lifetime.nanoseconds ≤ longestLifetime
  onCalendar : now.milliseconds + lifetime.milliseconds ≤ lastInstant

theorem exists_later_link_iff (now : Instant) {editorAddress : String}
    {handle : SessionHandle} {url : Url}
    (parsed : Url.parse (editorAddress ++ "&WOPISrc=" ++ handle.text) = .ok url) :
    (∃ link, assemble editorAddress handle lifetime now.milliseconds = .ok link ∧
        now.milliseconds < link.expiresAt) ↔
      Outlasts lifetime now := by
  constructor
  · rintro ⟨link, assembled, later⟩
    obtain ⟨⟨countable, on⟩, expiresAt⟩ := expiry_eq_ok_iff.mp (expiry_of_assemble assembled)
    rw [expiresAt, fdiv_endOf] at later
    exact ⟨by omega, countable, (onCalendar_endOf_iff.mp on).2⟩
  · rintro ⟨later, countable, onCalendar⟩
    have first : firstInstant ≤ now.milliseconds + lifetime.milliseconds := by
      unfold firstInstant
      omega
    have on : OnCalendar (endOf lifetime now.milliseconds) :=
      onCalendar_endOf_iff.mpr ⟨first, onCalendar⟩
    rw [assemble_of_parse parsed, expiry_of_onCalendar countable on, fdiv_endOf]
    refine ⟨_, rfl, ?_⟩
    dsimp only
    omega

/-- Accepted settings have a lifetime, but it is of use only within bounds.  A token that
is minted for a caller begins before it ends exactly if the lifetime has a whole second.
For an address that is read, with the handle behind it, a link is made and expires after
now exactly if the lifetime has a whole millisecond and ends on the calendar. -/
theorem lifetimes_of_use {settings : Settings} (valid : settings.validate = .ok ())
    (now : Instant) (caller : Caller) :
    settings.token.lifetime ≠ .zero ∧
    (settings.auth.mode = .mint → ∃ token contents,
      ((TokenSource.ofSettings settings).tokenFor (κ := Call) now caller).run.result =
        .ok token ∧
      StorageToken.verify? settings.token.secret token = some contents ∧
      (contents.issuedAt < contents.expiresAt ↔ 1 ≤ settings.token.lifetime.seconds)) ∧
    ∀ editorAddress handle url,
      Url.parse (editorAddress ++ "&WOPISrc=" ++ SessionHandle.text handle) = .ok url →
        ((∃ link,
            assemble editorAddress handle settings.token.lifetime now.milliseconds = .ok link ∧
            now.milliseconds < link.expiresAt) ↔
          Outlasts settings.token.lifetime now) := by
  have lasts := (Settings.workable_of_validate valid).lifetime
  refine ⟨mt Settings.lifetime_eq_zero_iff.mp (Nat.ne_of_gt lasts), fun mints => ?_,
    fun editorAddress handle url parsed => exists_later_link_iff now parsed⟩
  rw [TokenSource.ofSettings, mints]
  exact ⟨_, _, TokenSource.result_tokenFor_minted _ _, StorageToken.verify?_sign _ _ _ _,
    StorageToken.issuedAt_lt_expiresAt_iff now _ _⟩

/-- Settings with a lifetime and with both services on this machine. -/
def lasting (lifetime : Duration) : Settings where
  bridge := { host := "http://[::1]:8880" }
  gateway := { address := "http://[::1]:9142" }
  token := { lifetime }

theorem validate_lasting (positive : lifetime ≠ .zero) :
    (lasting lifetime).validate = .ok () := by
  have noBlank : isBlankText (lasting lifetime).bridge.host = false := by
    change isBlankText "http://[::1]:8880" = false
    decide +kernel
  have bridge : isAddress (lasting lifetime).bridge.host = true := by
    change isAddress "http://[::1]:8880" = true
    decide +kernel
  have gateway : isAddress (lasting lifetime).gateway.address = true := by
    change isAddress "http://[::1]:9142" = true
    decide +kernel
  have steady : ¬ (lasting lifetime).retry.multiplier < 1.0 := by
    change ¬ (lasting .zero).retry.multiplier < 1.0
    decide
  have budget : ¬ (lasting lifetime).web.requestTimeout.nanoseconds ≤
      (lasting lifetime).outboundBudget.nanoseconds := by
    change ¬ (lasting .zero).web.requestTimeout.nanoseconds ≤
      (lasting .zero).outboundBudget.nanoseconds
    decide +kernel
  have lasts : ((lasting lifetime).token.lifetime == .zero) = false :=
    beq_eq_false_iff_ne.mpr positive
  unfold Settings.validate
  rw [noBlank, bridge, gateway, lasts, decide_eq_false steady, decide_eq_false budget]
  rfl

/-- An hour is of use. -/
theorem lifetimes_of_use_hour :
    (lasting (.ofSeconds 3600)).validate = .ok () ∧
      ∃ link, assemble "office://h/edit?" ⟨"handle"⟩ (.ofSeconds 3600) 1700000000000 =
        .ok link ∧ 1700000000000 < link.expiresAt := by
  have valid : (lasting (.ofSeconds 3600)).validate = .ok () := validate_lasting (by decide)
  have parsed : Url.parse ("office://h/edit?" ++ "&WOPISrc=" ++ "handle") =
      .ok ⟨"office".toList, some ⟨[], [], .name ['h'], none⟩, .rooted "/edit".toList,
        some "&WOPISrc=handle".toList, none⟩ := by
    rfl
  obtain ⟨-, -, links⟩ :=
    lifetimes_of_use valid { milliseconds := 1700000000000 } ⟨⟨"ada", "Ada"⟩, none⟩
  exact ⟨valid, (links _ ⟨"handle"⟩ _ parsed).mpr ⟨by decide, by decide, by decide⟩⟩

/-- Validation accepts lifetimes of no use: with half a second a token ends when it begins,
with half a millisecond a link does, and with the longest lifetime no link is ever made. -/
theorem accepted_lifetimes_of_no_use :
    ∃ halfSecond halfMillisecond : Duration,
      (lasting halfSecond).validate = .ok () ∧
      (lasting halfMillisecond).validate = .ok () ∧
      (lasting .longest).validate = .ok () ∧
      (∃ token contents,
        ((TokenSource.ofSettings (lasting halfSecond)).tokenFor (κ := Call) .epoch
          ⟨⟨"ada", "Ada"⟩, none⟩).run.result = .ok token ∧
        StorageToken.verify? (lasting halfSecond).token.secret token = some contents ∧
        ¬ contents.issuedAt < contents.expiresAt) ∧
      (∃ link, assemble "office://h/edit?" ⟨"handle"⟩ halfMillisecond 0 = .ok link ∧
        ¬ 0 < link.expiresAt) ∧
      ¬ (assemble "office://h/edit?" ⟨"handle"⟩ .longest 0).isOk := by
  refine ⟨⟨500000000, by decide⟩, ⟨500000, by decide⟩, validate_lasting (by decide),
    validate_lasting (by decide), validate_lasting (by decide), ?_, ?_, ?_⟩
  · refine ⟨_, _, TokenSource.result_tokenFor_minted _ _, StorageToken.verify?_sign _ _ _ _, ?_⟩
    decide
  · exact ⟨_, rfl, by decide⟩
  · decide

end EditorLink

end EditorLaunch

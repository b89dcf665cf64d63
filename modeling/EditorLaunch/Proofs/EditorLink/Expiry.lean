import EditorLaunch.Clock.Timestamp
import EditorLaunch.Proofs.EditorLink

/-!
# When links expire

A lifetime that begins now ends at an exact instant, which is a whole number of
nanoseconds.  A link expires with the millisecond in which that instant lies, before the
epoch as after it.  There are two limits, one for the lifetime and one for the instant,
and both come after the address: what is wrong with it is reported first.
-/

namespace EditorLaunch

namespace EditorLink

variable {lifetime : Duration} {now : Int}

/-- When a lifetime ends that begins now, in nanoseconds since the epoch. -/
def endOf (lifetime : Duration) (now : Int) : Int :=
  now * 1000000 + lifetime.nanoseconds

/-- An instant of the calendar, in nanoseconds since the epoch. -/
structure OnCalendar (instant : Int) : Prop where
  first : firstInstant * 1000000 ≤ instant
  last : instant < (lastInstant + 1) * 1000000

example : Timestamp.text firstInstant = "-262143-01-01T00:00:00Z" := by decide +kernel

example : Timestamp.text lastInstant = "+262142-12-31T23:59:59.999Z" := by decide +kernel

/-- The nanoseconds of a lifetime beyond its whole milliseconds never reach the next
millisecond, since instants of the clock are whole milliseconds. -/
theorem fdiv_endOf (lifetime : Duration) (now : Int) :
    (endOf lifetime now).fdiv 1000000 = now + lifetime.milliseconds := by
  rw [Int.fdiv_eq_ediv_of_nonneg _ (by decide), endOf, Duration.milliseconds]
  omega

theorem onCalendar_endOf_iff :
    OnCalendar (endOf lifetime now) ↔
      firstInstant ≤ now + lifetime.milliseconds ∧
        now + lifetime.milliseconds ≤ lastInstant := by
  have floor := fdiv_endOf lifetime now
  rw [Int.fdiv_eq_ediv_of_nonneg _ (by decide)] at floor
  constructor
  · rintro ⟨first, last⟩
    omega
  · rintro ⟨first, last⟩
    constructor
    · omega
    · omega

theorem le_fdiv_endOf (lifetime : Duration) (now : Int) :
    now ≤ (endOf lifetime now).fdiv 1000000 := by
  rw [fdiv_endOf]
  omega

theorem fdiv_endOf_le {longer : Duration} {later : Int}
    (lifetimes : lifetime.nanoseconds ≤ longer.nanoseconds) (instants : now ≤ later) :
    (endOf lifetime now).fdiv 1000000 ≤ (endOf longer later).fdiv 1000000 := by
  have whole : lifetime.milliseconds ≤ longer.milliseconds := Nat.div_le_div_right lifetimes
  rw [fdiv_endOf, fdiv_endOf]
  omega

theorem expiry_of_long (long : longestLifetime < lifetime.nanoseconds) :
    expiry lifetime now = .error (.internal
      ("token ttl out of range: Source duration value is out of range for the " ++
        "target type")) :=
  if_pos long

theorem expiry_of_short (short : lifetime.nanoseconds ≤ longestLifetime) :
    expiry lifetime now =
      if firstInstant ≤ now + lifetime.milliseconds ∧
          now + lifetime.milliseconds ≤ lastInstant then
        .ok (now + lifetime.milliseconds)
      else .error (.internal "token expiry overflows") :=
  if_neg (Nat.not_lt.mpr short)

theorem expiry_of_onCalendar (short : lifetime.nanoseconds ≤ longestLifetime)
    (on : OnCalendar (endOf lifetime now)) :
    expiry lifetime now = .ok ((endOf lifetime now).fdiv 1000000) := by
  rw [expiry_of_short short, if_pos (onCalendar_endOf_iff.mp on), fdiv_endOf]

theorem expiry_of_not_onCalendar (short : lifetime.nanoseconds ≤ longestLifetime)
    (off : ¬ OnCalendar (endOf lifetime now)) :
    expiry lifetime now = .error (.internal "token expiry overflows") := by
  rw [expiry_of_short short, if_neg (mt onCalendar_endOf_iff.mpr off)]

theorem expiry_eq_ok_iff {expiresAt : Int} :
    expiry lifetime now = .ok expiresAt ↔
      (lifetime.nanoseconds ≤ longestLifetime ∧ OnCalendar (endOf lifetime now)) ∧
        expiresAt = (endOf lifetime now).fdiv 1000000 := by
  by_cases short : lifetime.nanoseconds ≤ longestLifetime
  · by_cases on : OnCalendar (endOf lifetime now)
    · simp [expiry_of_onCalendar short on, short, on, eq_comm]
    · simp [expiry_of_not_onCalendar short on, on]
  · simp [expiry_of_long (Nat.not_le.mp short), short]

/-- What `assemble` does with an address that is read. -/
theorem assemble_of_parse {editorAddress : String} {handle : SessionHandle} {url : Url}
    (parsed : Url.parse (editorAddress ++ "&WOPISrc=" ++ handle.text) = .ok url) :
    assemble editorAddress handle lifetime now = (expiry lifetime now).map fun expiresAt =>
      ⟨(withQuery url (otherPairs url.pairs)).text, tokenOf url.pairs, expiresAt⟩ := by
  unfold assemble
  dsimp only
  rw [parsed]
  cases expiry lifetime now <;> rfl

theorem assemble_of_not_parse {editorAddress : String} {handle : SessionHandle}
    {cause : UrlError}
    (unread : Url.parse (editorAddress ++ "&WOPISrc=" ++ handle.text) = .error cause) :
    assemble editorAddress handle lifetime now = .error (.internal
      ("invalid editor URL " ++ Quoted.text (editorAddress ++ "&WOPISrc=" ++ handle.text) ++
        ": " ++ cause.message)) := by
  unfold assemble
  dsimp only
  rw [unread]

theorem expiry_of_assemble {editorAddress : String} {handle : SessionHandle}
    {link : EditorLink} (assembled : assemble editorAddress handle lifetime now = .ok link) :
    expiry lifetime now = .ok link.expiresAt := by
  obtain ⟨url, parsed, -, -⟩ := assemble_eq_ok assembled
  rw [assemble_of_parse parsed] at assembled
  cases outcome : expiry lifetime now with
  | error failure =>
      rw [outcome] at assembled
      cases assembled
  | ok expiresAt =>
      rw [outcome] at assembled
      obtain rfl := Except.ok.inj assembled
      rfl

/-- An address that is not read with the handle behind it is reported as such, whatever
the lifetime and the clock.  With one that is read there is a link exactly if the lifetime
is not too long and ends on the calendar, and without a link one of the two limits is
reported, that of the lifetime before that of the calendar.  A link expires with the
millisecond of the exact end of its lifetime, so not before now, and links of longer
lifetimes or of later instants do not expire earlier. -/
theorem assemble_at_any_instant (editorAddress : String) (handle : SessionHandle)
    (lifetime : Duration) (now : Int) :
    (∀ cause, Url.parse (editorAddress ++ "&WOPISrc=" ++ handle.text) = .error cause →
      assemble editorAddress handle lifetime now = .error (.internal
        ("invalid editor URL " ++
          Quoted.text (editorAddress ++ "&WOPISrc=" ++ handle.text) ++ ": " ++
          cause.message))) ∧
    (∀ url, Url.parse (editorAddress ++ "&WOPISrc=" ++ handle.text) = .ok url →
      ((∃ link, assemble editorAddress handle lifetime now = .ok link) ↔
        lifetime.nanoseconds ≤ longestLifetime ∧ OnCalendar (endOf lifetime now)) ∧
      (longestLifetime < lifetime.nanoseconds →
        assemble editorAddress handle lifetime now = .error (.internal
          ("token ttl out of range: Source duration value is out of range for the " ++
            "target type"))) ∧
      (lifetime.nanoseconds ≤ longestLifetime → ¬ OnCalendar (endOf lifetime now) →
        assemble editorAddress handle lifetime now =
          .error (.internal "token expiry overflows"))) ∧
    ∀ link, assemble editorAddress handle lifetime now = .ok link →
      link.expiresAt = (endOf lifetime now).fdiv 1000000 ∧ now ≤ link.expiresAt ∧
      ∀ otherAddress otherHandle longer later otherLink,
        assemble otherAddress otherHandle longer later = .ok otherLink →
        lifetime.nanoseconds ≤ longer.nanoseconds → now ≤ later →
        link.expiresAt ≤ otherLink.expiresAt := by
  refine ⟨fun cause unread => assemble_of_not_parse unread, ?_, ?_⟩
  · intro url parsed
    rw [assemble_of_parse parsed]
    refine ⟨?_, fun long => ?_, fun short off => ?_⟩
    · constructor
      · rintro ⟨link, made⟩
        rw [← assemble_of_parse parsed] at made
        exact (expiry_eq_ok_iff.mp (expiry_of_assemble made)).1
      · rintro ⟨short, on⟩
        rw [expiry_of_onCalendar short on]
        exact ⟨_, rfl⟩
    · rw [expiry_of_long long]
      rfl
    · rw [expiry_of_not_onCalendar short off]
      rfl
  · intro link made
    have expiresAt := (expiry_eq_ok_iff.mp (expiry_of_assemble made)).2
    refine ⟨expiresAt, expiresAt ▸ le_fdiv_endOf lifetime now, ?_⟩
    intro otherAddress otherHandle longer later otherLink otherMade lifetimes instants
    have otherExpiresAt := (expiry_eq_ok_iff.mp (expiry_of_assemble otherMade)).2
    rw [expiresAt, otherExpiresAt]
    exact fdiv_endOf_le lifetimes instants

/-- Half a millisecond from an instant before the epoch is in the millisecond of that
instant. -/
example : expiry ⟨500000, by decide⟩ (-1) = .ok (-1) := by decide

end EditorLink

end EditorLaunch

import EditorLaunch.Duration.Basic

/-!
# Sums that stop at the longest duration

Sums and multiples of durations stop at the longest one on the way.  As they only
grow, this comes to the same as reckoning without a limit and stopping once, at the
end.  A duration below the longest one is then what was reckoned.
-/

namespace EditorLaunch.Duration

variable {duration other : Duration} {exact otherExact : Nat}

theorem le_longest (duration : Duration) : duration.nanoseconds ≤ longest.nanoseconds :=
  Nat.le_sub_one_of_lt duration.fits

theorem nanoseconds_saturating (nanoseconds : Nat) :
    (saturating nanoseconds).nanoseconds = min nanoseconds longest.nanoseconds := by
  unfold saturating
  split
  · rename_i fits
    exact (Nat.min_eq_left (Nat.le_sub_one_of_lt fits)).symm
  · rename_i tooLong
    exact (Nat.min_eq_right (Nat.le_trans (Nat.sub_le _ 1) (Nat.not_lt.mp tooLong))).symm

theorem saturating_nanoseconds (duration : Duration) :
    saturating duration.nanoseconds = duration := by
  rw [saturating, dif_pos duration.fits]

/-- No timer goes off before its time. -/
theorem le_timer (duration : Duration) : duration.nanoseconds ≤ duration.timer := by
  unfold timer
  omega

theorem timer_lt (duration : Duration) : duration.timer < duration.nanoseconds + 1000000 := by
  unfold timer
  omega

theorem dvd_timer (duration : Duration) : 1000000 ∣ duration.timer :=
  Nat.dvd_mul_left 1000000 _

/-- A timer that is set to whole milliseconds goes off when they are over. -/
theorem timer_of_dvd (whole : 1000000 ∣ duration.nanoseconds) :
    duration.timer = duration.nanoseconds := by
  obtain ⟨count, counted⟩ := whole
  unfold timer
  omega

theorem dvd_ofMilliseconds {count : Nat} (fits : count < 0x10000000000000000) :
    1000000 ∣ (ofMilliseconds count).nanoseconds := by
  have inRange : count * 1000000 < 0x10000000000000000 * 1000000000 := by omega
  rw [ofMilliseconds, saturating, dif_pos inRange]
  exact Nat.dvd_mul_left 1000000 count

/-- A duration is what is left of a number of nanoseconds that stops at the longest
duration. -/
def Saturates (duration : Duration) (exact : Nat) : Prop :=
  duration.nanoseconds = min exact longest.nanoseconds

theorem saturates_self (duration : Duration) : duration.Saturates duration.nanoseconds :=
  (Nat.min_eq_left duration.le_longest).symm

theorem Saturates.plus (saturates : duration.Saturates exact)
    (otherSaturates : other.Saturates otherExact) :
    (duration.plus other).Saturates (exact + otherExact) := by
  unfold Saturates at *
  rw [Duration.plus, nanoseconds_saturating, saturates, otherSaturates]
  omega

theorem Saturates.times (saturates : duration.Saturates exact) (count : Nat) :
    (duration.times count).Saturates (exact * count) := by
  unfold Saturates at *
  rw [Duration.times, nanoseconds_saturating, saturates]
  cases count with
  | zero => rw [Nat.mul_zero, Nat.mul_zero]
  | succ count =>
      rcases Nat.le_total exact longest.nanoseconds with short | long
      · rw [Nat.min_eq_left short]
      · -- A multiple of what has stopped already stops as well.
        have grows : longest.nanoseconds ≤ longest.nanoseconds * (count + 1) :=
          Nat.le_mul_of_pos_right _ (Nat.succ_pos count)
        rw [Nat.min_eq_right long, Nat.min_eq_right grows,
          Nat.min_eq_right (Nat.le_trans long (Nat.le_mul_of_pos_right _ (Nat.succ_pos count)))]

theorem saturates_quarter (duration : Duration) :
    duration.quarter.Saturates (duration.nanoseconds / 4) :=
  nanoseconds_saturating _

/-- What ends below some duration has not been stopped, and what is not stopped ends where
it should. -/
theorem Saturates.lt_iff (saturates : duration.Saturates exact) :
    duration.nanoseconds < other.nanoseconds ↔ exact < other.nanoseconds := by
  have := other.le_longest
  unfold Saturates at saturates
  omega

theorem Saturates.le_or_eq_longest {bound : Nat} (saturates : duration.Saturates exact)
    (bounded : bound ≤ exact) : bound ≤ duration.nanoseconds ∨ duration = longest := by
  unfold Saturates at saturates
  rcases Nat.le_total exact longest.nanoseconds with short | long
  · rw [Nat.min_eq_left short] at saturates
    exact .inl (saturates ▸ bounded)
  · rw [Nat.min_eq_right long] at saturates
    obtain ⟨nanoseconds, fits⟩ := duration
    obtain rfl : nanoseconds = _ := saturates
    exact .inr rfl

end EditorLaunch.Duration

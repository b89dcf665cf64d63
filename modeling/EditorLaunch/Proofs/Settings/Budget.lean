import EditorLaunch.Proofs.Duration
import EditorLaunch.Settings.Validation

/-!
# The time that requests for a file take

How long requests to the other services take at most is reckoned in durations,
which stop at the longest one.  Reckoned without that limit it comes to the same
number or to a larger one, so that both lie below the same durations.
-/

namespace EditorLaunch

namespace RetrySettings

variable (settings : RetrySettings)

/-- The longest pause in nanoseconds, reckoned without a limit. -/
def exactPause : Nat :=
  settings.maxDelay.nanoseconds +
    if settings.jitter then settings.maxDelay.nanoseconds / 4 else 0

/-- The nanoseconds of as many attempts as are allowed, each of them of the length
`timeout`, with the longest pauses between them, reckoned without a limit. -/
def exactWorstCase (timeout : Duration) : Nat :=
  timeout.nanoseconds * settings.attempts + settings.exactPause * (settings.attempts - 1)

theorem longestPause_saturates : settings.longestPause.Saturates settings.exactPause := by
  unfold longestPause exactPause
  split
  · exact (Duration.saturates_self _).plus (Duration.saturates_quarter _)
  · exact Duration.saturates_self _

theorem worstCase_saturates (timeout : Duration) :
    (settings.worstCase timeout).Saturates (settings.exactWorstCase timeout) :=
  ((Duration.saturates_self timeout).times _).plus (settings.longestPause_saturates.times _)

end RetrySettings

namespace Settings

variable {settings : Settings}

/-- The nanoseconds of the requests for one file, reckoned without a limit. -/
def exactBudget (settings : Settings) : Nat :=
  settings.retry.exactWorstCase settings.gateway.requestTimeout +
    settings.retry.exactWorstCase settings.bridge.requestTimeout * 2

theorem outboundBudget_saturates (settings : Settings) :
    settings.outboundBudget.Saturates settings.exactBudget :=
  (settings.retry.worstCase_saturates _).plus ((settings.retry.worstCase_saturates _).times 2)

end Settings

end EditorLaunch

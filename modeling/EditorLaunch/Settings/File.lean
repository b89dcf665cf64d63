import EditorLaunch.Duration.Printer
import EditorLaunch.Number.Shortest
import EditorLaunch.Settings.Basic
import EditorLaunch.Toml.Printer

/-!
# The file of settings

All settings as a file gives them.  When there is no file, one with the defaults
is written, so that there is something to start from.
-/

namespace EditorLaunch

namespace Settings

def writtenDuration (duration : Duration) : String :=
  Toml.writtenText duration.text

def fileSections (settings : Settings) : List Toml.Section :=
  [⟨"web", [("host", Toml.writtenText settings.web.host),
      ("port", toString settings.web.port.toNat),
      ("root", Toml.writtenText settings.web.root),
      ("request_timeout", writtenDuration settings.web.requestTimeout)]⟩,
    ⟨"log", [("level", Toml.writtenText settings.log.level),
      ("pretty", toString settings.log.pretty),
      ("color", toString settings.log.color)] ++
      settings.log.file?.toList.map fun file => ("file", Toml.writtenText file)⟩,
    ⟨"wopi", [("host", Toml.writtenText settings.bridge.host),
      ("insecure", toString settings.bridge.insecure),
      ("iop_secret", Toml.writtenText settings.bridge.secret),
      ("connect_timeout", writtenDuration settings.bridge.connectTimeout),
      ("request_timeout", writtenDuration settings.bridge.requestTimeout)]⟩,
    ⟨"gateway", [("address", Toml.writtenText settings.gateway.address),
      ("insecure", toString settings.gateway.insecure),
      ("connect_timeout", writtenDuration settings.gateway.connectTimeout),
      ("request_timeout", writtenDuration settings.gateway.requestTimeout)]⟩,
    ⟨"token_manager", [("jwt_secret", Toml.writtenText settings.token.secret),
      ("token_ttl", writtenDuration settings.token.lifetime)]⟩,
    ⟨"auth", [("mode", Toml.writtenText settings.auth.mode.name),
      ("token_header", Toml.writtenText settings.auth.tokenHeader),
      ("user_id_header", Toml.writtenText settings.auth.userIdHeader),
      ("display_name_header", Toml.writtenText settings.auth.displayNameHeader)]⟩,
    ⟨"retry", [("max_attempts", toString settings.retry.maxAttempts.toNat),
      ("initial_delay", writtenDuration settings.retry.initialDelay),
      ("max_delay", writtenDuration settings.retry.maxDelay),
      ("backoff_multiplier", FloatLayout.settings.text settings.retry.multiplier),
      ("jitter", toString settings.retry.jitter)]⟩]

def fileText (settings : Settings) : String :=
  Toml.writtenFile settings.fileSections

/-- The text of the file with the defaults. -/
def defaultFile : String :=
  fileText {}

end Settings

end EditorLaunch

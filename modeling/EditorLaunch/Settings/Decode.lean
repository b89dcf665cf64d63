import EditorLaunch.Duration.Setting
import EditorLaunch.Settings.Basic
import EditorLaunch.Settings.Value

/-!
# Reading settings

A tree of raw settings is read section by section and setting by setting.  What
is missing keeps its default and what is unknown is passed over.  A section may
also be given as a list of its settings in their order.  The first setting that
cannot be read is reported with the names that lead to it; those of a table are
read in the order of their names.
-/

namespace EditorLaunch

/-- Why a raw value is no setting: it is of another kind, does not fit, is not
one of the known names, or is refused with a message. -/
inductive SettingFault where
  | wrongKind
  | outOfRange
  | unknownName
  | refused (detail : String)
deriving DecidableEq, Repr

/-- A setting that cannot be read, and the names that lead to it. -/
structure DecodeError where
  path : List String
  fault : SettingFault
deriving DecidableEq, Repr

namespace Settings

/-- How a raw value becomes a setting. -/
abbrev Decoder (α : Type) : Type :=
  RawSetting → Except DecodeError α

def fail (fault : SettingFault) : Except DecodeError α :=
  .error ⟨[], fault⟩

def under (name : String) (outcome : Except DecodeError α) : Except DecodeError α :=
  outcome.mapError fun error => { error with path := name :: error.path }

def text : Decoder String
  | .text value => .ok value
  | .letter value => .ok (String.ofList [value])
  | _ => fail .wrongKind

def optionalText : Decoder (Option String)
  | .nothing => .ok none
  | value => (text value).map some

def flag : Decoder Bool
  | .flag value => .ok value
  | _ => fail .wrongKind

def natural (bound : Nat) : Decoder Nat
  | .integer value =>
      if 0 ≤ value ∧ value < Int.ofNat bound then .ok value.toNat else fail .outOfRange
  | _ => fail .wrongKind

def float : Decoder Float
  | .float value => .ok value
  | .integer value => .ok (Float.ofInt value)
  | _ => fail .wrongKind

def duration : Decoder Duration
  | .integer value => (Duration.ofInteger value).mapError fun error =>
      ⟨[], .refused error.message⟩
  | .text value => (Duration.ofSettingText value).mapError fun error =>
      ⟨[], .refused error.message⟩
  | .letter value => (Duration.ofSettingText (String.ofList [value])).mapError fun error =>
      ⟨[], .refused error.message⟩
  | _ => fail .wrongKind

def modeNamed (name : String) : Except DecodeError TokenMode :=
  if name = "mint" then .ok .mint
  else if name = "forward" then .ok .forward
  else fail .unknownName

/-- Reads a mode: its name, or a table with nothing under that name. -/
def mode : Decoder TokenMode
  | .text name => modeNamed name
  | .table members =>
      match RawSetting.sorted members with
      | (name, value) :: _ => do
          let found ← modeNamed name
          match value with
          | .nothing => return found
          | _ => under name (fail .wrongKind)
      | [] => fail .wrongKind
  | _ => fail .wrongKind

/-- A setting of a section: its name and how it is set. -/
structure Field (σ : Type) where
  name : String
  set : σ → RawSetting → Except DecodeError σ

def field (name : String) (decode : Decoder α) (put : σ → α → σ) : Field σ :=
  ⟨name, fun settings value => do return put settings (← decode value)⟩

def setMember (fields : List (Field σ)) (settings : σ) (entry : String × RawSetting) :
    Except DecodeError σ :=
  match fields.find? (·.name == entry.1) with
  | some found => under entry.1 (found.set settings entry.2)
  | none => .ok settings

/-- Reads items of a list into settings, the first of which has an index. -/
def setItems (settings : σ) : (index : Nat) → List (Field σ) → List RawSetting →
    Except DecodeError σ
  | index, found :: fields, item :: items => do
      let next ← under (toString index) (found.set settings item)
      setItems next (index + 1) fields items
  | _, _, _ => .ok settings

/-- Reads a section over its defaults. -/
def fields (fields : List (Field σ)) (defaults : σ) : Decoder σ
  | .table members => (RawSetting.sorted members).foldlM (setMember fields) defaults
  | .list items => setItems defaults 0 fields items
  | _ => fail .wrongKind

def webFields : List (Field WebSettings) :=
  [field "host" text ({ · with host := · }),
    field "port" (natural 0x10000) ({ · with port := .ofNat · }),
    field "root" text ({ · with root := · }),
    field "request_timeout" duration ({ · with requestTimeout := · })]

def logFields : List (Field LogSettings) :=
  [field "level" text ({ · with level := · }),
    field "pretty" flag ({ · with pretty := · }),
    field "color" flag ({ · with color := · }),
    field "file" optionalText ({ · with file? := · })]

def bridgeFields : List (Field BridgeSettings) :=
  [field "host" text ({ · with host := · }),
    field "insecure" flag ({ · with insecure := · }),
    field "iop_secret" text ({ · with secret := · }),
    field "connect_timeout" duration ({ · with connectTimeout := · }),
    field "request_timeout" duration ({ · with requestTimeout := · })]

def gatewayFields : List (Field GatewaySettings) :=
  [field "address" text ({ · with address := · }),
    field "insecure" flag ({ · with insecure := · }),
    field "connect_timeout" duration ({ · with connectTimeout := · }),
    field "request_timeout" duration ({ · with requestTimeout := · })]

def tokenFields : List (Field TokenSettings) :=
  [field "jwt_secret" text ({ · with secret := · }),
    field "token_ttl" duration ({ · with lifetime := · })]

def authFields : List (Field AuthSettings) :=
  [field "mode" mode ({ · with mode := · }),
    field "token_header" text ({ · with tokenHeader := · }),
    field "user_id_header" text ({ · with userIdHeader := · }),
    field "display_name_header" text ({ · with displayNameHeader := · })]

def retryFields : List (Field RetrySettings) :=
  [field "max_attempts" (natural 0x100000000) ({ · with maxAttempts := .ofNat · }),
    field "initial_delay" duration ({ · with initialDelay := · }),
    field "max_delay" duration ({ · with maxDelay := · }),
    field "backoff_multiplier" float ({ · with multiplier := · }),
    field "jitter" flag ({ · with jitter := · })]

def sections : List (Field Settings) :=
  [field "web" (fields webFields {}) ({ · with web := · }),
    field "log" (fields logFields {}) ({ · with log := · }),
    field "wopi" (fields bridgeFields {}) ({ · with bridge := · }),
    field "gateway" (fields gatewayFields {}) ({ · with gateway := · }),
    field "token_manager" (fields tokenFields {}) ({ · with token := · }),
    field "auth" (fields authFields {}) ({ · with auth := · }),
    field "retry" (fields retryFields {}) ({ · with retry := · })]

def decode : Decoder Settings :=
  fields sections {}

end Settings

end EditorLaunch

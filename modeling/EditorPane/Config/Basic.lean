import EditorPane.Config.Theme
import EditorPane.Diagnostic.Marker
import EditorPane.Language.Comment
import EditorPane.Schedule.Scheduler

/-!
# Configurations

What can be set about highlighting: the quiet interval, the comment marker, the tab width, the
colours and the geometry of error markers. A configuration is valid when its quiet interval is not
zero and its theme is valid.

## Main definitions

* `Config`, `Config.withQuiet`, `Config.withMarker`.
* `ConfigError`, `Config.validate`.
-/

namespace EditorPane

/-- Why a configuration file could not be read. -/
inductive ReadError where
  | missing
  | notText
  deriving DecidableEq, Repr

/-- The wording of the failure. -/
def ReadError.message : ReadError → String
  | missing => "No such file or directory (os error 2)"
  | notText => "stream did not contain valid UTF-8"

/-- Why a configuration is refused. -/
inductive ConfigError where
  | unreadable (e : ReadError)
  | malformed
  | invalidColour (key : ThemeKey) (text : String)
  | zeroQuietInterval
  deriving DecidableEq, Repr

/-- The wording of the refusal. -/
def ConfigError.message : ConfigError → String
  | unreadable e => s!"failed to read config: {e.message}"
  | malformed => "invalid config"
  | invalidColour key text => s!"invalid colour for `{key.name}`: {quoted text}"
  | zeroQuietInterval => "quiet_interval_ms must be greater than zero"

/-- The largest number that a setting can have. -/
def maxSetting : Nat := UInt64.size - 1

/-- What can be set; the quiet interval is in milliseconds. -/
structure Config where
  quiet : Nat
  commentMarker : String
  tabWidth : Nat
  theme : Theme
  geometry : MarkerGeometry
  deriving DecidableEq

instance : Inhabited Config where
  default := ⟨defaultQuiet, "#", 2, default, default⟩

namespace Config

/-- With the quiet interval given in seconds and nanoseconds, cut to whole milliseconds. -/
def withQuiet (c : Config) (seconds nanoseconds : Nat) : Config :=
  { c with quiet := min (seconds * 1000 + nanoseconds / 1000000) maxSetting }

/-- With another comment marker. -/
def withMarker (c : Config) (marker : String) : Config := { c with commentMarker := marker }

/-- The comments of the configured marker; an empty marker makes none. -/
def comments (c : Config) : CommentConfig := .line c.commentMarker.toList

/-- Refuse a quiet interval of zero, then the first text of the theme that is no colour. -/
def validate (c : Config) : Except ConfigError Unit :=
  if c.quiet = 0 then .error .zeroQuietInterval
  else match c.theme.firstInvalid? with
    | some k => .error (.invalidColour k (c.theme.text k))
    | none => .ok ()

end Config

end EditorPane

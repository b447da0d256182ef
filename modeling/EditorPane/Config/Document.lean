import EditorPane.Config.Basic
import EditorPane.Toml.Document

/-!
# Configuration documents

A configuration is written as a TOML document. Settings that are left out have their defaults and
unknown ones are passed over. The theme and the marker geometry may be tables, or arrays that list
their settings in a fixed order.

## Main definitions

* `Config.ofEntries?` — the configuration of a document's entries.
* `Config.ofText`, `Config.ofFile` — reading and validating.
-/

namespace EditorPane

open Toml (Value Entries)

namespace Config

/-! ## Settings -/

/-- A number from zero to `maxSetting`. -/
def natural? (v : Value) : Option Nat :=
  v.toInt?.bind fun n => if 0 ≤ n ∧ n ≤ maxSetting then some n.toNat else none

/-- A number of pixels, in 32 bits. -/
def pixels? (v : Value) : Option Int :=
  v.toInt?.filter fun n => -Int.pow 2 31 ≤ n ∧ n < Int.pow 2 31

/-- A text. -/
def text? : Value → Option String
  | .string s => some s
  | _ => none

/-- A setting among entries: its default if it is left out. -/
def setting? {α : Type} (read : Value → Option α) (default : α) (entries : Entries) (key : String) :
    Option α :=
  match entries.lookup key with
  | none => some default
  | some v => read v

/-- A setting in a list: its default if the list is too short. -/
def listed? {α : Type} (read : Value → Option α) (default : α) (items : List Value) (i : Nat) :
    Option α :=
  match items[i]? with
  | none => some default
  | some v => read v

/-- What is passed over by its name holds only numbers that a machine can hold. -/
def othersRepresentable (known : List String) (entries : Entries) : Bool :=
  entries.all fun e => known.contains e.1 || e.2.isRepresentable

/-! ## Themes and geometry -/

/-- The theme with the given texts for its keys. -/
def themeOf? (read : ThemeKey → Option String) : Option Theme := do
  pure {
    background := ← read .background
    mainText := ← read (.ofClass .mainText)
    keyword := ← read (.ofClass .keyword)
    typeName := ← read (.ofClass .typeName)
    declaration := ← read (.ofClass .declaration)
    operator := ← read (.ofClass .operator)
    string := ← read (.ofClass .string)
    int := ← read (.ofClass .int)
    comment := ← read (.ofClass .comment)
    function := ← read (.ofClass .function)
    field := ← read (.ofClass .field)
    error := ← read (.ofClass .error) }

/-- A theme. A date has no settings of its own and leaves them all at their defaults. -/
def theme? : Value → Option Theme
  | .table _ entries =>
    if othersRepresentable (ThemeKey.all.map ThemeKey.name) entries then
      themeOf? fun k => setting? text? ((default : Theme).text k) entries k.name
    else none
  | .array _ items =>
    themeOf? fun k => listed? text? ((default : Theme).text k) items (ThemeKey.listed.idxOf k)
  | .dateTime _ => some default
  | _ => none

/-- The names of the settings of the marker geometry. -/
def geometryKeys : List String :=
  ["distance_from_char", "hover_label_offset", "padding_x", "padding_y"]

/-- A marker geometry. A date again leaves all at their defaults. -/
def geometry? : Value → Option MarkerGeometry
  | .table _ entries => do
    let usual : MarkerGeometry := default
    if othersRepresentable geometryKeys entries then
      pure {
        distanceFromChar :=
          ← setting? pixels? usual.distanceFromChar entries "distance_from_char"
        hoverLabelOffset :=
          ← setting? pixels? usual.hoverLabelOffset entries "hover_label_offset"
        paddingX := ← setting? pixels? usual.paddingX entries "padding_x"
        paddingY := ← setting? pixels? usual.paddingY entries "padding_y" }
    else none
  | .array _ items => do
    let usual : MarkerGeometry := default
    pure {
      distanceFromChar := ← listed? pixels? usual.distanceFromChar items 0
      hoverLabelOffset := ← listed? pixels? usual.hoverLabelOffset items 1
      paddingX := ← listed? pixels? usual.paddingX items 2
      paddingY := ← listed? pixels? usual.paddingY items 3 }
  | .dateTime _ => some default
  | _ => none

/-! ## Documents -/

/-- The names of the settings of a configuration. -/
def configKeys : List String :=
  ["quiet_interval_ms", "comment_marker", "tab_width", "theme", "marker"]

/-- The configuration of a document's entries. -/
def ofEntries? (entries : Entries) : Option Config := do
  let usual : Config := default
  if othersRepresentable configKeys entries then
    pure {
      quiet := ← setting? natural? usual.quiet entries "quiet_interval_ms"
      commentMarker := ← setting? text? usual.commentMarker entries "comment_marker"
      tabWidth := ← setting? natural? usual.tabWidth entries "tab_width"
      theme := ← setting? theme? usual.theme entries "theme"
      geometry := ← setting? geometry? usual.geometry entries "marker" }
  else none

/-- The valid configuration that a document stands for. -/
def ofText (t : Text) : Except ConfigError Config :=
  match (Toml.parse? t).bind ofEntries? with
  | none => .error .malformed
  | some c => c.validate.map fun _ => c

/-- The valid configuration in a file with the given bytes; no bytes are a missing file. -/
def ofFile (bytes : Option ByteArray) : Except ConfigError Config :=
  match bytes with
  | none => .error (.unreadable .missing)
  | some bytes =>
    match String.fromUTF8? bytes with
    | none => .error (.unreadable .notText)
    | some s => ofText s.toList

end Config

end EditorPane

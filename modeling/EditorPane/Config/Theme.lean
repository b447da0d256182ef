import EditorPane.Config.Colour
import EditorPane.Tag.VisualClass

/-!
# Themes

A theme gives a colour to the background and to every visual class. Colours are kept as they were
written; a theme is valid when each of them is one.

## Main definitions

* `ThemeKey`, `Theme` — what has a colour, and the colours.
* `Theme.text`, `Theme.colour?`, `Theme.firstInvalid?` — texts by key, and the colours read from
  them.
-/

namespace EditorPane

/-- What a theme colours. -/
inductive ThemeKey where
  | background
  | ofClass (c : VisualClass)
  deriving DecidableEq, Repr

namespace ThemeKey

/-- The name of a key. -/
def name : ThemeKey → String
  | background => "background"
  | ofClass c => c.name

/-- Every key: the background, then the classes in their order. -/
def all : List ThemeKey := background :: VisualClass.all.map ofClass

/-- Every key in the order in which a theme without keys lists its colours. -/
def listed : List ThemeKey :=
  [background, ofClass .mainText, ofClass .keyword, ofClass .typeName, ofClass .declaration,
    ofClass .operator, ofClass .string, ofClass .int, ofClass .comment, ofClass .function,
    ofClass .field, ofClass .error]

theorem mem_all (k : ThemeKey) : k ∈ all := by
  cases k with
  | background => exact List.mem_cons_self
  | ofClass c => exact List.mem_cons_of_mem _ (List.mem_map_of_mem (VisualClass.mem_all c))

end ThemeKey

/-- The texts of the colours. -/
structure Theme where
  background : String
  mainText : String
  keyword : String
  typeName : String
  declaration : String
  operator : String
  string : String
  int : String
  comment : String
  function : String
  field : String
  error : String
  deriving DecidableEq, Repr

/-- A dark theme. -/
instance : Inhabited Theme where
  default := {
    background := "#202746"
    mainText := "#dfe2f1"
    keyword := "#39aca6"
    typeName := "#ac9739"
    declaration := "#3d8fd1"
    operator := "#979db4"
    string := "#22a2c9"
    int := "#c94922"
    comment := "#5e6687"
    function := "#c76b29"
    field := "#c08b30"
    error := "#9c637a" }

namespace Theme

/-- The text of a key. -/
def text (t : Theme) : ThemeKey → String
  | .background => t.background
  | .ofClass .keyword => t.keyword
  | .ofClass .typeName => t.typeName
  | .ofClass .declaration => t.declaration
  | .ofClass .operator => t.operator
  | .ofClass .string => t.string
  | .ofClass .int => t.int
  | .ofClass .comment => t.comment
  | .ofClass .function => t.function
  | .ofClass .field => t.field
  | .ofClass .mainText => t.mainText
  | .ofClass .error => t.error

/-- The colour of a key, if its text is one. -/
def colour? (t : Theme) (k : ThemeKey) : Option Colour := Colour.ofString? (t.text k)

/-- The first key whose text is no colour. -/
def firstInvalid? (t : Theme) : Option ThemeKey := ThemeKey.all.find? fun k => (t.colour? k).isNone

/-- Every text is a colour. -/
theorem firstInvalid?_eq_none_iff {t : Theme} :
    t.firstInvalid? = none ↔ ∀ k, (t.colour? k).isSome := by
  simp only [firstInvalid?, List.find?_eq_none, Option.isNone_iff_eq_none]
  constructor
  · intro h k
    exact Option.isSome_iff_ne_none.2 (h k (ThemeKey.mem_all k))
  · intro h k _
    exact Option.isSome_iff_ne_none.1 (h k)

end Theme

end EditorPane

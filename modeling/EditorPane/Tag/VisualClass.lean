/-!
# Visual classes

The closed set of categories a range of text can be tagged with. Each class paints one of two
layers: the foreground, where classes compete by a fixed priority, or the background, which only
carries errors. Comments outrank code and plain text yields to it.

## Main definitions

* `VisualClass`, `VisualClass.all`, `VisualClass.name`, `VisualClass.ofName?`.
* `VisualClass.layer`, `VisualClass.priority` — what a class paints and how strongly.
-/

namespace EditorPane

/-- What a class paints. -/
inductive Layer where
  | foreground
  | background
  deriving DecidableEq, Repr

/-- The categories of highlighting. -/
inductive VisualClass where
  | keyword
  | typeName
  | declaration
  | operator
  | string
  | int
  | comment
  | function
  | field
  | mainText
  | error
  deriving DecidableEq, Repr

namespace VisualClass

/-- Every class, in the order that lists of classes follow. -/
def all : List VisualClass :=
  [keyword, typeName, declaration, operator, string, int, comment, function, field, mainText,
    error]

/-- The place of a class in `all`. -/
def index : VisualClass → Fin 11
  | keyword => 0
  | typeName => 1
  | declaration => 2
  | operator => 3
  | string => 4
  | int => 5
  | comment => 6
  | function => 7
  | field => 8
  | mainText => 9
  | error => 10

/-- The name by which themes and tags refer to a class. -/
def name : VisualClass → String
  | keyword => "keyword"
  | typeName => "type"
  | declaration => "declaration"
  | operator => "operator"
  | string => "string"
  | int => "int"
  | comment => "comment"
  | function => "function"
  | field => "attribute"
  | mainText => "main_text"
  | error => "error"

/-- The class with the given name. -/
def ofName? (s : String) : Option VisualClass := all.find? fun c => c.name = s

/-- Errors paint the background, all else the foreground. -/
def layer : VisualClass → Layer
  | error => .background
  | _ => .foreground

/-- Among overlapping tags of one layer the highest priority shows. -/
def priority : VisualClass → Nat
  | mainText => 0
  | comment => 2
  | _ => 1

theorem mem_all (c : VisualClass) : c ∈ all := by cases c <;> decide

theorem nodup_all : all.Nodup := by decide

theorem index_injective {c d : VisualClass} (h : c.index = d.index) : c = d := by
  revert h
  cases c <;> cases d <;> decide

@[simp] theorem ofName?_name (c : VisualClass) : ofName? c.name = some c := by
  cases c <;> decide

end VisualClass

/-- A name that no class has. -/
structure UnknownClass where
  name : String
  deriving DecidableEq, Repr

/-- The wording of the refusal. -/
def UnknownClass.message (e : UnknownClass) : String := s!"unknown visual class '{e.name}'"

/-- The class with the given name, or the refusal. -/
def VisualClass.named (s : String) : Except UnknownClass VisualClass :=
  match ofName? s with
  | some c => .ok c
  | none => .error ⟨s⟩

end EditorPane

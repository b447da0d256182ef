import EditorPane.Text.Line

/-!
# Line comments

A line comment starts at the first occurrence of the comment marker in a line and reaches to the
end of the line. A language without a marker, or with an empty one, has no line comments.

## Main definitions

* `firstOccurrence` — where a word first occurs in a text.
* `CommentConfig`, `CommentConfig.column?` — where the comment of a line starts.
-/

namespace EditorPane

/-- The number of characters before the first occurrence of `word`. -/
def firstOccurrence (word : Text) : Text → Option Nat
  | [] => if word.isEmpty then some 0 else none
  | c :: rest =>
    if word.isPrefixOf (c :: rest) then some 0 else (firstOccurrence word rest).map (· + 1)

/-- The marker that starts a line comment, if there is one. -/
structure CommentConfig where
  marker : Option Text
  deriving DecidableEq, Repr, Inhabited

namespace CommentConfig

/-- Line comments start with the given marker. -/
def line (marker : Text) : CommentConfig := ⟨some marker⟩

/-- The marker if it is not empty. -/
def usable? (c : CommentConfig) : Option Text := c.marker.filter fun m => !m.isEmpty

/-- There are line comments. -/
def hasLine (c : CommentConfig) : Bool := c.usable?.isSome

/-- The column at which the comment of a line starts. -/
def column? (c : CommentConfig) (lineText : Text) : Option Nat :=
  c.usable?.bind fun m => firstOccurrence m lineText

end CommentConfig

end EditorPane

import EditorPane.Text.Line

/-!
# Reading from the front of a text

Readers take a part off the front of a text and give what it stands for, or fail. Here are the
readers for single characters and for what separates things in a TOML document: blanks, line ends
and comments.

## Main definitions

* `Toml.Reader`, `Toml.next`, `Toml.expect`, `Toml.takeWhile`.
* `Toml.skipBlanks`, `Toml.skipLayout`, `Toml.endLine`.
-/

namespace EditorPane.Toml

/-- Takes a part off the front of a text. -/
abbrev Reader := StateT Text Option

/-- Take one character. -/
def next : Reader Char
  | [] => none
  | c :: rest => some (c, rest)

/-- Look at the next character. -/
def peek : Reader (Option Char) := fun t => some (t.head?, t)

/-- Take the given characters. -/
def expect : Text → Reader Unit
  | [], t => some ((), t)
  | _ :: _, [] => none
  | c :: cs, d :: rest => if c = d then expect cs rest else none

/-- Take the longest run of characters with a property. -/
def takeWhile (p : Char → Bool) : Reader Text := fun t => some (t.takeWhile p, t.dropWhile p)

/-! ## Blanks, line ends and comments -/

/-- Spaces and tabs. -/
def isSpace (c : Char) : Bool := c == ' ' || c == '\t'

/-- Characters that may stand for themselves in comments and strings: all but control characters,
the tab excepted. -/
def isPlain (c : Char) : Bool := (' ' ≤ c && c != '\x7f') || c == '\t'

/-- Take spaces and tabs. -/
def skipBlanks : Reader Unit := fun t => some ((), t.dropWhile isSpace)

/-- What is left after spaces, tabs, line ends and comments; `comment` if the text starts inside a
comment. -/
def afterLayout : Bool → Text → Text
  | _, [] => []
  | true, c :: rest =>
    if isPlain c then afterLayout true rest
    else if c = '\n' then afterLayout false rest
    else if c = '\r' ∧ rest.head? = some '\n' then afterLayout false rest
    else c :: rest
  | false, c :: rest =>
    if isSpace c ∨ c = '\n' then afterLayout false rest
    else if c = '\r' ∧ rest.head? = some '\n' then afterLayout false rest
    else if c = '#' then afterLayout true rest
    else c :: rest

/-- Take spaces, tabs, line ends and comments. -/
def skipLayout : Reader Unit := fun t => some ((), afterLayout false t)

/-- Take the rest of a line on which nothing but a comment may stand. -/
def endLine : Reader Unit := do
  skipBlanks
  if (← peek) = some '#' then discard (takeWhile isPlain)
  match ← peek with
  | none => pure ()
  | some '\n' => expect ['\n']
  | some _ => expect ['\r', '\n']

end EditorPane.Toml

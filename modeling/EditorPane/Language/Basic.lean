import EditorPane.Language.Comment

/-!
# The language

What an editor needs to know of the WACC teaching language apart from its grammar: its reserved
words, its comments and its tab width.

## Main definitions

* `reservedWords`, `isReserved`.
* `Language`, `Language.wacc`.
-/

namespace EditorPane

/-- The reserved words. -/
def reservedWords : List String :=
  ["begin", "end", "is", "skip", "read", "free", "return", "exit", "print", "println", "if", "then",
    "else", "fi", "while", "do", "done", "newpair", "call", "fst", "snd", "pair", "null", "true",
    "false", "struct"]

/-- `word` is reserved. -/
def isReserved (word : String) : Bool := reservedWords.contains word

/-- A language as the editor sees it. -/
structure Language where
  name : String
  comments : CommentConfig
  tabWidth : Nat
  deriving DecidableEq, Repr

/-- Comments start with `#`, and a tab is two cells wide. -/
def Language.wacc : Language := ⟨"WACC", .line ['#'], 2⟩

end EditorPane

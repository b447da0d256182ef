import EditorPane.Diagnostic.SyntaxError

/-!
# The log of syntax errors

The log shows one line for each error of the last parse, or a single line that says there are
none. Before the first parse it is empty.

## Main definitions

* `DiagnosticsLog`, `DiagnosticsLog.ofErrors`, `DiagnosticsLog.isClean`.
-/

namespace EditorPane

/-- The lines shown. -/
structure DiagnosticsLog where
  lines : List String
  deriving DecidableEq, Repr, Inhabited

namespace DiagnosticsLog

/-- Shown when there are no errors. -/
def noErrors : String := "No Syntax Errors have been detected."

/-- The log of a list of errors. -/
def ofErrors (errors : List SyntaxError) : DiagnosticsLog :=
  ⟨if errors.isEmpty then [noErrors] else errors.map SyntaxError.logLine⟩

/-- The lines, one below the other. -/
def text (l : DiagnosticsLog) : String := "\n".intercalate l.lines

/-- The log says that there are no errors. -/
def isClean (l : DiagnosticsLog) : Bool := l.lines = [noErrors]

end DiagnosticsLog

end EditorPane

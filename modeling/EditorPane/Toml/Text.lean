import EditorPane.Text.Hex
import EditorPane.Toml.Reader

/-!
# Strings and keys of a TOML document

Strings stand between double quotes, with escapes, or between single quotes, without. Three quotes
open a string that may hold line ends; a line end right after them does not count, and two more
quotes may stand right before the closing ones. Keys are bare words or strings on one line, with
dots between the steps of a path.

## Main definitions

* `Toml.escape`, `Toml.readString` — strings.
* `Toml.readKey`, `Toml.readPath` — keys, of at most `Toml.maxSteps` steps.
-/

namespace EditorPane.Toml

/-! ## Escapes -/

/-- Take `n` hexadecimal digits onto a number. -/
def hexDigits : Nat → Nat → Reader Nat
  | 0, value => pure value
  | n + 1, value => do
    match hexValue? (← next) with
    | some d => hexDigits n (16 * value + d)
    | none => failure

/-- The character with a code point, which must not be half of a surrogate pair. -/
def scalar (code : Nat) : Reader Char :=
  if code < 0xD800 ∨ (0xDFFF < code ∧ code < 0x110000) then pure (Char.ofNat code) else failure

/-- Take what follows a backslash. -/
def escape : Reader Char := do
  match ← next with
  | 'b' => pure '\x08'
  | 't' => pure '\t'
  | 'n' => pure '\n'
  | 'f' => pure '\x0c'
  | 'r' => pure '\r'
  | 'e' => pure '\x1b'
  | '"' => pure '"'
  | '\\' => pure '\\'
  | 'x' => scalar (← hexDigits 2 0)
  | 'u' => scalar (← hexDigits 4 0)
  | 'U' => scalar (← hexDigits 8 0)
  | _ => failure

/-! ## Strings -/

/-- Take a line end. -/
def lineEnd : Reader Text := do
  match ← next with
  | '\n' => pure ['\n']
  | '\r' => expect ['\n']; pure ['\r', '\n']
  | _ => failure

/-- Take the rest of a string between double quotes, of at most `fuel` parts. -/
def basicRest : Nat → Reader Text
  | 0 => failure
  | fuel + 1 => do
    match ← next with
    | '"' => pure []
    | '\\' => return (← escape) :: (← basicRest fuel)
    | c => if isPlain c then return c :: (← basicRest fuel) else failure

/-- Take the rest of a string between single quotes. -/
def literalRest : Reader Text := do
  let body ← takeWhile fun c => isPlain c && c != '\''
  expect ['\'']
  pure body

/-- Take the quotes that close a string of several lines: three, with up to two more before them
that belong to the string. -/
def closingQuotes (quote : Char) : Reader Text := do
  expect [quote, quote, quote]
  let extra : Reader Text := do expect [quote]; pure [quote]
  let first ← extra <|> pure []
  let second ← extra <|> pure []
  pure (first ++ second)

/-- What is left after blanks and line ends. -/
def afterFold : Text → Text
  | [] => []
  | c :: rest =>
    if isSpace c ∨ c = '\n' ∨ (c = '\r' ∧ rest.head? = some '\n') then afterFold rest
    else c :: rest

/-- Take blanks and line ends, with no more than blanks before the first line end. -/
def foldedLineEnd : Reader Unit := do
  skipBlanks
  discard lineEnd
  fun t => some ((), afterFold t)

/-- Take the rest of a string of several lines, of at most `fuel` parts; `escapes` if it is
between double quotes. -/
def multilineRest (quote : Char) (escapes : Bool) : Nat → Reader Text
  | 0 => failure
  | fuel + 1 =>
    closingQuotes quote
    <|> (do return (← lineEnd) ++ (← multilineRest quote escapes fuel))
    <|> (do
      let c ← next
      if c = '\\' ∧ escapes then
        let part ← (do foldedLineEnd; pure []) <|> (do pure [← escape])
        return part ++ (← multilineRest quote escapes fuel)
      else if isPlain c then return c :: (← multilineRest quote escapes fuel)
      else failure)

/-- Take a string of several lines behind its opening quotes. -/
def multiline (quote : Char) (escapes : Bool) : Reader Text := do
  discard (lineEnd <|> pure [])
  let t ← get
  multilineRest quote escapes (t.length + 1)

/-- Take a string on one line behind its opening quote. -/
def singleLine (quote : Char) : Reader Text := do
  if quote = '"' then
    let t ← get
    basicRest (t.length + 1)
  else literalRest

/-- Take a string. -/
def readString : Reader String := do
  let quote ← next
  if quote = '"' ∨ quote = '\'' then
    let body ← (do expect [quote, quote]; multiline quote (quote = '"')) <|> singleLine quote
    pure (String.ofList body)
  else failure

/-! ## Keys -/

/-- The characters of bare keys. -/
def isBare (c : Char) : Bool := c.isAlphanum || c == '-' || c == '_'

/-- Take one step of a path. -/
def readKey : Reader String := do
  match ← peek with
  | some '"' => discard next; return String.ofList (← singleLine '"')
  | some '\'' => discard next; return String.ofList (← singleLine '\'')
  | _ =>
    let word ← takeWhile isBare
    if word.isEmpty then failure else pure (String.ofList word)

/-- Take the further steps of a path, at most `fuel` of them, and the blanks behind it. -/
def furtherKeys : Nat → Reader (List String)
  | 0 => failure
  | fuel + 1 => do
    skipBlanks
    if (← peek) = some '.' then
      discard next
      skipBlanks
      return (← readKey) :: (← furtherKeys fuel)
    else pure []

/-- The largest number of steps of a path. -/
def maxSteps : Nat := 80

/-- Take a path and the blanks behind it: the steps before the last, and the last. -/
def readPath : Reader (List String × String) := do
  let first ← readKey
  let t ← get
  let keys := first :: (← furtherKeys (t.length + 1))
  if maxSteps < keys.length then failure
  else pure (keys.dropLast, keys.getLast?.getD first)

end EditorPane.Toml

import EditorPane.Toml.DateTime
import EditorPane.Toml.Value
import EditorPane.Toml.Text

/-!
# TOML documents

A document is a list of lines: a key with its value, or the header of the table that the following
keys belong to. No table may be defined twice and no key may get two values; what a key or header
may add to depends on how the table it leads to came to be. Values nest at most
`Toml.maxNesting` deep.

## Main definitions

* `Toml.addAt`, `Toml.openTable`, `Toml.openElement`, `Toml.assign` — building tables.
* `Toml.readValue` — values.
* `Toml.parse?` — whole documents.
-/

namespace EditorPane.Toml

/-! ## Building tables -/

/-- Change the table at the end of a path. Steps that lead nowhere yet make new tables; `dotted`
says that the path is one of a key and not of a header. -/
def addAt (dotted : Bool) (change : Table → Option Table) : List String → Table → Option Table
  | [], t => change t
  | key :: path, t =>
    match t.find? key with
    | none => do
      let child ← addAt dotted change path ⟨if dotted then .dotted else .implied, []⟩
      pure (t.put key child.toValue)
    | some (.table origin entries) =>
      if origin = .braces ∨ (dotted ∧ origin = .header) then none
      else do
        let child ← addAt dotted change path ⟨origin, entries⟩
        pure (t.put key child.toValue)
    | some (.array true items) =>
      match items.getLast? with
      | some (.table origin entries) => do
        let child ← addAt dotted change path ⟨origin, entries⟩
        pure (t.put key (.array true (items.dropLast ++ [child.toValue])))
      | _ => none
    | some _ => none

/-- Give a key its value. Behind a path of dotted keys the table must have been made by such. -/
def assign (path : List String) (key : String) (v : Value) : Table → Option Table :=
  addAt true (fun t =>
    if decide (t.origin = .dotted) = path.isEmpty ∨ (t.find? key).isSome then none
    else some (t.put key v)) path

/-- Define the table of a header in single brackets. -/
def openTable (path : List String) (key : String) : Table → Option Table :=
  addAt false (fun t =>
    match t.find? key with
    | none => some (t.put key (.table .header []))
    | some (.table .implied entries) => some (t.put key (.table .header entries))
    | some _ => none) path

/-- Add a table to the array of a header in double brackets. -/
def openElement (path : List String) (key : String) : Table → Option Table :=
  addAt false (fun t =>
    match t.find? key with
    | none => some (t.put key (.array true [.table .header []]))
    | some (.array true items) => some (t.put key (.array true (items ++ [.table .header []])))
    | some _ => none) path

/-- The table that keys go to after headers: the one at the end of a path, or the last of the
array there. -/
def assignUnder (header path : List String) (key : String) (v : Value) : Table → Option Table :=
  addAt false (assign path key v) header

/-! ## Values -/

/-- How deep values may nest. -/
def maxNesting : Nat := 80

/-- The characters that end a word. -/
def endsWord (c : Char) : Bool :=
  isSpace c || c == '\n' || c == '\r' || c == '#' || c == ',' || c == '=' || c == '[' || c == ']'
    || c == '\x7b' || c == '\x7d'

/-- The text goes on with a word. A string and a point are not the start of one. -/
def startsWord (t : Text) : Bool :=
  t.head?.any fun c => !endsWord c && c != '.' && c != '"' && c != '\''

/-- The word at the front of a text, and what follows. A word may hold blanks, as a date with a
time does, if it goes on behind them. -/
def splitWord : Text → Text × Text
  | [] => ([], [])
  | c :: rest =>
    if !endsWord c || (isSpace c && startsWord (rest.dropWhile isSpace)) then
      (c :: (splitWord rest).1, (splitWord rest).2)
    else ([], c :: rest)

/-- Take the word of a value. -/
def readWord : Reader Text := fun t => some (splitWord t)

/-- The value that a word stands for. -/
def word? (t : Text) : Option Value :=
  if t = ['t', 'r', 'u', 'e'] then some (.boolean true)
  else if t = ['f', 'a', 'l', 's', 'e'] then some (.boolean false)
  else if isDateTime t then some (.dateTime (String.ofList t))
  else match numeral? t with
    | some n => some (.integer n)
    | none => (float? t).map .float

/-- Take the rest of an array, of at most `fuel` values. -/
def arrayRest (value : Reader Value) : Nat → Reader (List Value)
  | 0 => failure
  | fuel + 1 => do
    skipLayout
    if (← peek) = some ']' then discard next; pure []
    else
      let v ← value
      skipLayout
      match ← next with
      | ',' => return v :: (← arrayRest value fuel)
      | ']' => pure [v]
      | _ => failure

/-- Take the rest of a table between braces, of at most `fuel` keys. -/
def bracesRest (value : Reader Value) : Nat → Table → Reader Table
  | 0, _ => failure
  | fuel + 1, t => do
    skipLayout
    if (← peek) = some '\x7d' then discard next; pure t
    else
      let (path, key) ← readPath
      skipLayout
      expect ['=']
      skipLayout
      let v ← value
      match assign path key v t with
      | none => failure
      | some t' =>
        skipLayout
        match ← next with
        | ',' => bracesRest value fuel t'
        | '\x7d' => pure t'
        | _ => failure

/-- Take a value whose parts, if it is an array or a table, are read by `inner`. -/
def readValueWith (inner : Option (Reader Value)) : Reader Value := do
  match ← peek, inner with
  | some '"', _ | some '\'', _ => return .string (← readString)
  | some '[', some value =>
    discard next
    let t ← get
    return .array false (← arrayRest value (t.length + 1))
  | some '\x7b', some value =>
    discard next
    let t ← get
    return (← bracesRest value (t.length + 1) ⟨.braces, []⟩).toValue
  | _, _ =>
    match word? (← readWord) with
    | some v => pure v
    | none => failure

/-- Take a value with at most the given number of arrays and tables around each other. -/
def readValue : Nat → Reader Value
  | 0 => readValueWith none
  | nesting + 1 => readValueWith (some (readValue nesting))

/-! ## Lines -/

/-- A line of a document. -/
inductive Line where
  | blank
  | header (path : List String) (key : String)
  | element (path : List String) (key : String)
  | entry (path : List String) (key : String) (v : Value)

/-- Take a line. -/
def readLine : Reader Line := do
  skipBlanks
  let line : Line ← match ← peek with
    | none | some '#' | some '\n' | some '\r' => pure .blank
    | some '[' => do
      discard next
      if (← peek) = some '[' then
        discard next
        skipBlanks
        let (path, key) ← readPath
        expect [']', ']']
        pure (.element path key)
      else
        skipBlanks
        let (path, key) ← readPath
        expect [']']
        pure (.header path key)
    | _ => do
      let (path, key) ← readPath
      expect ['=']
      skipBlanks
      pure (.entry path key (← readValue maxNesting))
  endLine
  pure line

/-- A document under construction: its tables, and the path to the one that keys go to. -/
structure Draft where
  root : Table
  header : List String

/-- Nothing is read. -/
def Draft.empty : Draft := ⟨⟨.header, []⟩, []⟩

/-- The document with one more line. -/
def Draft.add (d : Draft) : Line → Option Draft
  | .blank => some d
  | .header path key => (openTable path key d.root).map fun r => ⟨r, path ++ [key]⟩
  | .element path key => (openElement path key d.root).map fun r => ⟨r, path ++ [key]⟩
  | .entry path key v => (assignUnder d.header path key v d.root).map fun r => ⟨r, d.header⟩

/-- Add all the lines of a text, at most `fuel` of them. -/
def addLines : Nat → Draft → Text → Option Draft
  | _, d, [] => some d
  | 0, _, _ => none
  | fuel + 1, d, t => do
    let (line, rest) ← readLine t
    addLines fuel (← d.add line) rest

/-- The entries of a document, which may start with a byte order mark. -/
def parse? (t : Text) : Option Entries :=
  let body := match t with
    | '\ufeff' :: rest => rest
    | _ => t
  (addLines (body.length + 1) .empty body).map fun d => d.root.entries

end EditorPane.Toml

import EditorPane.Toml.Number

/-!
# Values of a TOML document

The values that a document can hold, with what has to be remembered about tables and arrays while
the document is read. Integers, dates and times are kept as they are written, numbers with a
fraction as exact decimals.

## Main definitions

* `Toml.Value`, `Toml.Table`, `Toml.Origin`.
* `Toml.Value.toInt?` — what an integer is worth.
* `Toml.Table.find?`, `Toml.Table.put`.
* `Toml.Value.isRepresentable` — every number in a value fits a machine number.
-/

namespace EditorPane.Toml

/-- How a table came to be. -/
inductive Origin where
  /-- By a header of its own, or as the whole document. -/
  | header
  /-- As a step on the way in another table's header. -/
  | implied
  /-- As a step on the way in a dotted key. -/
  | dotted
  /-- Between braces; such a table cannot be added to. -/
  | braces
  deriving DecidableEq, Repr

/-- A value. -/
inductive Value where
  | string (s : String)
  | integer (n : Numeral)
  /-- A number with a fraction or exponent, or one of the special ones, which have no digits. -/
  | float (d : Option Decimal)
  | boolean (b : Bool)
  /-- A date, a time or both, as written. -/
  | dateTime (text : String)
  /-- An array; `ofTables` if it was made by headers in double brackets. -/
  | array (ofTables : Bool) (items : List Value)
  | table (origin : Origin) (entries : List (String × Value))
  deriving Repr

/-- The integer that a value stands for. -/
def Value.toInt? : Value → Option Int
  | .integer n => n.toInt?
  | _ => none

/-- The entries of a table, in the order in which they were made. -/
abbrev Entries := List (String × Value)

/-- A table under construction. -/
structure Table where
  origin : Origin
  entries : Entries

namespace Table

/-- The value of a key. -/
def find? (t : Table) (key : String) : Option Value := t.entries.lookup key

/-- The table with a new value for a key that may be in it. -/
def put (t : Table) (key : String) (v : Value) : Table :=
  if t.entries.any (·.1 = key) then
    { t with entries := t.entries.map fun e => if e.1 = key then (key, v) else e }
  else { t with entries := t.entries ++ [(key, v)] }

@[simp] theorem find?_put_self (t : Table) (key : String) (v : Value) :
    (t.put key v).find? key = some v := by
  obtain ⟨origin, entries⟩ := t
  induction entries with
  | nil => simp [put, find?]
  | cons e rest ih =>
    obtain ⟨k, w⟩ := e
    by_cases hk : k = key
    · simp [put, find?, hk]
    · have hk' : (key == k) = false := beq_false_of_ne (Ne.symm hk)
      by_cases hrest : rest.any (·.1 = key) <;>
        simpa [put, find?, List.lookup_cons, hk, hk', hrest] using ih

/-- The table as a value. -/
def toValue (t : Table) : Value := .table t.origin t.entries

end Table

/-- Every number in the value fits: integers are well written and take at most 128 bits, others are
finite doubles. -/
def Value.isRepresentable : Value → Bool
  | .integer n => n.toInt?.any fun n => -Int.pow 2 127 ≤ n && n < Int.pow 2 128
  | .float (some d) => d.isFinite
  | .array _ items => items.attach.all fun v => v.val.isRepresentable
  | .table _ entries => entries.attach.all fun e => e.val.2.isRepresentable
  | _ => true
termination_by v => sizeOf v
decreasing_by
  · have := List.sizeOf_lt_of_mem v.property
    simp only [array.sizeOf_spec]
    omega
  · have := List.sizeOf_lt_of_mem e.property
    have : sizeOf e.val.2 < sizeOf e.val := by
      obtain ⟨⟨k, v⟩, h⟩ := e
      simp only [Prod.mk.sizeOf_spec]
      omega
    simp only [table.sizeOf_spec]
    omega

end EditorPane.Toml

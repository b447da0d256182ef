import EditorPane.Tag.VisualClass

/-!
# Grammar constructs and their colours

The constructs of the WACC grammar, the lexical roles that a terminal can play in one, and the
table that says which roles of which constructs are coloured and how. Constructs that only wrap
others have no rules, and a role that a construct does not list is left plain.

## Main definitions

* `Anchor`, `Construct` — roles and constructs, with their names.
* `Construct.rules`, `Construct.classFor?` — the table and its look-up.
-/

namespace EditorPane

/-- The role of a terminal inside its construct. -/
inductive Anchor where
  /-- A reserved word. -/
  | keyword
  /-- An operator symbol or a word used as one. -/
  | operator
  /-- A literal value. -/
  | literal
  /-- The name of a built-in type. -/
  | typeName
  /-- A name chosen by the user. -/
  | identifier
  /-- Brackets, commas, semicolons and dots. -/
  | punctuation
  deriving DecidableEq, Repr

/-- Every role. -/
def Anchor.all : List Anchor := [keyword, operator, literal, typeName, identifier, punctuation]

/-- The name of a role. -/
def Anchor.name : Anchor → String
  | keyword => "Keyword"
  | operator => "Operator"
  | literal => "Literal"
  | typeName => "TypeName"
  | identifier => "Identifier"
  | punctuation => "Punctuation"

/-- The role with the given name. -/
def Anchor.ofName? (s : String) : Option Anchor := all.find? fun a => a.name = s

/-- The constructs of the grammar. -/
inductive Construct where
  /-- The form `begin func* stat end`. -/
  | program
  /-- The form `type ident ( params ) is stat end`. -/
  | func
  /-- The form `param (, param)*`. -/
  | paramList
  /-- The form `type ident`. -/
  | param
  /-- The form `struct ident { fields }`. -/
  | structDeclaration
  /-- The form `type ident` inside a struct declaration. -/
  | structField
  /-- The form `skip`. -/
  | statSkip
  /-- The form `type ident = rhs`. -/
  | statInit
  /-- The form `lhs = rhs`. -/
  | statStore
  /-- The form `read lhs`. -/
  | statRead
  /-- The form `free expr`. -/
  | statFree
  /-- The form `return expr`. -/
  | statReturn
  /-- The form `exit expr`. -/
  | statExit
  /-- The form `print expr`. -/
  | statPrint
  /-- The form `println expr`. -/
  | statPrintln
  /-- The form `if expr then stat else stat fi`. -/
  | statIfThenElse
  /-- The form `while expr do stat done`. -/
  | statWhileDo
  /-- The form `begin stat end`. -/
  | statBeginEnd
  /-- The form `stat ; stat`. -/
  | statJoin
  /-- Identifier on the left of an assignment. -/
  | assignLhsExpr
  /-- Array element on the left of an assignment. -/
  | assignLhsArrayElem
  /-- Pair element on the left of an assignment. -/
  | assignLhsPairElem
  /-- Expression on the right of an assignment. -/
  | assignRhsExpr
  /-- Array literal on the right of an assignment. -/
  | assignRhsArrayLiter
  /-- The form `newpair ( expr , expr )`. -/
  | assignRhsNewPair
  /-- Pair element on the right of an assignment. -/
  | assignRhsPairElem
  /-- The form `call ident ( args )`. -/
  | assignRhsCall
  /-- The form `expr (, expr)*`. -/
  | argList
  /-- The form `ident [ expr ]+`. -/
  | arrayElem
  /-- The form `[ expr (, expr)* ]`. -/
  | arrayLiter
  /-- The form `fst expr`. -/
  | pairElemFst
  /-- The form `snd expr`. -/
  | pairElemSnd
  /-- Base type in type position. -/
  | typeBaseType
  /-- Array type in type position. -/
  | typeArrayType
  /-- Pair type in type position. -/
  | typePairType
  /-- User struct type in type position. -/
  | typeStructType
  /-- The form `type [ ]`. -/
  | arrayType
  /-- The form `pair ( elem , elem )`. -/
  | pairType
  /-- Base type inside a pair type. -/
  | pairElemTypeBaseType
  /-- Array type inside a pair type. -/
  | pairElemTypeArrayType
  /-- Bare `pair` inside a pair type. -/
  | pairElemTypeKwPair
  /-- The form `int`. -/
  | baseTypeInt
  /-- The form `bool`. -/
  | baseTypeBool
  /-- The form `char`. -/
  | baseTypeChar
  /-- The form `string`. -/
  | baseTypeString
  /-- Name of a declared struct used as a type. -/
  | structType
  /-- Integer literal (sign included). -/
  | literalInteger
  /-- The form `true` / `false`. -/
  | literalBoolean
  /-- Char literal. -/
  | literalChar
  /-- String literal. -/
  | literalString
  /-- The form `null`. -/
  | literalPair
  /-- Literal in expression position. -/
  | exprLiteral
  /-- Identifier in expression position. -/
  | exprIdentifier
  /-- Array element in expression position. -/
  | exprArrayElem
  /-- Unary operator application. -/
  | exprUnary
  /-- Binary operator application. -/
  | exprBinary
  /-- The form `( expr )`. -/
  | exprBracket
  /-- The form `expr . ident`. -/
  | structFieldAccess
  deriving DecidableEq, Repr

namespace Construct

/-- Every construct. -/
def all : List Construct := [
    .program, .func, .paramList, .param, .structDeclaration, .structField, .statSkip, .statInit,
    .statStore, .statRead, .statFree, .statReturn, .statExit, .statPrint, .statPrintln,
    .statIfThenElse, .statWhileDo, .statBeginEnd, .statJoin, .assignLhsExpr, .assignLhsArrayElem,
    .assignLhsPairElem, .assignRhsExpr, .assignRhsArrayLiter, .assignRhsNewPair,
    .assignRhsPairElem, .assignRhsCall, .argList, .arrayElem, .arrayLiter, .pairElemFst,
    .pairElemSnd, .typeBaseType, .typeArrayType, .typePairType, .typeStructType, .arrayType,
    .pairType, .pairElemTypeBaseType, .pairElemTypeArrayType, .pairElemTypeKwPair, .baseTypeInt,
    .baseTypeBool, .baseTypeChar, .baseTypeString, .structType, .literalInteger, .literalBoolean,
    .literalChar, .literalString, .literalPair, .exprLiteral, .exprIdentifier, .exprArrayElem,
    .exprUnary, .exprBinary, .exprBracket, .structFieldAccess]

/-- The name of a construct. -/
def name : Construct → String
  | program => "Program"
  | func => "Func"
  | paramList => "ParamList"
  | param => "Param"
  | structDeclaration => "StructDeclaration"
  | structField => "StructField"
  | statSkip => "StatSkip"
  | statInit => "StatInit"
  | statStore => "StatStore"
  | statRead => "StatRead"
  | statFree => "StatFree"
  | statReturn => "StatReturn"
  | statExit => "StatExit"
  | statPrint => "StatPrint"
  | statPrintln => "StatPrintln"
  | statIfThenElse => "StatIfThenElse"
  | statWhileDo => "StatWhileDo"
  | statBeginEnd => "StatBeginEnd"
  | statJoin => "StatJoin"
  | assignLhsExpr => "AssignLhsExpr"
  | assignLhsArrayElem => "AssignLhsArrayElem"
  | assignLhsPairElem => "AssignLhsPairElem"
  | assignRhsExpr => "AssignRhsExpr"
  | assignRhsArrayLiter => "AssignRhsArrayLiter"
  | assignRhsNewPair => "AssignRhsNewPair"
  | assignRhsPairElem => "AssignRhsPairElem"
  | assignRhsCall => "AssignRhsCall"
  | argList => "ArgList"
  | arrayElem => "ArrayElem"
  | arrayLiter => "ArrayLiter"
  | pairElemFst => "PairElemFst"
  | pairElemSnd => "PairElemSnd"
  | typeBaseType => "TypeBaseType"
  | typeArrayType => "TypeArrayType"
  | typePairType => "TypePairType"
  | typeStructType => "TypeStructType"
  | arrayType => "ArrayType"
  | pairType => "PairType"
  | pairElemTypeBaseType => "PairElemTypeBaseType"
  | pairElemTypeArrayType => "PairElemTypeArrayType"
  | pairElemTypeKwPair => "PairElemTypeKwPair"
  | baseTypeInt => "BaseTypeInt"
  | baseTypeBool => "BaseTypeBool"
  | baseTypeChar => "BaseTypeChar"
  | baseTypeString => "BaseTypeString"
  | structType => "StructType"
  | literalInteger => "LiteralInteger"
  | literalBoolean => "LiteralBoolean"
  | literalChar => "LiteralChar"
  | literalString => "LiteralString"
  | literalPair => "LiteralPair"
  | exprLiteral => "ExprLiteral"
  | exprIdentifier => "ExprIdentifier"
  | exprArrayElem => "ExprArrayElem"
  | exprUnary => "ExprUnary"
  | exprBinary => "ExprBinary"
  | exprBracket => "ExprBracket"
  | structFieldAccess => "StructFieldAccess"

/-- The construct with the given name. -/
def ofName? (s : String) : Option Construct := all.find? fun c => c.name = s

/-! ## The table -/

/-- The roles that a construct colours, with their classes. -/
def rules : Construct → List (Anchor × VisualClass)
  | program | statSkip | statRead | statFree | statReturn | statExit | statPrint | statPrintln
  | statIfThenElse | statWhileDo | statBeginEnd | pairElemFst | pairElemSnd | assignRhsNewPair =>
    [(.keyword, .keyword)]
  | func | structDeclaration => [(.keyword, .keyword), (.identifier, .declaration)]
  | param => [(.identifier, .declaration)]
  | structField | structFieldAccess => [(.identifier, .field)]
  | statInit => [(.identifier, .declaration), (.operator, .operator)]
  | statStore | exprUnary | exprBinary => [(.operator, .operator)]
  | assignRhsCall => [(.keyword, .keyword), (.identifier, .function)]
  | assignLhsExpr | exprIdentifier | arrayElem => [(.identifier, .mainText)]
  | baseTypeInt | baseTypeBool | baseTypeChar | baseTypeString | pairElemTypeKwPair | pairType =>
    [(.typeName, .typeName), (.keyword, .typeName)]
  | arrayType => [(.punctuation, .typeName)]
  | structType => [(.identifier, .typeName)]
  | literalInteger => [(.literal, .int), (.operator, .int)]
  | literalChar | literalString => [(.literal, .string)]
  | literalBoolean | literalPair => [(.literal, .keyword), (.keyword, .keyword)]
  | paramList | statJoin | assignLhsArrayElem | assignLhsPairElem | assignRhsExpr
  | assignRhsArrayLiter | assignRhsPairElem | argList | arrayLiter | typeBaseType | typeArrayType
  | typePairType | typeStructType | pairElemTypeBaseType | pairElemTypeArrayType | exprLiteral
  | exprArrayElem | exprBracket => []

/-- The class of a terminal with the given role in a construct. -/
def classFor? (c : Construct) (a : Anchor) : Option VisualClass :=
  (c.rules.find? fun r => r.1 = a).map Prod.snd

/-- The table never colours by the classes of comments and errors. -/
theorem classFor?_ne {c : Construct} {a : Anchor} {v : VisualClass} (h : c.classFor? a = some v) :
    v ≠ .comment ∧ v ≠ .error := by
  cases c <;> cases a <;> simp_all [classFor?, rules] <;> subst h <;> decide

end Construct

end EditorPane

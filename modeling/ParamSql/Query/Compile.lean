import ParamSql.Query.ParameterTable
import ParamSql.Text.Blank
import ParamSql.Token

/-!
# Compiling tokens

* `placeholder` — how a position is written in a query, a sign and its decimal digits;
  `placeholder_inj` says that no two positions are written alike.
* `emit` — the fragments of a query: SQL as it is, each variable as the placeholder of its
  parameter.
* `joinFragments` — the text of a query.
* `compile` — all of it, with the parameters and the conflicts.
-/

set_option autoImplicit false

namespace ParamSql

open ParamSql.Text

/-- How placeholders are written. -/
inductive PlaceholderStyle where
  /-- A dollar sign and the position. -/
  | dollar
  /-- A question mark and the position. -/
  | numbered
  deriving DecidableEq, Repr

/-- What can be chosen about the text of a query. -/
structure CompileOptions where
  placeholder : PlaceholderStyle := .dollar
  deriving DecidableEq, Repr

/-- A query ready to be called: its text, its parameters in the order of their positions, and the
conflicts among the declarations of its variables. -/
structure CompiledQuery where
  text : String
  parameters : List Parameter
  conflicts : List Conflict

/-- The sign that placeholders start with. -/
def PlaceholderStyle.sign : PlaceholderStyle → Char
  | dollar => '$'
  | numbered => '?'

/-- The placeholder of a position. -/
def placeholder (style : PlaceholderStyle) (position : Nat) : String :=
  String.ofList (style.sign :: digitsOf position)

section

variable {style : PlaceholderStyle}

theorem toList_placeholder (n : Nat) :
    (placeholder style n).toList = style.sign :: Nat.toDigits 10 n := by
  rw [placeholder, String.toList_ofList, digitsOf]

/-- A placeholder tells its position. -/
theorem placeholder_inj {n k : Nat} : placeholder style n = placeholder style k ↔ n = k := by
  refine ⟨fun h => ?_, congrArg _⟩
  have hchars := congrArg String.toList h
  rw [toList_placeholder, toList_placeholder, List.cons.injEq] at hchars
  calc
    n = Nat.ofDigitChars 10 (Nat.toDigits 10 n) 0 := Nat.ofDigitChars_ten_toDigits.symm
    _ = Nat.ofDigitChars 10 (Nat.toDigits 10 k) 0 := by rw [hchars.2]
    _ = k := Nat.ofDigitChars_ten_toDigits

end

/-- The fragments of a query from a table on, and the table after it. -/
def emit (style : PlaceholderStyle) (table : ParameterTable) :
    List Token → List String × ParameterTable
  | [] => ([], table)
  | .sql text :: tokens =>
    let (fragments, table) := emit style table tokens
    (text :: fragments, table)
  | .param x :: tokens =>
    let (position, table) := table.register x
    let (fragments, table) := emit style table tokens
    (placeholder style position :: fragments, table)

/-! ## Joining fragments -/

/-- Adds a fragment to a text that is held back to front. A closing parenthesis or a comma takes the
place of the blanks before it, and no blank follows an opening parenthesis. -/
def addFragment (reversed : List Char) (fragment : String) : List Char :=
  let before :=
    if fragment = ")" || fragment = "," then reversed.dropWhile isBlank else reversed
  let after := fragment.toList.reverse ++ before
  if fragment = "(" then after else ' ' :: after

/-- The characters of fragments with a space between each two, none inside of parentheses and none
before a comma. -/
def joinChars (fragments : List String) : List Char :=
  ((fragments.foldl addFragment []).dropWhile isBlank).reverse

/-- The text of fragments. -/
def joinFragments (fragments : List String) : String := String.ofList (joinChars fragments)

/-! ## Compiling -/

/-- The query that tokens stand for. -/
def compile (tokens : List Token) (options : CompileOptions := {}) : CompiledQuery :=
  let (fragments, table) := emit options.placeholder {} tokens
  ⟨joinFragments fragments, table.parameters, table.conflicts⟩

namespace CompiledQuery

/-- Fails with the first conflict among the declarations. -/
def ensureConsistent (q : CompiledQuery) : Except Error Unit :=
  match q.conflicts with
  | [] => .ok ()
  | c :: _ => .error (.conflictingDefinitions c.name)

/-- Equality of queries. -/
def eq (a b : CompiledQuery) : Bool :=
  a.text == b.text
    && (a.parameters.length == b.parameters.length
      && (a.parameters.zip b.parameters).all fun p => p.1.eq p.2)
    && (a.conflicts.length == b.conflicts.length
      && (a.conflicts.zip b.conflicts).all fun c => c.1.eq c.2)

end CompiledQuery

end ParamSql

import ParamSql.Text.Printable
import ParamSql.Text.Hex

/-!
# Quoted texts

Three ways to put a text between quotes.

* `delimited` — an SQL delimited identifier: a double quote is doubled, a backslash too, and the
  character NUL, which no SQL text may hold, becomes a backslash and a zero.
* `literal` — an SQL string literal: a single quote is doubled.
* `shown` — a text in an error message: what prints stands as it is, the rest as an escape.
-/

set_option autoImplicit false

namespace ParamSql.Text

/-! ## Delimited identifiers -/

/-- How a character stands inside a delimited identifier. -/
def delimitedChar (c : Char) : List Char :=
  if c = '"' then ['"', '"']
  else if c = '\\' then ['\\', '\\']
  else if c = '\x00' then ['\\', '0']
  else [c]

/-- The inside of a delimited identifier. -/
def delimitedBody (cs : List Char) : List Char := cs.flatMap delimitedChar

/-- A text as an SQL delimited identifier. -/
def delimited (s : String) : String :=
  String.ofList ('"' :: delimitedBody s.toList ++ ['"'])

/-! ## String literals -/

/-- How a character stands inside a string literal. -/
def literalChar (c : Char) : List Char := if c = '\'' then ['\'', '\''] else [c]

/-- The inside of a string literal. -/
def literalBody (cs : List Char) : List Char := cs.flatMap literalChar

/-- A text between single quotes. -/
def enclosed (cs : List Char) : List Char := '\'' :: cs ++ ['\'']

/-- A text as an SQL string literal. -/
def literal (cs : List Char) : List Char := enclosed (literalBody cs)

/-! ## Texts in messages -/

/-- An escape that names a code point. -/
def codePointEscape (c : Char) : List Char :=
  ['\\', 'u', '\x7b'] ++ shortLowerHex c.toNat ++ ['\x7d']

/-- How a character stands in a message. -/
def shownChar (c : Char) : List Char :=
  if c = '"' then ['\\', '"']
  else if c = '\\' then ['\\', '\\']
  else if c = '\n' then ['\\', 'n']
  else if c = '\r' then ['\\', 'r']
  else if c = '\t' then ['\\', 't']
  else if c = '\x00' then ['\\', '0']
  else if isPrintable c && !isExtending c then [c]
  else codePointEscape c

/-- A text as a message quotes it. -/
def shown (s : String) : String :=
  String.ofList ('"' :: s.toList.flatMap shownChar ++ ['"'])

/-- A list of texts as a message quotes it. -/
def shownList (texts : List String) : String :=
  "[" ++ String.intercalate ", " (texts.map shown) ++ "]"

end ParamSql.Text

import ParamSql.Text.Letter
import ParamSql.Text.Quoted

/-!
# Names of parameters

A parameter is named by an identifier that is not a keyword. Any text at all can be turned into
such a name.

* `isValid` — whether a text can name a parameter.
* `clean` — the name made of a text: what an identifier cannot hold is dropped, and an underscore
  is put in front where the rest is not yet a name.
-/

set_option autoImplicit false

namespace ParamSql.Name

open ParamSql.Text

/-- The keywords, none of which names a parameter. -/
def keywords : List String := [
  "as", "async", "await", "break", "const", "continue", "crate", "dyn", "else", "enum",
  "extern", "false", "fn", "for", "if", "impl", "in", "let", "loop", "match", "mod", "move",
  "mut", "pub", "ref", "return", "self", "Self", "static", "struct", "super", "trait", "true",
  "type", "unsafe", "use", "where", "while", "abstract", "become", "box", "do", "final",
  "macro", "override", "priv", "try", "typeof", "unsized", "virtual", "yield"]

/-- Whether a text is a keyword. -/
def isKeyword (name : String) : Bool := keywords.contains name

/-- Whether a character may start an identifier. -/
def startsIdentifier (c : Char) : Bool := isAlphabetic c || c == '_'

/-- Whether a character may stand in an identifier. -/
def continuesIdentifier (c : Char) : Bool := isAlphanumeric c || c == '_'

/-- Whether a text is an identifier: a letter or an underscore, then letters, numbers and
underscores. -/
def isIdentifier (name : String) : Bool :=
  match name.toList with
  | [] => false
  | c :: cs => startsIdentifier c && cs.all continuesIdentifier

/-- Whether a text can name a parameter: it is an identifier and not a keyword. -/
def isValid (name : String) : Bool := isIdentifier name && !isKeyword name

/-- What an identifier can hold of a text. -/
def kept (text : String) : String := String.ofList (text.toList.filter continuesIdentifier)

/-- The parameter name made of a text. -/
def clean (text : String) : String :=
  if isValid (kept text) then kept text else "_" ++ kept text

end ParamSql.Name

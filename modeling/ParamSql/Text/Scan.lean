import ParamSql.Text.Quoted

/-!
# Scanning quoted texts

How SQL reads what stands between quotes: a doubled quote stands for one, a quote alone closes.

* `scanQuoted` — the contents of a quoted text and what stands behind it.
* `unescape` — undoes the backslashes of a delimited identifier.
* `literals?` — the contents of the string literals of a text.
-/

set_option autoImplicit false

namespace ParamSql.Text

/-- The contents of a text after its opening quote, and what stands behind the closing one. None if
no quote closes it. -/
def scanQuoted (quote : Char) : List Char → Option (List Char × List Char)
  | [] => none
  | [c] => if c = quote then some ([], []) else none
  | c :: d :: cs =>
    if c = quote then
      if d = quote then (scanQuoted quote cs).map fun p => (quote :: p.1, p.2)
      else some ([], d :: cs)
    else (scanQuoted quote (d :: cs)).map fun p => (c :: p.1, p.2)

/-- The text whose backslashes are doubled and whose NUL characters are written as a backslash and a
zero; none if a backslash stands before anything else. -/
def unescape : List Char → Option (List Char)
  | [] => some []
  | '\\' :: '\\' :: cs => (unescape cs).map ('\\' :: ·)
  | '\\' :: '0' :: cs => (unescape cs).map ('\x00' :: ·)
  | c :: cs => if c = '\\' then none else (unescape cs).map (c :: ·)

/-- The contents of the string literals of a text, in order, given what has been read of the one the
scan stands in. None if the text ends inside a literal. -/
def literals? : Option (List Char) → List Char → Option (List (List Char))
  | none, [] => some []
  | some _, [] => none
  | none, c :: cs => literals? (if c = '\'' then some [] else none) cs
  | some read, [c] => if c = '\'' then some [read] else none
  | some read, c :: d :: cs =>
    if c = '\'' then
      if d = '\'' then literals? (some (read ++ ['\''])) cs
      else (literals? none (d :: cs)).map (read :: ·)
    else literals? (some (read ++ [c])) (d :: cs)

example : scanQuoted '"' (delimitedBody ['a', '"', '\x00'] ++ ['"', ' ', 'b'])
    = some (['a', '"', '\\', '0'], [' ', 'b']) := by decide

example : literals? none "ARRAY['it''s', 'b', 3]".toList = some ["it's".toList, ['b']] := by decide

end ParamSql.Text

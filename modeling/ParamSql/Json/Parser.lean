import ParamSql.Json.Document

/-!
# Reading JSON documents

* `Document.ofText?` — the document of a text that follows the JSON grammar, with nothing but
  blanks around it.

A value takes at least one character, and between two characters at most one list is entered, so
twice the length of the text bounds the calls that are open at a time.
-/

set_option autoImplicit false

namespace ParamSql.Document

open ParamSql.Text

/-- Whether a character is white space between the parts of a document. -/
def isSpace (c : Char) : Bool := c == ' ' || c == '\t' || c == '\n' || c == '\r'

/-- The text without white space at its start. -/
def skipSpace (cs : List Char) : List Char := cs.dropWhile isSpace

/-! ## Strings -/

/-- A part of a string: a character, or a code unit of 16 bits that an escape names. -/
inductive Piece where
  | char (c : Char)
  | codeUnit (n : Nat)
  deriving DecidableEq, Repr

/-- The character of an escape of one letter. -/
def escapedChar? (c : Char) : Option Char :=
  if c = '"' then some '"'
  else if c = '\\' then some '\\'
  else if c = '/' then some '/'
  else if c = 'b' then some '\x08'
  else if c = 'f' then some '\x0c'
  else if c = 'n' then some '\n'
  else if c = 'r' then some '\r'
  else if c = 't' then some '\t'
  else none

/-- The parts of a string up to its closing quote, and what stands behind it. -/
def pieces? : List Char → Option (List Piece × List Char)
  | [] => none
  | '"' :: rest => some ([], rest)
  | '\\' :: 'u' :: a :: b :: c :: d :: rest => do
    let n ← readHex? [a, b, c, d]
    let (ps, more) ← pieces? rest
    some (.codeUnit n :: ps, more)
  | '\\' :: e :: rest => do
    let c ← escapedChar? e
    let (ps, more) ← pieces? rest
    some (.char c :: ps, more)
  | c :: rest =>
    if c.toNat < 0x20 then none
    else do
      let (ps, more) ← pieces? rest
      some (.char c :: ps, more)

/-- Whether a code unit is the first half of a surrogate pair. -/
def isHighSurrogate (n : Nat) : Bool := 0xd800 ≤ n && n < 0xdc00

/-- Whether a code unit is the second half of a surrogate pair. -/
def isLowSurrogate (n : Nat) : Bool := 0xdc00 ≤ n && n < 0xe000

/-- The characters that parts of a string stand for; none if half of a surrogate pair stands
alone. -/
def joinPieces? : List Piece → Option (List Char)
  | [] => some []
  | .char c :: rest => (joinPieces? rest).map (c :: ·)
  | .codeUnit n :: .codeUnit m :: rest =>
    if isHighSurrogate n then
      if isLowSurrogate m then
        (joinPieces? rest).map
          (Char.ofNat (0x10000 + (n - 0xd800) * 0x400 + (m - 0xdc00)) :: ·)
      else none
    else if isLowSurrogate n then none
    else (joinPieces? (.codeUnit m :: rest)).map (Char.ofNat n :: ·)
  | .codeUnit n :: rest =>
    if isHighSurrogate n || isLowSurrogate n then none
    else (joinPieces? rest).map (Char.ofNat n :: ·)

/-- A string after its opening quote. -/
def stringBody? (cs : List Char) : Option (Option String × List Char) :=
  (pieces? cs).map fun (ps, rest) => ((joinPieces? ps).map String.ofList, rest)

/-! ## Numerals -/

/-- The digits at the start of a text, one at least. -/
def digits? (cs : List Char) : Option (List Char × List Char) :=
  let digits := cs.takeWhile Char.isDigit
  if digits.isEmpty then none else some (digits, cs.dropWhile Char.isDigit)

/-- The digits before a point: a leading zero stands alone. -/
def whole? (cs : List Char) : Option (List Char × List Char) := do
  let (digits, rest) ← digits? cs
  if 1 < digits.length && digits.head? == some '0' then none else some (digits, rest)

/-- The digits after a point, if there is a point. -/
def fraction? (cs : List Char) : Option (List Char × List Char) :=
  match cs with
  | '.' :: rest => digits? rest
  | _ => some ([], cs)

/-- The digits of a power of ten after its sign. -/
def signedExponent? (negative : Bool) (cs : List Char) : Option (Option Int × List Char) :=
  (digits? cs).map fun (digits, rest) =>
    let e : Int := Numeral.readDigits digits
    (some (if negative then -e else e), rest)

/-- A power of ten, if there is one. -/
def exponent? (cs : List Char) : Option (Option Int × List Char) :=
  match cs with
  | [] => some (none, [])
  | c :: rest =>
    if c = 'e' ∨ c = 'E' then
      match rest with
      | '-' :: more => signedExponent? true more
      | '+' :: more => signedExponent? false more
      | _ => signedExponent? false rest
    else some (none, cs)

/-- A numeral after its sign. -/
def unsigned? (negative : Bool) (cs : List Char) : Option (Numeral × List Char) := do
  let (whole, rest) ← whole? cs
  let (fraction, rest) ← fraction? rest
  let (exponent, rest) ← exponent? rest
  some (⟨negative, whole, fraction, exponent⟩, rest)

/-- A numeral. -/
def numeral? (cs : List Char) : Option (Numeral × List Char) :=
  match cs with
  | '-' :: rest => unsigned? true rest
  | _ => unsigned? false cs

/-! ## Values -/

/-- A constant that stands at the start of a text. -/
def constant? (word : List Char) (d : Document) (cs : List Char) :
    Option (Document × List Char) :=
  if word.isPrefixOf cs then some (d, cs.drop word.length) else none

/-- A value that has no parts. -/
def scalar? (cs : List Char) : Option (Document × List Char) :=
  match cs with
  | '"' :: rest => (stringBody? rest).map fun (s, more) => (.string s, more)
  | 'n' :: _ => constant? ['n', 'u', 'l', 'l'] .null cs
  | 't' :: _ => constant? ['t', 'r', 'u', 'e'] (.bool true) cs
  | 'f' :: _ => constant? ['f', 'a', 'l', 's', 'e'] (.bool false) cs
  | _ => (numeral? cs).map fun (n, more) => (.number n, more)

mutual

/-- A value at the start of a text. -/
def value? : Nat → List Char → Option (Document × List Char)
  | 0, _ => none
  | n + 1, cs =>
    match skipSpace cs with
    | '[' :: rest =>
      match skipSpace rest with
      | ']' :: more => some (.array [], more)
      | _ => (items? n rest).map fun (ds, more) => (.array ds, more)
    | '\x7b' :: rest =>
      match skipSpace rest with
      | '\x7d' :: more => some (.object [], more)
      | _ => (fields? n rest).map fun (fs, more) => (.object fs, more)
    | rest => scalar? rest

/-- The items of an array up to its closing bracket, one at least. -/
def items? : Nat → List Char → Option (List Document × List Char)
  | 0, _ => none
  | n + 1, cs => do
    let (d, rest) ← value? n cs
    match skipSpace rest with
    | ',' :: more => (items? n more).map fun (ds, after) => (d :: ds, after)
    | ']' :: more => some ([d], more)
    | _ => none

/-- The fields of an object up to its closing brace, one at least. -/
def fields? : Nat → List Char → Option (List (Option String × Document) × List Char)
  | 0, _ => none
  | n + 1, cs => do
    let (key, rest) ← match skipSpace cs with
      | '"' :: rest => stringBody? rest
      | _ => none
    let (d, rest) ← match skipSpace rest with
      | ':' :: rest => value? n rest
      | _ => none
    match skipSpace rest with
    | ',' :: more => (fields? n more).map fun (fs, after) => ((key, d) :: fs, after)
    | '\x7d' :: more => some ([(key, d)], more)
    | _ => none

end

/-- The document of a text. -/
def ofText? (s : String) : Option Document := do
  let cs := s.toList
  let (d, rest) ← value? (2 * cs.length + 2) cs
  if (skipSpace rest).isEmpty then some d else none

end ParamSql.Document

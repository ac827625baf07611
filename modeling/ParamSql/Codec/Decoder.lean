import ParamSql.Json.Basic

/-!
# Decoding documents

A decoder takes a document to what it encodes. It is told how deep the arrays and objects it looks
at may be nested, and it does not look into fields that it does not know.

* `Decoder.list`, `Decoder.nullable`, `Decoder.tagged?` — the encodings of lists, of optional parts and
  of alternatives.
* `fields?` — the parts of a record.
-/

set_option autoImplicit false

namespace ParamSql.Codec

open ParamSql

/-- Takes a document, in which arrays and objects may be nested so deep, to what it encodes. -/
abbrev Decoder (α : Type) := Nat → Document → Option α

variable {α : Type}

namespace Decoder

/-- A string. -/
def text : Decoder String
  | _, .string s => s
  | _, _ => none

/-- A list, as an array. -/
def list (item : Decoder α) : Decoder (List α)
  | depth + 1, .array items => items.mapM (item depth)
  | _, _ => none

/-- An optional part, which is null when it is missing. -/
def nullable (part : Decoder α) : Decoder (Option α)
  | _, .null => some none
  | depth, d => (part depth d).map some

/-- Any document whatever that is not nested too deep. -/
def within (read : Document → Option α) : Decoder α :=
  fun depth d => if d.nesting ≤ depth then read d else none

end Decoder

/-- A document as an alternative: its tag, and what stands behind the tag in an object of one field.
A string is a tag alone. -/
def tagged? : Document → Option (String × Option Document)
  | .string s => s.map fun tag => (tag, none)
  | .object [(some tag, d)] => some (tag, some d)
  | _ => none

/-- The value with a tag among those that have no parts. Null may stand behind the tag. -/
def tagAlone? (tags : List (String × α)) (d : Document) : Option α :=
  match tagged? d with
  | some (tag, none) => tags.lookup tag
  | some (tag, some .null) => tags.lookup tag
  | _ => none

/-! ## Records -/

/-- Puts the document of a field at the place of its name. None if the place is taken. -/
def putField? (name : String) (d : Document) :
    List String → List (Option Document) → Option (List (Option Document))
  | n :: names, slot :: slots =>
    if n = name then
      match slot with
      | none => some (some d :: slots)
      | some _ => none
    else (putField? name d names slots).map (slot :: ·)
  | _, slots => some slots

/-- The documents of fields, each at the place of its name. Fields of other names are passed
over. -/
def collect? (names : List String) :
    List (Option String × Document) → List (Option Document) → Option (List (Option Document))
  | [], slots => some slots
  | (none, _) :: _, _ => none
  | (some name, d) :: fields, slots =>
    (putField? name d names slots).bind (collect? names fields)

/-- The parts of a record of the fields named, in that order, each with what is left of the nesting.
A record is an object, in which fields may be missing, or an array of its parts, of which those
after the first `needed` may be missing. -/
def fields? (names : List String) (needed : Nat) : Decoder (List (Option Document))
  | _ + 1, .object fields => collect? names fields (names.map fun _ => none)
  | _ + 1, .array items =>
    if needed ≤ items.length ∧ items.length ≤ names.length then
      some (items.map some ++ List.replicate (names.length - items.length) none)
    else none
  | _, _ => none

/-- A part of a record that must be there. -/
def present? (part : Decoder α) (depth : Nat) (d : Option Document) : Option α :=
  d.bind (part (depth - 1))

/-- A part of a record that has a default. -/
def presentOr? (default : α) (part : Decoder α) (depth : Nat) (d : Option Document) :
    Option α :=
  match d with
  | none => some default
  | some d => part (depth - 1) d

end ParamSql.Codec

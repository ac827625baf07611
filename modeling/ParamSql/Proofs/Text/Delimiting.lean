import ParamSql.Column
import ParamSql.Text.Scan

/-!
# Reading delimited identifiers back

* `scanQuoted_doubled` — a text with its quotes doubled is read up to the closing quote, whatever
  stands behind it.
* `unescape_escaped` — the backslashes of a delimited identifier are undone.
* `delimited_append_inj`, `Column.sql_append_inj` — a text starts with at most one delimited
  identifier and with at most one column.
-/

set_option autoImplicit false

namespace ParamSql

namespace Text

/-- How a character stands where quotes are doubled. -/
def doubled (quote c : Char) : List Char := if c = quote then [quote, quote] else [c]

/-- How a character stands in a delimited identifier before its quotes are doubled. -/
def escapedChar (c : Char) : List Char :=
  if c = '\\' then ['\\', '\\'] else if c = '\x00' then ['\\', '0'] else [c]

theorem delimitedChar_eq (c : Char) : delimitedChar c = (escapedChar c).flatMap (doubled '"') := by
  unfold delimitedChar escapedChar
  by_cases h₁ : c = '"'
  · subst h₁
    rfl
  by_cases h₂ : c = '\\'
  · subst h₂
    rfl
  by_cases h₃ : c = '\x00'
  · subst h₃
    rfl
  simp [h₁, h₂, h₃, doubled]

theorem delimitedBody_eq (cs : List Char) :
    delimitedBody cs = (cs.flatMap escapedChar).flatMap (doubled '"') := by
  rw [delimitedBody, List.flatMap_assoc]
  exact congrArg (cs.flatMap ·) (funext delimitedChar_eq)

theorem scanQuoted_cons_of_ne {quote c : Char} {cs : List Char} (hc : c ≠ quote) (hcs : cs ≠ []) :
    scanQuoted quote (c :: cs) = (scanQuoted quote cs).map fun p => (c :: p.1, p.2) := by
  cases cs with
  | nil => exact absurd rfl hcs
  | cons d ds => rw [scanQuoted, if_neg hc]

/-- **Doubled quotes are read as one, and the first quote alone closes**, if no quote follows. -/
theorem scanQuoted_doubled (quote : Char) (cs : List Char) {rest : List Char}
    (hrest : rest.head? ≠ some quote) :
    scanQuoted quote (cs.flatMap (doubled quote) ++ quote :: rest) = some (cs, rest) := by
  induction cs with
  | nil =>
    cases rest with
    | nil => simp [scanQuoted]
    | cons d ds =>
      have hd : d ≠ quote := fun h => hrest (by rw [h]; rfl)
      simp [scanQuoted, hd]
  | cons c cs ih =>
    rw [List.flatMap_cons, List.append_assoc, doubled]
    by_cases hc : c = quote
    · subst hc
      rw [if_pos rfl, List.cons_append, List.cons_append, scanQuoted, if_pos rfl, if_pos rfl,
        List.nil_append, ih]
      rfl
    · rw [if_neg hc, List.singleton_append, scanQuoted_cons_of_ne hc (by simp), ih]
      rfl

theorem unescape_cons {c : Char} (h : c ≠ '\\') (cs : List Char) :
    unescape (c :: cs) = (unescape cs).map (c :: ·) := by
  rw [unescape.eq_def]
  split <;> simp_all

/-- Undoing the backslashes gives back the text. -/
theorem unescape_escaped (cs : List Char) : unescape (cs.flatMap escapedChar) = some cs := by
  induction cs with
  | nil => rfl
  | cons c cs ih =>
    rw [List.flatMap_cons, escapedChar]
    by_cases h₁ : c = '\\'
    · subst h₁
      simp [unescape, ih]
    by_cases h₂ : c = '\x00'
    · subst h₂
      simp [unescape, ih]
    rw [if_neg h₁, if_neg h₂, List.singleton_append, unescape_cons h₁, ih]
    rfl

theorem toList_delimited (s : String) :
    (delimited s).toList =
      '"' :: ((s.toList.flatMap escapedChar).flatMap (doubled '"') ++ ['"']) := by
  rw [delimited, String.toList_ofList, delimitedBody_eq, List.cons_append]

/-- **A text starts with at most one delimited identifier**, if no quote follows it. -/
theorem delimited_append_inj {s t : String} {r r' : List Char} (hr : r.head? ≠ some '"')
    (hr' : r'.head? ≠ some '"')
    (h : (delimited s).toList ++ r = (delimited t).toList ++ r') : s = t ∧ r = r' := by
  rw [toList_delimited, toList_delimited, List.cons_append, List.cons_append, List.append_assoc,
    List.append_assoc, List.cons.injEq] at h
  have hscan := congrArg (scanQuoted '"') h.2
  rw [List.singleton_append, List.singleton_append, scanQuoted_doubled _ _ hr,
    scanQuoted_doubled _ _ hr', Option.some.injEq, Prod.mk.injEq] at hscan
  have hescaped := congrArg unescape hscan.1
  rw [unescape_escaped, unescape_escaped, Option.some.injEq] at hescaped
  exact ⟨String.toList_inj.mp hescaped, hscan.2⟩

end Text

namespace Column

open Text

theorem toList_sql (c : Column) :
    c.sql.toList =
      match c.table with
      | none => (delimited c.name).toList
      | some t => (delimited t.name).toList ++ '.' :: (delimited c.name).toList := by
  unfold sql
  cases c.table with
  | none => rfl
  | some t => simp [Table.sql]

/-- **A text starts with at most one column**, if neither a quote nor a dot follows it. -/
theorem sql_append_inj {c d : Column} {r r' : List Char}
    (hr : r.head? ≠ some '"') (hdot : r.head? ≠ some '.')
    (hr' : r'.head? ≠ some '"') (hdot' : r'.head? ≠ some '.')
    (h : c.sql.toList ++ r = d.sql.toList ++ r') : c = d ∧ r = r' := by
  obtain ⟨table, name, hname⟩ := c
  obtain ⟨table', name', hname'⟩ := d
  rw [toList_sql, toList_sql] at h
  cases table with
  | none =>
    cases table' with
    | none =>
      obtain ⟨rfl, hrest⟩ := delimited_append_inj hr hr' h
      exact ⟨rfl, hrest⟩
    | some t' =>
      simp only [List.append_assoc, List.cons_append] at h
      obtain ⟨-, hrest⟩ := delimited_append_inj hr (by simp) h
      exact absurd (by rw [hrest]; rfl) hdot
  | some t =>
    cases table' with
    | none =>
      simp only [List.append_assoc, List.cons_append] at h
      obtain ⟨-, hrest⟩ := delimited_append_inj (by simp) hr' h
      exact absurd (by rw [← hrest]; rfl) hdot'
    | some t' =>
      simp only [List.append_assoc, List.cons_append] at h
      obtain ⟨htable, hrest⟩ := delimited_append_inj (by simp) (by simp) h
      rw [List.cons.injEq] at hrest
      obtain ⟨rfl, hend⟩ := delimited_append_inj hr hr' hrest.2
      obtain ⟨tname, htname⟩ := t
      obtain ⟨tname', htname'⟩ := t'
      cases htable
      exact ⟨rfl, hend⟩

end Column

end ParamSql

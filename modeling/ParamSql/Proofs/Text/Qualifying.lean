import Mathlib.Data.List.Basic
import Mathlib.Data.List.TakeDrop
import Mathlib.Data.List.TakeWhile
import ParamSql.Proofs.Text.Delimiting

/-!
# Columns and the texts that name them

A column is read from a text that may name its table before the first dot, and written as one or two
delimited identifiers. Neither loses anything.

* `Text.nul_notMem_delimited` — a delimited identifier holds no NUL.
* `Column.spelling` — the text that a column is read from; `parse_eq_ok_iff` says that no other text
  gives it.
* `Column.parse_eq_error_iff` — the texts that name no column.
* `Column.sql_inj` — columns are told apart by how they are written.
* `quoting_reversible` — all of it: identifiers close where they end, are undone, and tell the texts
  of columns apart.
-/

set_option autoImplicit false

namespace ParamSql

open Text

/-! ## Delimited identifiers -/

namespace Text

theorem nul_notMem_delimitedChar (c : Char) : '\x00' ∉ delimitedChar c := by
  unfold delimitedChar
  split
  · decide
  · split
    · decide
    · split
      · decide
      · rename_i hnul
        rw [List.mem_singleton]
        exact Ne.symm hnul

theorem nul_notMem_delimited (s : String) : '\x00' ∉ (delimited s).toList := by
  rw [delimited, String.toList_ofList, List.cons_append, List.mem_cons, List.mem_append,
    List.mem_singleton, delimitedBody, List.mem_flatMap]
  rintro (h | ⟨c, -, hc⟩ | h)
  · exact absurd h (by decide)
  · exact nul_notMem_delimitedChar c hc
  · exact absurd h (by decide)

end Text

namespace Column

/-! ## Reading -/

/-- The text that a column is read from. -/
def spelling (c : Column) : String :=
  match c.table with
  | none => c.name
  | some t => t.name ++ "." ++ c.name

/-- What stands before the first dot of that text, or the whole of it. -/
def lead (c : Column) : String := (c.table.map (·.name)).getD c.name

theorem isOther_of_notMem {cs : List Char} (h : '.' ∉ cs) : ∀ c ∈ cs, (c != '.') = true := by
  intro c hc
  rw [bne_iff_ne]
  rintro rfl
  exact h hc

/-- A text without a dot names a column of the table at hand. -/
theorem parse_of_notMem {s : String} (h : '.' ∉ s.toList) : parse s = named s := by
  have hall := isOther_of_notMem h
  have hspan : s.toList.span (· != '.') = (s.toList, []) := by
    rw [List.span_eq_takeWhile_dropWhile, List.takeWhile_eq_self_iff.mpr hall,
      List.dropWhile_eq_nil_iff.mpr hall]
  rw [parse, hspan]

/-- What stands before the first dot names the table. -/
theorem parse_append {table : String} (h : '.' ∉ table.toList) (name : String) :
    parse (table ++ "." ++ name) = (Table.named table).bind fun t => of (some t) name := by
  have hall := isOther_of_notMem h
  have hspan : (table ++ "." ++ name).toList.span (· != '.') =
      (table.toList, '.' :: name.toList) := by
    have hlist : (table ++ "." ++ name).toList = table.toList ++ '.' :: name.toList := by
      simp [String.toList_append]
    rw [hlist, List.span_eq_takeWhile_dropWhile, List.takeWhile_append_of_pos hall,
      List.dropWhile_append_of_pos hall]
    simp
  rw [parse, hspan]
  simp only [String.ofList_toList]
  rfl

/-- A text has no dot, or it is split at its first one. -/
theorem dotless_or_split (s : String) :
    '.' ∉ s.toList ∨ ∃ table name : String, '.' ∉ table.toList ∧ s = table ++ "." ++ name := by
  by_cases h : '.' ∈ s.toList
  · obtain ⟨before, after, hsplit, hbefore⟩ := List.eq_append_cons_of_mem h
    refine .inr ⟨String.ofList before, String.ofList after, ?_, ?_⟩
    · rwa [String.toList_ofList]
    · rw [← String.toList_inj, hsplit]
      simp [String.toList_append]
  · exact .inl h

/-- **The text of a column gives that column and no other text does**, if no dot stands before the
one that ends the table. -/
theorem parse_eq_ok_iff {s : String} {c : Column} :
    parse s = .ok c ↔ c.spelling = s ∧ '.' ∉ c.lead.toList := by
  constructor
  · intro h
    rcases dotless_or_split s with hdot | ⟨table, name, hdot, rfl⟩
    · rw [parse_of_notMem hdot, named, of] at h
      split at h
      · cases h
      · cases h
        exact ⟨rfl, hdot⟩
    · rw [parse_append hdot, Table.named] at h
      split at h
      · cases h
      · rw [Except.bind, of] at h
        split at h
        · cases h
        · cases h
          exact ⟨rfl, hdot⟩
  · rintro ⟨rfl, hdot⟩
    obtain ⟨table, name, hname⟩ := c
    cases table with
    | none =>
      show parse name = _
      rw [parse_of_notMem (s := name) hdot, named, of, dif_neg hname]
    | some t =>
      obtain ⟨tname, htname⟩ := t
      have hleading : '.' ∉ tname.toList := hdot
      show parse (tname ++ "." ++ name) = _
      rw [parse_append hleading, Table.named, dif_neg htname, Except.bind, of,
        dif_neg hname]

/-- A text that names no column: it is empty, or starts with a dot, or ends with its first one. -/
def NamesNone (s : String) : Prop :=
  s = "" ∨ s.toList.head? = some '.' ∨ ∃ t : String, '.' ∉ t.toList ∧ s = t ++ "."

theorem namesNone_of_notMem {s : String} (h : '.' ∉ s.toList) : NamesNone s ↔ s = "" := by
  constructor
  · rintro (rfl | hhead | ⟨t, -, rfl⟩)
    · rfl
    · exact absurd (List.mem_of_head? hhead) h
    · exact absurd (by simp [String.toList_append]) h
  · exact .inl

theorem namesNone_append {table : String} (h : '.' ∉ table.toList) (name : String) :
    NamesNone (table ++ "." ++ name) ↔ table = "" ∨ name = "" := by
  have hlist : (table ++ "." ++ name).toList = table.toList ++ '.' :: name.toList := by
    simp [String.toList_append]
  constructor
  · rintro (hempty | hhead | ⟨t, ht, hend⟩)
    · rw [← String.toList_inj, hlist] at hempty
      simp at hempty
    · rw [hlist, List.head?_append] at hhead
      cases htable : table.toList with
      | nil => exact .inl (String.toList_inj.mp htable)
      | cons c cs =>
        rw [htable] at hhead
        cases hhead
        exact absurd (by rw [htable]; exact List.mem_cons_self) h
    · rw [← String.toList_inj, hlist, String.toList_append] at hend
      have hafter := ((List.append_cons_inj_of_notMem ht List.not_mem_nil).mp hend.symm).2.2
      exact .inr (String.toList_inj.mp hafter.symm)
  · rintro (rfl | rfl)
    · refine .inr (.inl ?_)
      rw [hlist]
      rfl
    · exact .inr (.inr ⟨table, h, by simp⟩)

/-- **Reading fails on just the texts that name no column.** -/
theorem parse_eq_error_iff {s : String} :
    (∃ e, parse s = .error e) ↔ NamesNone s := by
  rcases dotless_or_split s with hdot | ⟨table, name, hdot, rfl⟩
  · rw [namesNone_of_notMem hdot, parse_of_notMem hdot, named, of]
    by_cases hs : s = "" <;> simp [hs]
  · rw [namesNone_append hdot, parse_append hdot, Table.named]
    by_cases htable : table = ""
    · simp [htable, Except.bind]
    · by_cases hname : name = "" <;> simp [htable, hname, Except.bind, of]

/-! ## Writing -/

/-- **Columns are told apart by how they are written.** -/
theorem sql_inj {c d : Column} (h : c.sql = d.sql) : c = d := by
  have hend : c.sql.toList ++ [] = d.sql.toList ++ [] := by rw [h]
  exact (sql_append_inj (by simp) (by simp) (by simp) (by simp) hend).1

end Column

/-- **Quoting can neither be left nor does it lose anything.** A delimited identifier starts with a
quote, holds no NUL, and is read up to its own end whatever follows it but a quote; undoing its
escapes gives the text back. Columns, qualified or not, are written alike only if they are the same.
A column read from a text has that text as its table, a dot and its name, with no dot in the table,
or else as its name; so texts of columns are equal just if the columns are written alike. No column
is read from the texts that are empty, start with a dot or end with their first dot, and from any
other text there is one. -/
theorem quoting_reversible :
    (∀ s : String, (delimited s).toList.head? = some '"' ∧ '\x00' ∉ (delimited s).toList ∧
      ∃ inside, unescape inside = some s.toList ∧
        ∀ rest : List Char, rest.head? ≠ some '"' →
          scanQuoted '"' ((delimited s).toList.tail ++ rest) = some (inside, rest)) ∧
    (∀ c d : Column, c.sql = d.sql → c = d) ∧
    (∀ (s : String) (c : Column), Column.parse s = .ok c →
      match c.table with
      | none => s = c.name ∧ '.' ∉ c.name.toList
      | some t => s = t.name ++ "." ++ c.name ∧ '.' ∉ t.name.toList) ∧
    (∀ (s t : String) (c d : Column), Column.parse s = .ok c → Column.parse t = .ok d →
      (c.sql = d.sql ↔ s = t)) ∧
    ∀ s : String, (∃ e, Column.parse s = .error e) ↔
      s = "" ∨ s.toList.head? = some '.' ∨ ∃ t : String, '.' ∉ t.toList ∧ s = t ++ "." := by
  refine ⟨fun s => ⟨?_, nul_notMem_delimited s, s.toList.flatMap escapedChar,
    unescape_escaped s.toList, fun rest hrest => ?_⟩, fun _ _ => Column.sql_inj, ?_, ?_,
    fun _ => Column.parse_eq_error_iff⟩
  · rw [toList_delimited]
    rfl
  · rw [toList_delimited, List.tail_cons, List.append_assoc]
    exact scanQuoted_doubled '"' _ hrest
  · intro s c hc
    obtain ⟨rfl, hdot⟩ := Column.parse_eq_ok_iff.mp hc
    obtain ⟨table, name, hname⟩ := c
    cases table with
    | none => exact ⟨rfl, hdot⟩
    | some t => exact ⟨rfl, hdot⟩
  · intro s t c d hc hd
    constructor
    · intro h
      obtain rfl := Column.sql_inj h
      rw [← (Column.parse_eq_ok_iff.mp hc).1, ← (Column.parse_eq_ok_iff.mp hd).1]
    · rintro rfl
      rw [hc] at hd
      cases hd
      rfl

/-- A column whose name looks like the border of two identifiers is not mistaken for another one. -/
theorem quoting_lookalike :
    let s := "a\".\"b"
    let c : Column := ⟨some ⟨"a\"", by decide⟩, "\"b", by decide⟩
    let d : Column := ⟨some ⟨"a", by decide⟩, "b", by decide⟩
    Column.parse s = .ok c ∧ Column.parse "a.b" = .ok d ∧ (c.sql = d.sql ↔ s = "a.b") ∧
      c.sql = "\"a\"\"\".\"\"\"b\"" := by
  intro s c d
  have hc : Column.parse s = .ok c := Column.parse_eq_ok_iff.mpr ⟨rfl, by decide⟩
  have hd : Column.parse "a.b" = .ok d := Column.parse_eq_ok_iff.mpr ⟨rfl, by decide⟩
  exact ⟨hc, hd, quoting_reversible.2.2.2.1 s "a.b" c d hc hd, by decide⟩

end ParamSql

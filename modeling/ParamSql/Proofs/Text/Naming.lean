import ParamSql.Column

/-!
# Names that are made are valid

Of letters and numbers nothing is used here but that a letter may stand wherever a letter or a
number may, and that the letters of ASCII and the underscore are what they are called.

* `isIdentifier_append` — an identifier may go on with anything that stands in identifiers.
* `isValid_of_underscore` — an identifier with an underscore is no keyword, for no keyword has one.
* `isValid_clean`, `clean_eq_self_iff` — cleaning makes a valid name of any text, and leaves just
  the valid names alone.
* `Column.isValid_argument` — the name made of a column is valid, with and without a table.
-/

set_option autoImplicit false

namespace ParamSql

namespace Name

open Text

/-! ## Identifiers -/

/-- A text in which every character can stand in an identifier. -/
def Continues (s : String) : Prop := ∀ c ∈ s.toList, continuesIdentifier c = true

theorem continuesIdentifier_of_starts {c : Char} (h : startsIdentifier c = true) :
    continuesIdentifier c = true := by
  rw [startsIdentifier, Bool.or_eq_true] at h
  rw [continuesIdentifier, Bool.or_eq_true]
  exact h.imp_left isAlphanumeric_of_isAlphabetic

theorem continues_append {s t : String} (hs : Continues s) (ht : Continues t) :
    Continues (s ++ t) := by
  intro c hc
  rw [String.toList_append, List.mem_append] at hc
  exact hc.elim (hs c) (ht c)

theorem continues_underscore : Continues "_" := by
  intro c hc
  obtain rfl : c = '_' := by simpa using hc
  rfl

theorem isIdentifier_iff {s : String} :
    isIdentifier s = true ↔
      (∃ c, s.toList.head? = some c ∧ startsIdentifier c = true) ∧ Continues s := by
  unfold isIdentifier Continues
  cases s.toList with
  | nil => simp
  | cons c cs =>
    rw [Bool.and_eq_true, List.all_eq_true, List.forall_mem_cons]
    constructor
    · rintro ⟨hc, hcs⟩
      exact ⟨⟨c, rfl, hc⟩, continuesIdentifier_of_starts hc, hcs⟩
    · rintro ⟨⟨d, hd, hstarts⟩, -, hcs⟩
      cases hd
      exact ⟨hstarts, hcs⟩

theorem isIdentifier_append {s t : String} (hs : isIdentifier s = true) (ht : Continues t) :
    isIdentifier (s ++ t) = true := by
  obtain ⟨⟨c, hc, hstarts⟩, hcontinues⟩ := isIdentifier_iff.mp hs
  refine isIdentifier_iff.mpr ⟨⟨c, ?_, hstarts⟩, continues_append hcontinues ht⟩
  rw [String.toList_append, List.head?_append, hc]
  rfl

theorem isIdentifier_underscore : isIdentifier "_" = true := rfl

/-! ## Keywords -/

theorem underscore_notMem_keyword : ∀ k ∈ keywords, '_' ∉ k.toList := by decide

/-- An identifier with an underscore in it is a valid name. -/
theorem isValid_of_underscore {s : String} (hs : isIdentifier s = true) (h : '_' ∈ s.toList) :
    isValid s = true := by
  have hkeyword : isKeyword s = false := by
    rw [isKeyword, List.contains_eq_mem, decide_eq_false_iff_not]
    exact fun hmem => underscore_notMem_keyword s hmem h
  rw [isValid, hs, hkeyword]
  rfl

theorem isIdentifier_of_isValid {s : String} (h : isValid s = true) : isIdentifier s = true := by
  rw [isValid, Bool.and_eq_true] at h
  exact h.1

theorem continues_of_isValid {s : String} (h : isValid s = true) : Continues s :=
  (isIdentifier_iff.mp (isIdentifier_of_isValid h)).2

/-- A valid name may go on behind an underscore. -/
theorem isValid_glue {s t : String} (hs : isValid s = true) (ht : Continues t) :
    isValid (s ++ "_" ++ t) = true := by
  have hidentifier := isIdentifier_append (isIdentifier_of_isValid hs) continues_underscore
  refine isValid_of_underscore (isIdentifier_append hidentifier ht) ?_
  simp [String.toList_append]

/-! ## Cleaning -/

theorem continues_kept (text : String) : Continues (kept text) := by
  intro c hc
  rw [kept, String.toList_ofList] at hc
  exact (List.mem_filter.mp hc).2

theorem kept_of_continues {s : String} (h : Continues s) : kept s = s := by
  rw [kept, List.filter_eq_self.mpr h, String.ofList_toList]

/-- **Cleaning makes a valid name of any text.** -/
theorem isValid_clean (text : String) : isValid (clean text) = true := by
  unfold clean
  split
  · assumption
  · refine isValid_of_underscore
      (isIdentifier_append isIdentifier_underscore (continues_kept text)) ?_
    simp [String.toList_append]

/-- **Cleaning leaves just the valid names alone.** -/
theorem clean_eq_self_iff {s : String} : clean s = s ↔ isValid s = true := by
  constructor
  · intro h
    exact h ▸ isValid_clean s
  · intro h
    rw [clean, kept_of_continues (continues_of_isValid h), if_pos h]

end Name

/-- **The name made of a column is valid.** -/
theorem Column.isValid_argument (c : Column) : Name.isValid c.argument = true := by
  unfold argument
  split
  · exact Name.isValid_clean c.name
  · exact Name.isValid_glue (Name.isValid_clean _)
      (Name.continues_of_isValid (Name.isValid_clean c.name))

end ParamSql

import ParamSql.Proofs.Query.Numbering
import ParamSql.Proofs.Text.Digits
import ParamSql.Query.Bind

/-!
# Styles of placeholders

The two ways of writing placeholders differ in one sign. Writing that sign for the other one goes
through every step from tokens to text, since no step looks at either of them.

* `dollarsToMarks` — a text with a question mark for every dollar sign.
* `addFragment_marks`, `joinFragments_marks` — joining does not tell the two signs apart.
* `emit_numbered` — the fragments of the one style are those of the other with the sign replaced.
* `CompiledQuery.call_withText` — a call does not look at the text.
* `numbered_of_dollar` — so are the queries, and they are called alike.
-/

set_option autoImplicit false

namespace ParamSql

open Text

/-- A question mark for a dollar sign, any other character as it is. -/
def markOfDollar (c : Char) : Char := if c = '$' then '?' else c

/-- A text with a question mark for every dollar sign. -/
def dollarsToMarks (s : String) : String := String.ofList (s.toList.map markOfDollar)

/-! ## Texts -/

theorem toList_dollarsToMarks (s : String) :
    (dollarsToMarks s).toList = s.toList.map markOfDollar := String.toList_ofList

theorem markOfDollar_of_ne {c : Char} (h : c ≠ '$') : markOfDollar c = c := if_neg h

theorem isBlank_markOfDollar (c : Char) : isBlank (markOfDollar c) = isBlank c := by
  by_cases hc : c = '$'
  · subst hc
    decide
  · rw [markOfDollar_of_ne hc]

theorem map_markOfDollar_of_notMem {cs : List Char} (h : '$' ∉ cs) :
    cs.map markOfDollar = cs := by
  refine (List.map_congr_left fun c hc => markOfDollar_of_ne ?_).trans (List.map_id cs)
  rintro rfl
  exact h hc

theorem dollarsToMarks_of_notMem {s : String} (h : '$' ∉ s.toList) : dollarsToMarks s = s := by
  rw [dollarsToMarks, map_markOfDollar_of_notMem h, String.ofList_toList]

/-- A text without either sign comes of no other text. -/
theorem dollarsToMarks_eq_iff {s t : String} (hdollar : '$' ∉ t.toList) (hmark : '?' ∉ t.toList) :
    dollarsToMarks s = t ↔ s = t := by
  constructor
  · intro h
    have hs : '$' ∉ s.toList := by
      intro hmem
      apply hmark
      rw [← h, toList_dollarsToMarks]
      exact List.mem_map.mpr ⟨'$', hmem, rfl⟩
    rw [← h, dollarsToMarks_of_notMem hs]
  · rintro rfl
    exact dollarsToMarks_of_notMem hdollar

/-! ## Joining -/

theorem dropWhile_map_markOfDollar (cs : List Char) :
    (cs.map markOfDollar).dropWhile isBlank = (cs.dropWhile isBlank).map markOfDollar := by
  have hblank : isBlank ∘ markOfDollar = isBlank := funext isBlank_markOfDollar
  rw [List.dropWhile_map, hblank]

/-- **One more fragment**, with one sign or the other in it and in the text before it. -/
theorem addFragment_marks (acc : List Char) (f : String) :
    addFragment (acc.map markOfDollar) (dollarsToMarks f) =
      (addFragment acc f).map markOfDollar := by
  have hopen : dollarsToMarks f = "(" ↔ f = "(" := dollarsToMarks_eq_iff (by decide) (by decide)
  have hclose : dollarsToMarks f = ")" ↔ f = ")" := dollarsToMarks_eq_iff (by decide) (by decide)
  have hcomma : dollarsToMarks f = "," ↔ f = "," := dollarsToMarks_eq_iff (by decide) (by decide)
  have hbefore :
      (if dollarsToMarks f = ")" || dollarsToMarks f = "," then
          (acc.map markOfDollar).dropWhile isBlank
        else acc.map markOfDollar) =
      (if f = ")" || f = "," then acc.dropWhile isBlank else acc).map markOfDollar := by
    simp only [hclose, hcomma, dropWhile_map_markOfDollar]
    split <;> rfl
  unfold addFragment
  simp only [hbefore, hopen, toList_dollarsToMarks]
  split
  · rw [List.map_append, List.map_reverse]
  · rw [List.map_cons, List.map_append, List.map_reverse, markOfDollar_of_ne (by decide)]

/-- **All fragments**: their text has the one sign where it had the other. -/
theorem joinFragments_marks (fs : List String) :
    joinFragments (fs.map dollarsToMarks) = dollarsToMarks (joinFragments fs) := by
  have hrun : (fs.map dollarsToMarks).foldl addFragment [] =
      (fs.foldl addFragment []).map markOfDollar := by
    rw [List.foldl_map, ← List.map_nil (f := markOfDollar)]
    exact List.foldl_hom (List.map markOfDollar) addFragment_marks
  rw [joinFragments, joinChars, hrun, dropWhile_map_markOfDollar, ← List.map_reverse,
    dollarsToMarks, joinFragments, String.toList_ofList, joinChars]

/-! ## Fragments -/

theorem dollar_notMem_digitsOf (n : Nat) : '$' ∉ digitsOf n := by
  intro hmem
  have hdigit := allDigits_digitsOf n '$' hmem
  revert hdigit
  decide

theorem placeholder_numbered (n : Nat) :
    placeholder .numbered n = dollarsToMarks (placeholder .dollar n) := by
  rw [dollarsToMarks, placeholder, placeholder, String.toList_ofList, List.map_cons,
    map_markOfDollar_of_notMem (dollar_notMem_digitsOf n)]
  rfl

/-- No dollar sign stands in the SQL among tokens. -/
def LacksDollars (tokens : List Token) : Prop := ∀ text, .sql text ∈ tokens → '$' ∉ text.toList

/-- **The fragments of the one style are those of the other** with the sign replaced. -/
theorem emit_numbered {tokens : List Token} (h : LacksDollars tokens) :
    (emit .numbered {} tokens).1 = (emit .dollar {} tokens).1.map dollarsToMarks := by
  rw [emit_fragments, emit_fragments, List.map_map]
  refine List.map_congr_left fun t ht => ?_
  cases t with
  | sql text => exact (dollarsToMarks_of_notMem (h text ht)).symm
  | param x => exact placeholder_numbered _

/-! ## Queries -/

/-- The text of a query plays no part in a call but that it is handed on. -/
theorem CompiledQuery.call_withText (q : CompiledQuery) (f : String → String) (args : Args) :
    { q with text := f q.text }.call args =
      (q.call args).map fun b => { b with sql := f b.sql } := by
  unfold call
  split
  · rfl
  · cases fill (q.parameters.drop args.positional.length) args.named with
    | error e => rfl
    | ok r =>
      obtain ⟨values, left⟩ := r
      cases left <;> rfl

/-- **The style of placeholders changes the placeholders alone.** Where no SQL has a dollar sign in
it, the queries of the two styles have the same parameters and the same conflicts, and fragment by
fragment and as a whole the text of the one is that of the other with the sign replaced. Every call
fails for both with the same error, or binds both to the same values and type hints. -/
theorem numbered_of_dollar (tokens : List Token) (h : LacksDollars tokens) :
    let q := compile tokens ⟨.dollar⟩
    let r := compile tokens ⟨.numbered⟩
    (r.parameters = q.parameters ∧ r.conflicts = q.conflicts) ∧
    ((emit .numbered {} tokens).1 = (emit .dollar {} tokens).1.map dollarsToMarks ∧
      r.text = dollarsToMarks q.text) ∧
    ∀ args, r.call args = (q.call args).map fun b => { b with sql := dollarsToMarks b.sql } := by
  intro q r
  have hparameters : r.parameters = q.parameters :=
    (compile_parameters tokens _).trans (compile_parameters tokens _).symm
  have hconflicts : r.conflicts = q.conflicts :=
    (compile_conflicts tokens _).trans (compile_conflicts tokens _).symm
  have hfragments := emit_numbered h
  have htext : r.text = dollarsToMarks q.text := by
    show joinFragments _ = dollarsToMarks (joinFragments _)
    rw [← joinFragments_marks, ← hfragments]
  refine ⟨⟨hparameters, hconflicts⟩, ⟨hfragments, htext⟩, fun args => ?_⟩
  have hr : r = { q with text := dollarsToMarks q.text } := by
    rw [← htext, ← hparameters, ← hconflicts]
  rw [hr, q.call_withText dollarsToMarks args]

/-- Eleven variables, the first of them twice, and SQL with a question mark in it. -/
def elevenNames : List Token :=
  let names := ["a", "b", "c", "d", "e", "f", "g", "h", "i", "j", "k", "a"]
  .sql "?1 IN" :: .sql "(" :: names.map (fun name => .param ⟨⟨1⟩, name, .required⟩) ++ [.sql ")"]

/-- A placeholder of two digits has its sign replaced like any other. -/
theorem numbered_elevenNames :
    LacksDollars elevenNames ∧
      (compile elevenNames ⟨.numbered⟩).text =
        dollarsToMarks "?1 IN ($1 $2 $3 $4 $5 $6 $7 $8 $9 $10 $11 $1)" ∧
      (compile elevenNames ⟨.numbered⟩).call {} = .error (.missingArgument "a") := by
  have h : LacksDollars elevenNames := by
    intro text htext
    simp [elevenNames] at htext
    rcases htext with rfl | rfl | rfl <;> decide
  obtain ⟨-, ⟨-, htext⟩, hcall⟩ := numbered_of_dollar elevenNames h
  have hdollar : (compile elevenNames ⟨.dollar⟩).text =
      "?1 IN ($1 $2 $3 $4 $5 $6 $7 $8 $9 $10 $11 $1)" := by decide +kernel
  exact ⟨h, htext.trans (congrArg dollarsToMarks hdollar), hcall {}⟩

end ParamSql

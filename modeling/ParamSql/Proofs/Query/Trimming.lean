import ParamSql.Proofs.Query.Appending
import ParamSql.Proofs.Query.Joining

/-!
# What joining keeps of fragments

Joining writes spaces between fragments and takes blanks back, the latter out of fragments too, and
out of more than one where several are blank. All it ever adds or takes away is white space.

* `withoutBlanks_addFragment`, `withoutBlanks_foldl` — one more fragment, and a run of them, add
  their own characters but for blanks and leave those before them.
* `joinChars_concat_closing` — a closing parenthesis or a comma stands right behind the text of the
  fragments before it.
* `joinFragments_spec` — all that joining keeps, and what it writes of solid fragments.
-/

set_option autoImplicit false

namespace ParamSql

open Text

/-- Characters but for the blanks among them. -/
def withoutBlanks (cs : List Char) : List Char := cs.filter fun c => !isBlank c

/-- Characters of which the last, if there is one, is no blank. -/
def NoBlankLast (cs : List Char) : Prop := ∀ c ∈ cs.getLast?, isBlank c = false

/-! ## Characters that are no blanks -/

theorem withoutBlanks_append (cs ds : List Char) :
    withoutBlanks (cs ++ ds) = withoutBlanks cs ++ withoutBlanks ds := List.filter_append ..

theorem withoutBlanks_reverse (cs : List Char) :
    withoutBlanks cs.reverse = (withoutBlanks cs).reverse := List.filter_reverse

theorem withoutBlanks_space (cs : List Char) : withoutBlanks (' ' :: cs) = withoutBlanks cs :=
  List.filter_cons_of_neg (by decide)

theorem withoutBlanks_dropWhile (cs : List Char) :
    withoutBlanks (cs.dropWhile isBlank) = withoutBlanks cs := by
  induction cs with
  | nil => rfl
  | cons c cs ih =>
    by_cases hc : isBlank c = true
    · rw [List.dropWhile_cons_of_pos hc, ih]
      simp [withoutBlanks, hc]
    · rw [List.dropWhile_cons_of_neg hc]

/-- **One more fragment adds its own characters**, blanks apart, and leaves those before it. -/
theorem withoutBlanks_addFragment (acc : List Char) (f : String) :
    withoutBlanks (addFragment acc f) = withoutBlanks f.toList.reverse ++ withoutBlanks acc := by
  have hbefore : withoutBlanks (if f = ")" || f = "," then acc.dropWhile isBlank else acc) =
      withoutBlanks acc := by
    split
    · exact withoutBlanks_dropWhile acc
    · rfl
  unfold addFragment
  dsimp only
  split
  · rw [withoutBlanks_append, hbefore]
  · rw [withoutBlanks_space, withoutBlanks_append, hbefore]

/-- **So does a run of fragments**, from any text before it. -/
theorem withoutBlanks_foldl : ∀ (fs : List String) (acc : List Char),
    withoutBlanks (fs.foldl addFragment acc).reverse =
      withoutBlanks acc.reverse ++ withoutBlanks (fs.flatMap String.toList)
  | [], acc => by
    show _ = _ ++ []
    rw [List.append_nil]
    rfl
  | f :: fs, acc => by
    rw [List.foldl_cons, withoutBlanks_foldl fs, withoutBlanks_reverse, withoutBlanks_addFragment,
      List.reverse_append, ← withoutBlanks_reverse, ← withoutBlanks_reverse, List.reverse_reverse,
      List.flatMap_cons, withoutBlanks_append, List.append_assoc]

/-- The text of fragments has the characters of the fragments, blanks apart. -/
theorem withoutBlanks_joinChars (fs : List String) :
    withoutBlanks (joinChars fs) = withoutBlanks (fs.flatMap String.toList) := by
  have hrun := withoutBlanks_foldl fs []
  rw [withoutBlanks_reverse] at hrun
  rw [joinChars, withoutBlanks_reverse, withoutBlanks_dropWhile, hrun]
  rfl

/-! ## Where the text ends -/

/-- The text of fragments ends in no blank. -/
theorem noBlankLast_joinChars (fs : List String) : NoBlankLast (joinChars fs) := by
  intro c hc
  rw [joinChars, List.getLast?_reverse, Option.mem_def] at hc
  have hhead := List.head?_dropWhile_not isBlank (fs.foldl addFragment [])
  rw [hc] at hhead
  exact hhead

/-- **A closing parenthesis or a comma stands right behind the text before it.** -/
theorem joinChars_concat_closing (fs : List String) {f : String} (hf : f = ")" ∨ f = ",") :
    joinChars (fs ++ [f]) = joinChars fs ++ f.toList := by
  have hsolid : Solid f.toList := by
    rcases hf with rfl | rfl
    · exact ⟨')', rfl, by decide⟩
    · exact ⟨',', rfl, by decide⟩
  have hopen : f ≠ "(" := by
    rcases hf with rfl | rfl <;> decide
  have hlast : addFragment (fs.foldl addFragment []) f =
      trail f ++ (f.toList.reverse ++ (fs.foldl addFragment []).dropWhile isBlank) := by
    unfold addFragment trail
    simp [hf, hopen]
  rw [joinChars, List.foldl_append, List.foldl_cons, List.foldl_nil, hlast,
    dropWhile_trail_append hsolid, List.reverse_append, List.reverse_reverse, joinChars]

/-- It stays there, whatever fragments follow. -/
theorem joinChars_closing (before after : List String) {f : String} (hf : f = ")" ∨ f = ",") :
    ∃ rest, joinChars (before ++ f :: after) = joinChars before ++ f.toList ++ rest := by
  have hsplit : before ++ f :: after = (before ++ [f]) ++ after := by simp
  obtain ⟨rest, hrest⟩ := joinChars_append (before ++ [f]) after
  refine ⟨rest, ?_⟩
  rw [hsplit, ← hrest, joinChars_concat_closing before hf]

/-- **What joining keeps of fragments.** But for white space the text is the fragments one after the
other. It ends in no blank, and neither does what stands before a closing parenthesis or a comma,
which is the text of the fragments before that one. Fragments that end in a character that is no
blank are written as they are, with nothing or one space between each two of them. -/
theorem joinFragments_spec (fs : List String) :
    let text := fun fs => (joinFragments fs).toList
    withoutBlanks (text fs) = withoutBlanks (fs.flatMap String.toList) ∧
      NoBlankLast (text fs) ∧
      (∀ before f after, fs = before ++ f :: after → f = ")" ∨ f = "," →
        NoBlankLast (text before) ∧ ∃ rest, text fs = text before ++ f.toList ++ rest) ∧
      ((∀ f ∈ fs, Solid f.toList) → text fs = spaced fs) := by
  intro text
  have htext : ∀ fs, text fs = joinChars fs := fun fs => String.toList_ofList
  simp only [htext]
  refine ⟨withoutBlanks_joinChars fs, noBlankLast_joinChars fs, ?_, joinChars_eq_spaced⟩
  rintro before f after rfl hf
  exact ⟨noBlankLast_joinChars before, joinChars_closing before after hf⟩

/-- A comma takes the place of a blank fragment, of an empty one and of the spaces around them; what
is written of a call has neither. -/
theorem joinFragments_blankRun :
    let before := ["f", "(", " \u3000", ""]
    let after := ["a\u00a0", ")"]
    let call := ["SUM", "(", "a", ",", "b", ")", "=", "$1"]
    (("," = ")" ∨ "," = ",") ∧
      ∃ rest, (joinFragments (before ++ "," :: after)).toList =
        (joinFragments before).toList ++ [','] ++ rest) ∧
    joinFragments (before ++ "," :: after) = "f (, a)" ∧
    (∀ f ∈ call, Solid f.toList) ∧ (joinFragments call).toList = spaced call ∧
    joinFragments call = "SUM (a, b) = $1" := by
  intro before after call
  have hcomma : "," = ")" ∨ "," = "," := .inr rfl
  have hsolid : ∀ f ∈ call, Solid f.toList := by
    intro f hf
    simp only [call, List.mem_cons, List.not_mem_nil, or_false] at hf
    rcases hf with rfl | rfl | rfl | rfl | rfl | rfl | rfl | rfl <;> exact ⟨_, rfl, by decide⟩
  obtain ⟨-, -, hclosing, -⟩ := joinFragments_spec (before ++ "," :: after)
  obtain ⟨-, -, -, hspaced⟩ := joinFragments_spec call
  exact ⟨⟨hcomma, (hclosing before "," _ rfl hcomma).2⟩, by decide +kernel, hsolid,
    hspaced hsolid, by decide +kernel⟩

end ParamSql

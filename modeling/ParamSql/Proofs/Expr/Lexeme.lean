import ParamSql.Expr.Basic
import ParamSql.Proofs.Query.Joining
import ParamSql.Proofs.Text.Delimiting
import ParamSql.Proofs.Text.Digits

/-!
# Lexemes

The pieces that the text of an expression without raw SQL is made of.

* `Lexeme.text` — how a piece is written.
* `Lexeme.text_append_inj` — a text starts with at most one lexeme, if what follows could not
  prolong it.
* `Lexeme.spaced_inj` — the text of lexemes determines them.
-/

set_option autoImplicit false

namespace ParamSql

open Text

/-- A piece of the text of an expression. -/
inductive Lexeme where
  | column (c : Column)
  | place (n : Nat)
  | op (o : Operator)
  | between
  | func (f : Aggregate)
  | opening
  | closing
  | comma

namespace Lexeme

variable {style : PlaceholderStyle}

/-- How a lexeme is written. -/
def text (style : PlaceholderStyle) : Lexeme → String
  | column c => c.sql
  | place n => placeholder style n
  | op o => o.sql
  | between => "BETWEEN"
  | func f => f.sql
  | opening => "("
  | closing => ")"
  | comma => ","

/-! ## Words -/

/-- The operator, the function or the BETWEEN that a word stands for. -/
def ofWord? (word : String) : Option Lexeme :=
  match Operator.ofSpelling? word with
  | some o => some (op o)
  | none =>
    if word = "BETWEEN" then some between
    else ([.count, .sum, .avg, .min, .max].find? (Aggregate.sql · == word)).map func

/-- Whether a lexeme is written as a word. -/
def isWord : Lexeme → Bool
  | op _ | between | func _ => true
  | column _ | place _ | opening | closing | comma => false

theorem ofWord?_text {l : Lexeme} (h : l.isWord = true) : ofWord? (l.text style) = some l := by
  cases l with
  | op o => rw [text, ofWord?, Operator.ofSpelling?_sql]
  | between => rfl
  | func f => cases f <;> rfl
  | _ => cases h

/-! ## Plain characters -/

/-- Whether a character takes no part in quoting, grouping and spacing. -/
def isPlain (c : Char) : Bool := !(['"', '(', ')', ',', ' '].contains c)

/-- Whether a lexeme is written in plain characters. -/
def isBare : Lexeme → Bool
  | place _ | op _ | between | func _ => true
  | column _ | opening | closing | comma => false

theorem isPlain_of_isDigit {c : Char} (h : c.isDigit = true) : isPlain c = true := by
  rw [isPlain, Bool.not_eq_true', List.contains_eq_mem, decide_eq_false_iff_not]
  intro hmem
  simp only [List.mem_cons, List.not_mem_nil, or_false] at hmem
  rcases hmem with rfl | rfl | rfl | rfl | rfl <;> revert h <;> decide

theorem all_isPlain_text {l : Lexeme} (h : l.isBare = true) :
    (l.text style).toList.all isPlain = true := by
  cases l with
  | place n =>
    rw [text, toList_placeholder, List.all_cons, Bool.and_eq_true]
    refine ⟨by cases style <;> rfl, ?_⟩
    rw [List.all_eq_true]
    intro c hc
    exact isPlain_of_isDigit (Nat.isDigit_of_mem_toDigits (by omega) (by omega) hc)
  | op o => rw [text]; cases o <;> decide
  | between => rw [text]; decide
  | func f => rw [text]; cases f <;> decide
  | _ => cases h

theorem isPlain_of_mem_text {l : Lexeme} (h : l.isBare = true) :
    ∀ c ∈ (l.text style).toList, isPlain c = true := List.all_eq_true.mp (all_isPlain_text h)

theorem isWord_or_place {l : Lexeme} (h : l.isBare = true) :
    l.isWord = true ∨ ∃ n, l = place n := by
  cases l with
  | place n => exact Or.inr ⟨n, rfl⟩
  | op o => exact Or.inl rfl
  | between => exact Or.inl rfl
  | func f => exact Or.inl rfl
  | _ => cases h

/-- A word starts with no sign of a placeholder. -/
theorem text_ne_place {l : Lexeme} (h : l.isWord = true) (n : Nat) :
    l.text style ≠ (place n).text style := by
  intro htext
  have hhead := congrArg (fun s => s.toList.head?) htext
  simp only [text, toList_placeholder, List.head?_cons] at hhead
  cases l with
  | op o => revert hhead; cases o <;> cases style <;> decide
  | between => revert hhead; cases style <;> decide
  | func f => revert hhead; cases f <;> cases style <;> decide
  | _ => cases h

/-- A bare lexeme is determined by its text. -/
theorem text_inj_of_isBare {l m : Lexeme} (hl : l.isBare = true) (hm : m.isBare = true)
    (h : l.text style = m.text style) : l = m := by
  rcases isWord_or_place hl with hlw | ⟨n, rfl⟩ <;> rcases isWord_or_place hm with hmw | ⟨k, rfl⟩
  · have hword : ofWord? (l.text style) = some l := ofWord?_text hlw
    rw [h, ofWord?_text hmw] at hword
    exact (Option.some.inj hword).symm
  · exact absurd h (text_ne_place hlw k)
  · exact absurd h.symm (text_ne_place hmw n)
  · rw [placeholder_inj.mp h]

/-! ## Lexemes at the start of a text -/

/-- What follows a lexeme in a text and cannot prolong it. -/
def Ends (r : List Char) : Prop := ∀ c, r.head? = some c → c = ' ' ∨ c = ')' ∨ c = ','

theorem ends_nil : Ends [] := by
  intro c hc
  cases hc

theorem Ends.not_head {r : List Char} (h : Ends r) {c : Char}
    (hc : ¬(c = ' ' ∨ c = ')' ∨ c = ',')) : r.head? ≠ some c := fun hr => hc (h c hr)

/-- A bare lexeme is the longest run of plain characters. -/
theorem takeWhile_text {l : Lexeme} (h : l.isBare = true) {r : List Char} (hr : Ends r) :
    ((l.text style).toList ++ r).takeWhile isPlain = (l.text style).toList := by
  rw [List.takeWhile_append_of_pos (isPlain_of_mem_text h)]
  cases r with
  | nil => rw [List.takeWhile_nil, List.append_nil]
  | cons c cs =>
    have hc : isPlain c = false := by
      rcases hr c rfl with rfl | rfl | rfl <;> decide
    rw [List.takeWhile_cons_of_neg (by rw [hc]; decide), List.append_nil]

/-- The character that a lexeme starts with that is not bare. -/
def lead? : Lexeme → Option Char
  | column _ => some '"'
  | opening => some '('
  | closing => some ')'
  | comma => some ','
  | place _ | op _ | between | func _ => none

theorem head?_text_of_lead? {l : Lexeme} {c : Char} (h : l.lead? = some c) :
    (l.text style).toList.head? = some c := by
  cases l with
  | column d =>
    cases h
    rw [text, Column.toList_sql]
    cases d.table <;> simp [toList_delimited]
  | opening => cases h; rw [text]; decide
  | closing => cases h; rw [text]; decide
  | comma => cases h; rw [text]; decide
  | _ => cases h

theorem isBare_or_lead? (l : Lexeme) :
    l.isBare = true ∨ ∃ c, l.lead? = some c ∧ isPlain c = false := by
  cases l with
  | column c => exact Or.inr ⟨_, rfl, by decide⟩
  | opening => exact Or.inr ⟨_, rfl, by decide⟩
  | closing => exact Or.inr ⟨_, rfl, by decide⟩
  | comma => exact Or.inr ⟨_, rfl, by decide⟩
  | _ => exact Or.inl rfl

theorem eq_or_columns {l m : Lexeme} (h : l.lead? = m.lead?) (hl : l.lead? ≠ none) :
    l = m ∨ ∃ a b, l = column a ∧ m = column b := by
  cases l <;> cases m <;> simp_all [lead?]

theorem text_ne_nil (l : Lexeme) : (l.text style).toList ≠ [] := by
  cases l with
  | column c =>
    intro h
    have hhead : ((column c).text style).toList.head? = some '"' := head?_text_of_lead? rfl
    rw [h] at hhead
    cases hhead
  | place n => rw [text, toList_placeholder]; exact List.cons_ne_nil _ _
  | op o => rw [text]; cases o <;> decide
  | func f => rw [text]; cases f <;> decide
  | _ => rw [text]; decide

theorem head?_text_append (l : Lexeme) (r : List Char) :
    ((l.text style).toList ++ r).head? = (l.text style).toList.head? := by
  have hne : (l.text style).toList ≠ [] := text_ne_nil l
  obtain ⟨c, cs, hcs⟩ := List.exists_cons_of_ne_nil hne
  rw [hcs]
  rfl

/-- A bare lexeme starts with a plain character. -/
theorem isPlain_of_head? {l : Lexeme} (h : l.isBare = true) {c : Char}
    (hc : (l.text style).toList.head? = some c) : isPlain c = true :=
  isPlain_of_mem_text h c (List.mem_of_mem_head? hc)

/-- **A text starts with at most one lexeme**, if what follows could not prolong it. -/
theorem text_append_inj {l m : Lexeme} {r r' : List Char} (hr : l ≠ opening → Ends r)
    (hr' : m ≠ opening → Ends r')
    (h : (l.text style).toList ++ r = (m.text style).toList ++ r') : l = m ∧ r = r' := by
  have hhead : (l.text style).toList.head? = (m.text style).toList.head? := by
    rw [← head?_text_append l r, h, head?_text_append]
  rcases isBare_or_lead? l with hl | ⟨c, hl, hc⟩ <;>
    rcases isBare_or_lead? m with hm | ⟨d, hm, hd⟩
  · have hends : Ends r := hr fun he => by rw [he] at hl; cases hl
    have hends' : Ends r' := hr' fun he => by rw [he] at hm; cases hm
    have htext := congrArg (List.takeWhile isPlain) h
    rw [takeWhile_text hl hends, takeWhile_text hm hends'] at htext
    rw [htext] at h
    exact ⟨text_inj_of_isBare hl hm (String.toList_inj.mp htext), List.append_cancel_left h⟩
  · rw [head?_text_of_lead? hm] at hhead
    rw [isPlain_of_head? hl hhead] at hd
    cases hd
  · rw [head?_text_of_lead? hl] at hhead
    rw [isPlain_of_head? hm hhead.symm] at hc
    cases hc
  · rw [head?_text_of_lead? hl, head?_text_of_lead? hm] at hhead
    have hlead : l.lead? = m.lead? := by rw [hl, hm, hhead]
    rcases eq_or_columns hlead (by rw [hl]; nofun) with rfl | ⟨a, b, rfl, rfl⟩
    · exact ⟨rfl, List.append_cancel_left h⟩
    · have hends : Ends r := hr nofun
      have hends' : Ends r' := hr' nofun
      obtain ⟨rfl, hrest⟩ := Column.sql_append_inj (hends.not_head (by decide))
        (hends.not_head (by decide)) (hends'.not_head (by decide))
        (hends'.not_head (by decide)) h
      exact ⟨rfl, hrest⟩

theorem text_inj {l m : Lexeme} (h : l.text style = m.text style) : l = m :=
  (text_append_inj (fun _ => ends_nil) (fun _ => ends_nil)
    (congrArg (fun s => s.toList ++ []) h)).1

/-! ## Lexemes in a row -/

/-- A lexeme ends in no blank, so that joining takes back nothing of it. -/
theorem text_solid (l : Lexeme) : Solid (l.text style).toList := by
  cases l with
  | column c =>
    have hquoted (s : String) : Solid (delimited s).toList := by
      rw [toList_delimited, ← List.cons_append]
      exact solid_append ⟨'"', rfl, by decide⟩
    rw [text, Column.toList_sql]
    cases c.table with
    | none => exact hquoted _
    | some t =>
      rw [← List.singleton_append]
      exact solid_append (solid_append (hquoted _))
  | place n =>
    have hne : Nat.toDigits 10 n ≠ [] := by simp
    rw [text, toList_placeholder, ← List.singleton_append]
    refine solid_append ⟨_, List.getLast?_eq_some_getLast hne, isBlank_of_isDigit ?_⟩
    exact Nat.isDigit_of_mem_toDigits (by omega) (by omega) (List.getLast_mem hne)
  | op o => rw [text]; cases o <;> exact ⟨_, rfl, by decide⟩
  | func f => rw [text]; cases f <;> exact ⟨_, rfl, by decide⟩
  | _ => rw [text]; exact ⟨_, rfl, by decide⟩

theorem head?_text_ne_space (l : Lexeme) : (l.text style).toList.head? ≠ some ' ' := by
  intro h
  rcases isBare_or_lead? l with hl | ⟨c, hl, -⟩
  · have hplain := isPlain_of_head? hl h
    revert hplain
    decide
  · rw [head?_text_of_lead? hl] at h
    cases h
    cases l <;> cases hl

/-- What joining writes behind a lexeme for those that follow it. -/
def behind (style : PlaceholderStyle) (l : Lexeme) : List Lexeme → List Char
  | [] => []
  | m :: ms => gap (l.text style) (m.text style) ++ spaced ((m :: ms).map (text style))

theorem spaced_cons (l : Lexeme) (ls : List Lexeme) :
    spaced ((l :: ls).map (text style)) = (l.text style).toList ++ behind style l ls := by
  cases ls with
  | nil => rw [behind, List.append_nil]; rfl
  | cons m ms => rfl

theorem head?_spaced (l : Lexeme) (ls : List Lexeme) :
    (spaced ((l :: ls).map (text style))).head? = (l.text style).toList.head? := by
  rw [spaced_cons, head?_text_append]

/-- Behind anything but an opening parenthesis stands what cannot prolong it. -/
theorem behind_ends {l : Lexeme} (h : l ≠ opening) (ls : List Lexeme) :
    Ends (behind style l ls) := by
  intro c hc
  cases ls with
  | nil => cases hc
  | cons m ms =>
    rw [behind, gap] at hc
    split at hc
    · rename_i hgap
      rw [List.nil_append, head?_spaced] at hc
      rcases hgap with hl | hm | hm
      · have hl' : l.text style = opening.text style := hl
        exact absurd (text_inj hl') h
      · rw [hm] at hc; cases hc; exact Or.inr (Or.inl rfl)
      · rw [hm] at hc; cases hc; exact Or.inr (Or.inr rfl)
    · cases hc
      exact Or.inl rfl

theorem spaced_cons_ne_nil (l : Lexeme) (ls : List Lexeme) :
    spaced ((l :: ls).map (text style)) ≠ [] := by
  intro h
  rw [spaced_cons] at h
  exact text_ne_nil l (List.append_eq_nil_iff.mp h).1

theorem spaced_cons_ne_space (l : Lexeme) (ls : List Lexeme) (r : List Char) :
    spaced ((l :: ls).map (text style)) ≠ ' ' :: r := by
  intro h
  have hhead := congrArg List.head? h
  rw [head?_spaced] at hhead
  exact head?_text_ne_space l hhead

theorem behind_cons_ne_nil (l m : Lexeme) (ms : List Lexeme) : behind style l (m :: ms) ≠ [] := by
  intro h
  exact spaced_cons_ne_nil m ms (List.append_eq_nil_iff.mp h).2

/-- What stands behind a lexeme shows where the next one starts. -/
theorem behind_inj {l : Lexeme} {ls ms : List Lexeme}
    (h : behind style l ls = behind style l ms) :
    spaced (ls.map (text style)) = spaced (ms.map (text style)) := by
  cases ls with
  | nil =>
    cases ms with
    | nil => rfl
    | cons m ms => exact absurd h.symm (behind_cons_ne_nil l m ms)
  | cons k ks =>
    cases ms with
    | nil => exact absurd h (behind_cons_ne_nil l k ks)
    | cons m ms =>
      -- a space before one of the two lexemes alone would be the start of the other
      rw [behind, behind, gap, gap] at h
      split at h <;> split at h
      · exact h
      · exact absurd h (spaced_cons_ne_space k ks _)
      · exact absurd h.symm (spaced_cons_ne_space m ms _)
      · exact List.append_cancel_left h

/-- **The text of lexemes determines them.** -/
theorem spaced_inj {ls ms : List Lexeme}
    (h : spaced (ls.map (text style)) = spaced (ms.map (text style))) : ls = ms := by
  induction ls generalizing ms with
  | nil =>
    cases ms with
    | nil => rfl
    | cons m ms => exact absurd h.symm (spaced_cons_ne_nil m ms)
  | cons l ls ih =>
    cases ms with
    | nil => exact absurd h (spaced_cons_ne_nil l ls)
    | cons m ms =>
      rw [spaced_cons, spaced_cons] at h
      obtain ⟨rfl, hbehind⟩ := text_append_inj (fun hl => behind_ends hl ls)
        (fun hm => behind_ends hm ms) h
      rw [ih (behind_inj hbehind)]

end Lexeme

end ParamSql

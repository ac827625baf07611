import ParamSql.Proofs.Expr.Shape

/-!
# The text of an expression by its structure

An expression is written as tokens in a row, whose fragments are then joined with blanks that are
partly taken back. What comes out is the text that `Expr.render` writes by recursion.

* `Expr.isPrintable` — expressions whose raw SQL joining leaves as it is, and without empty lists.
* `Prints` — fragments that joining turns into given characters, so that a blank keeps them apart
  from any others like them; there is one lemma for each way to put such fragments together.
* `Expr.prints_tokens` — the fragments of an expression print what it renders.
* `Expr.text_eq_render` — so the text of an expression is what it renders.
-/

set_option autoImplicit false

namespace ParamSql

open Text Sighting

/-- Whether joining leaves a raw text as it is: it ends in a character that is no blank, and it is
neither a parenthesis nor a comma. -/
def isIntact (sql : String) : Bool :=
  (sql.toList.getLast?.any fun c => !isBlank c) && sql != "(" && sql != ")" && sql != ","

namespace Expr

mutual

/-- Whether the raw SQL in an expression is intact and no list in it is empty. -/
def isPrintable : Expr → Bool
  | .column _ | .param _ => true
  | .binary lhs _ rhs => lhs.isPrintable && rhs.isPrintable
  | .between subject low high => subject.isPrintable && low.isPrintable && high.isPrintable
  | .call _ args => arePrintable args
  | .raw sql => isIntact sql
  | .list items => !items.isEmpty && arePrintable items

/-- Whether expressions are all printable. -/
def arePrintable : List Expr → Bool
  | [] => true
  | e :: es => e.isPrintable && arePrintable es

end

end Expr

/-! ## Joining fragments that stand apart -/

/-- Fragments that are joined to given characters, of which the first takes back no blank before it
and the last leaves one behind it. -/
structure Prints (fs : List String) (cs : List Char) : Prop where
  solid : ∀ f ∈ fs, Solid f.toList
  spaced_eq : spaced fs = cs
  head : ∃ f, fs.head? = some f ∧ f ≠ ")" ∧ f ≠ ","
  last : ∃ f, fs.getLast? = some f ∧ f ≠ "("

/-- Between two runs of fragments stands the gap between the last of the one and the first of the
other. -/
theorem spaced_append {f g : String} :
    ∀ {fs gs : List String}, fs.getLast? = some f → gs.head? = some g →
      spaced (fs ++ gs) = spaced fs ++ (gap f g ++ spaced gs)
  | [], _, hf, _ => by cases hf
  | _ :: _, [], _, hg => by cases hg
  | [h], g' :: gs, hf, hg => by
    cases hf
    cases hg
    rfl
  | h :: h' :: fs, gs, hf, hg => by
    have ih : spaced (h' :: fs ++ gs) = spaced (h' :: fs) ++ (gap f g ++ spaced gs) :=
      spaced_append hf hg
    rw [List.cons_append, List.cons_append, spaced, ← List.cons_append, ih, spaced]
    simp only [List.append_assoc]

namespace Prints

variable {fs gs : List String} {cs ds : List Char}

theorem ne_nil (h : Prints fs cs) : fs ≠ [] := by
  obtain ⟨f, hf, -⟩ := h.head
  rintro rfl
  cases hf

/-- A fragment that is no parenthesis and no comma prints itself. -/
theorem single {f : String} (hsolid : Solid f.toList) (hopen : f ≠ "(") (hclose : f ≠ ")")
    (hcomma : f ≠ ",") : Prints [f] f.toList where
  solid := by simpa using hsolid
  spaced_eq := rfl
  head := ⟨f, rfl, hclose, hcomma⟩
  last := ⟨f, rfl, hopen⟩

/-- Two runs in a row have a blank between them. -/
theorem append (h : Prints fs cs) (h' : Prints gs ds) : Prints (fs ++ gs) (cs ++ ' ' :: ds) := by
  obtain ⟨f, hf, hopen⟩ := h.last
  obtain ⟨g, hg, hclose, hcomma⟩ := h'.head
  have hgap : gap f g = [' '] := if_neg (by simp [hopen, hclose, hcomma])
  refine ⟨?_, ?_, ?_, ?_⟩
  · simpa [or_imp, forall_and] using And.intro h.solid h'.solid
  · rw [spaced_append hf hg, hgap, h.spaced_eq, h'.spaced_eq]
    rfl
  · rw [List.head?_append_of_ne_nil _ h.ne_nil]
    exact h.head
  · rw [List.getLast?_append_of_ne_nil _ h'.ne_nil]
    exact h'.last

/-- Two runs with a comma between them have a blank behind the comma alone. -/
theorem comma (h : Prints fs cs) (h' : Prints gs ds) :
    Prints (fs ++ "," :: gs) (cs ++ ',' :: ' ' :: ds) := by
  obtain ⟨f, hf, -⟩ := h.last
  obtain ⟨g, hg, hclose, hcomma⟩ := h'.head
  have hgap : gap "," g = [' '] := if_neg (by simp [hclose, hcomma])
  have hspaced : spaced ("," :: gs) = ',' :: ' ' :: ds := by
    rw [← List.singleton_append, spaced_append (f := ",") rfl hg, hgap, h'.spaced_eq]
    rfl
  refine ⟨?_, ?_, ?_, ?_⟩
  · intro k hk
    rcases List.mem_append.mp hk with hk | hk
    · exact h.solid k hk
    · rcases List.mem_cons.mp hk with rfl | hk
      · exact ⟨',', rfl, by decide⟩
      · exact h'.solid k hk
  · rw [spaced_append hf rfl, gap, if_pos (by simp), h.spaced_eq, hspaced]
    rfl
  · rw [List.head?_append_of_ne_nil _ h.ne_nil]
    exact h.head
  · rw [List.getLast?_append_of_ne_nil _ (by simp), List.getLast?_cons_of_ne_nil h'.ne_nil]
    exact h'.last

/-- A run in parentheses has no blank inside of them. -/
theorem group (h : Prints fs cs) : Prints ("(" :: fs ++ [")"]) ('(' :: cs ++ [')']) := by
  obtain ⟨f, hf, -⟩ := h.last
  obtain ⟨g, hg, -⟩ := h.head
  have hspaced : spaced ("(" :: fs) = '(' :: cs := by
    rw [← List.singleton_append, spaced_append (f := "(") rfl hg, gap, if_pos (by simp),
      h.spaced_eq]
    rfl
  have hlast : ("(" :: fs).getLast? = some f := by
    rw [List.getLast?_cons_of_ne_nil h.ne_nil, hf]
  refine ⟨?_, ?_, ⟨"(", rfl, by decide, by decide⟩, ⟨")", List.getLast?_concat, by decide⟩⟩
  · intro k hk
    rcases List.mem_append.mp hk with hk | hk
    · rcases List.mem_cons.mp hk with rfl | hk
      · exact ⟨'(', rfl, by decide⟩
      · exact h.solid k hk
    · rw [List.mem_singleton] at hk
      subst hk
      exact ⟨')', rfl, by decide⟩
  · rw [spaced_append (g := ")") hlast rfl, gap, if_pos (by simp), hspaced]
    rfl

theorem group_nil : Prints ["(", ")"] ['(', ')'] where
  solid := by
    intro f hf
    simp only [List.mem_cons, List.not_mem_nil, or_false] at hf
    rcases hf with rfl | rfl
    · exact ⟨'(', rfl, by decide⟩
    · exact ⟨')', rfl, by decide⟩
  spaced_eq := rfl
  head := ⟨"(", rfl, by decide, by decide⟩
  last := ⟨")", rfl, by decide⟩

end Prints

/-! ## The fragments of an expression -/

namespace Expr

variable {style : PlaceholderStyle} {place : String → Nat}

theorem prints_lexeme (style : PlaceholderStyle) {l : Lexeme} (hopen : l ≠ .opening)
    (hclose : l ≠ .closing) (hcomma : l ≠ .comma) : Prints [l.text style] (l.text style).toList := by
  refine Prints.single l.text_solid (fun h => ?_) (fun h => ?_) fun h => ?_
  · have hl : l.text style = Lexeme.opening.text style := h
    exact hopen (Lexeme.text_inj hl)
  · have hl : l.text style = Lexeme.closing.text style := h
    exact hclose (Lexeme.text_inj hl)
  · have hl : l.text style = Lexeme.comma.text style := h
    exact hcomma (Lexeme.text_inj hl)

theorem prints_raw {sql : String} (h : isIntact sql = true) : Prints [sql] sql.toList := by
  simp only [isIntact, Bool.and_eq_true, bne_iff_ne, Option.any_eq_true] at h
  obtain ⟨⟨⟨⟨c, hc, hblank⟩, hopen⟩, hclose⟩, hcomma⟩ := h
  exact Prints.single ⟨c, hc, by simpa using hblank⟩ hopen hclose hcomma

/-- The characters of a variable, given the place of its name. -/
def placeChars (style : PlaceholderStyle) (place : String → Nat) (x : Variable) : List Char :=
  (placeholder style (place x.name)).toList

/-- The fragments of an expression print what it renders. -/
def PrintsItself (style : PlaceholderStyle) (place : String → Nat) (e : Expr) : Prop :=
  Prints (e.tokens.map (fragment style place)) (e.render (placeChars style place))

theorem prints_operand {e : Expr} (h : PrintsItself style place e) :
    Prints ((wrap e e.tokens).map (fragment style place))
      (wrapChars e (e.render (placeChars style place))) := by
  unfold wrap wrapChars
  split
  · rw [List.map_append, List.map_cons]
    exact h.group
  · exact h

/-- What the fragments of some expressions with commas between them print. -/
def PrintsListed (style : PlaceholderStyle) (place : String → Nat) (es : List Expr) : Prop :=
  Prints ((commaSeparated (tokensEach es)).map (fragment style place))
    (listedChars (renderEach (placeChars style place) es))

theorem printsListed_singleton {e : Expr} (h : PrintsItself style place e) :
    PrintsListed style place [e] := by
  have hchars : listedChars (renderEach (placeChars style place) [e]) =
      e.render (placeChars style place) := by
    simp [renderEach, listedChars]
  rw [PrintsListed, hchars, tokensEach, tokensEach, commaSeparated_singleton]
  exact h

theorem printsListed_cons {e e' : Expr} {es : List Expr} (h : PrintsItself style place e)
    (hes : PrintsListed style place (e' :: es)) : PrintsListed style place (e :: e' :: es) := by
  have hchars : listedChars (renderEach (placeChars style place) (e :: e' :: es)) =
      e.render (placeChars style place) ++
        ',' :: ' ' :: listedChars (renderEach (placeChars style place) (e' :: es)) := by
    simp [renderEach, listedChars]
  have htokens : (commaSeparated (tokensEach (e :: e' :: es))).map (fragment style place) =
      e.tokens.map (fragment style place) ++
        "," :: (commaSeparated (tokensEach (e' :: es))).map (fragment style place) := by
    rw [tokensEach, tokensEach, commaSeparated_cons_cons, List.map_append, List.map_cons]
    rfl
  rw [PrintsListed, hchars, htokens]
  exact h.comma hes

/-! ## One constructor after another -/

theorem prints_binary {lhs rhs : Expr} (op : Operator) (hl : PrintsItself style place lhs)
    (hr : PrintsItself style place rhs) : PrintsItself style place (.binary lhs op rhs) := by
  have hop : Prints [op.sql] op.sql.toList := prints_lexeme style (l := .op op) nofun nofun nofun
  have h := ((prints_operand hl).append hop).append (prints_operand hr)
  rw [PrintsItself, tokens, render, List.map_append, List.map_cons]
  simpa [fragment] using h

theorem prints_between {subject low high : Expr} (hs : PrintsItself style place subject)
    (hl : PrintsItself style place low) (hh : PrintsItself style place high) :
    PrintsItself style place (.between subject low high) := by
  have hbetween : Prints ["BETWEEN"] "BETWEEN".toList :=
    prints_lexeme style (l := .between) nofun nofun nofun
  have hand : Prints ["AND"] "AND".toList := prints_lexeme style (l := .op .and) nofun nofun nofun
  have h := ((((prints_operand hs).append hbetween).append (prints_operand hl)).append hand).append
    (prints_operand hh)
  simp only [PrintsItself, tokens, render, List.map_append, List.map_cons]
  simpa [fragment] using h

theorem prints_call (f : Aggregate) {args : List Expr}
    (h : args = [] ∨ PrintsListed style place args) : PrintsItself style place (.call f args) := by
  have hname : Prints [f.sql] f.sql.toList := prints_lexeme style (l := .func f) nofun nofun nofun
  have hargs :
      Prints ("(" :: (commaSeparated (tokensEach args)).map (fragment style place) ++ [")"])
        ('(' :: listedChars (renderEach (placeChars style place) args) ++ [')']) := by
    rcases h with rfl | h
    · exact Prints.group_nil
    · exact h.group
  simp only [PrintsItself, tokens, render, List.map_append, List.map_cons]
  simpa [fragment, Token.openParen, Token.closeParen] using hname.append hargs

/-! ## All expressions -/

mutual

/-- **The fragments of a printable expression print what it renders.** -/
theorem prints_tokens : ∀ e : Expr, e.isPrintable = true → PrintsItself style place e
  | .column c, _ => prints_lexeme style (l := .column c) nofun nofun nofun
  | .param x, _ => prints_lexeme style (l := .place (place x.name)) nofun nofun nofun
  | .binary lhs op rhs, h => by
    rw [isPrintable, Bool.and_eq_true] at h
    exact prints_binary op (prints_tokens lhs h.1) (prints_tokens rhs h.2)
  | .between subject low high, h => by
    rw [isPrintable, Bool.and_eq_true, Bool.and_eq_true] at h
    exact prints_between (prints_tokens subject h.1.1) (prints_tokens low h.1.2)
      (prints_tokens high h.2)
  | .call f args, h => by
    rw [isPrintable] at h
    exact prints_call f (prints_commaSeparated args h)
  | .raw sql, h => prints_raw h
  | .list items, h => by
    rw [isPrintable, Bool.and_eq_true, Bool.not_eq_true'] at h
    rcases prints_commaSeparated items h.2 with rfl | hitems
    · cases h.1
    · exact hitems

theorem prints_commaSeparated : ∀ es : List Expr, arePrintable es = true →
    es = [] ∨ PrintsListed style place es
  | [], _ => Or.inl rfl
  | [e], h => by
    rw [arePrintable, Bool.and_eq_true] at h
    exact Or.inr (printsListed_singleton (prints_tokens e h.1))
  | e :: e' :: es, h => by
    rw [arePrintable, Bool.and_eq_true] at h
    rcases prints_commaSeparated (e' :: es) h.2 with hnil | hes
    · cases hnil
    · exact Or.inr (printsListed_cons (prints_tokens e h.1) hes)

end

/-- **The text of an expression is what it renders**, where each variable stands as the placeholder
of the place of its name by first occurrence. -/
theorem text_eq_render (options : CompileOptions) (e : Expr) (h : e.isPrintable = true) :
    (compile e.tokens options).text = String.ofList (e.render fun x =>
      (placeholder options.placeholder (firstPosition (e.params.map (·.name)) x.name)).toList) := by
  have hprints : PrintsItself options.placeholder (position e.params) e := prints_tokens e h
  rw [compile_text, params_tokens, joinFragments, joinChars_eq_spaced hprints.solid,
    hprints.spaced_eq]
  rfl

/-- A call without arguments, a list, raw texts with blanks and delimiters in them, and a sum of
columns inside a product. -/
def mixed (x y : Variable) : Expr :=
  .binary
    (.binary (.between (.raw " now ( )") (.call .max []) (.list [.param x, .raw "a,b"])) .or
      (.call .count [.binary (.param y) .add (.param x), .list [.param y]]))
    .and
    (.binary
      (.binary (.column ⟨some ⟨"orders", by decide⟩, "net", by decide⟩) .add
        (.column ⟨none, "tax", by decide⟩))
      .mul (.param y))

theorem render_mixed :
    let e := mixed ⟨⟨1⟩, "low", .required⟩ ⟨⟨2⟩, "high", .null⟩
    let text := "(( now ( ) BETWEEN (MAX ()) AND ($1, a,b)) OR (COUNT ($2 + $1, $2)))" ++
      " AND ((\"orders\".\"net\" + \"tax\") * $2)"
    e.isPrintable = true ∧ (compile e.tokens).text = text ∧
      String.ofList (e.render fun x =>
        (placeholder .dollar (firstPosition ["low", "high", "low", "high", "high"] x.name)).toList) =
          text := by
  intro e text
  have h : e.isPrintable = true := rfl
  have htext : (compile e.tokens).text = text := by decide
  exact ⟨h, htext, (text_eq_render {} e h).symm.trans htext⟩

end Expr

end ParamSql

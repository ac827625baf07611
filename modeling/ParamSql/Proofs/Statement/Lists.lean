import ParamSql.Proofs.Expr.Items
import ParamSql.Proofs.Statement.Sources

/-!
# The lists of an INSERT

An INSERT counts its values as expressions, the database counts them as the items between commas.

* `Insert.lists?` — the columns and the values that the tokens of an INSERT list.
* `InsertSource.exprs?` — the expressions that are inserted; `isRawFree_ofSteps` says that no step
  without raw SQL brings raw SQL in.
* `Insert.lists?_tokens` — the tokens list the columns and the pieces of the expressions.
* `Insert.lists_of_steps` — when both lists have as many items.
-/

set_option autoImplicit false

namespace ParamSql

open Token

/-! ## Values of a SELECT -/

namespace Select

/-- The clauses of a SELECT behind its selected values. -/
def clauseTokens (s : Select) : List Token :=
  (match s.table with
    | none => []
    | some t => [.sql "FROM", .sql t.sql])
    ++ s.filter.tokens
    ++ (if s.grouping.isEmpty then []
      else .sql "GROUP BY" :: commaSeparated (s.grouping.map Expr.tokens))
    ++ orderingTokens (.sql "ORDER BY") s.ordering
    ++ countTokens "LIMIT" s.limit
    ++ countTokens "OFFSET" s.offset

theorem tokens_eq (s : Select) :
    s.tokens = .sql "SELECT" :: ((if s.isDistinct then [.sql "DISTINCT"] else [])
      ++ (commaSeparated (s.columns.map Expr.tokens) ++ s.clauseTokens)) := by
  rw [tokens, clauseTokens]
  cases s.table <;> simp only [List.cons_append, List.nil_append, List.append_assoc]

theorem endsHere_append {as bs : List Token} (ha : EndsHere as) (hb : EndsHere bs) :
    EndsHere (as ++ bs) := by
  cases as with
  | nil => exact hb
  | cons t ts => exact ha

theorem endsHere_countTokens {keyword : String} (h : keyword ∈ clauseWords) (n : Option UInt64) :
    EndsHere (countTokens keyword n) := by
  cases n with
  | none => trivial
  | some n =>
    have hword : clauseWords.any (Token.sql keyword).isSql = true :=
      List.any_eq_true.mpr ⟨keyword, h, by simp [isSql]⟩
    show endsList (.sql keyword) = true
    rw [endsList, hword, Bool.or_true]

/-- The first clause behind the selected values ends their list. -/
theorem endsHere_clauseTokens (s : Select) : EndsHere s.clauseTokens := by
  have hfrom : EndsHere (match s.table with
      | none => []
      | some t => [.sql "FROM", .sql t.sql]) := by
    cases s.table with
    | none => trivial
    | some t => exact (rfl : endsList (.sql "FROM") = true)
  have hwhere : EndsHere s.filter.tokens := by
    unfold Filter.tokens
    split
    · trivial
    · exact (rfl : endsList (.sql "WHERE") = true)
  have hgrouping : EndsHere (if s.grouping.isEmpty then []
      else .sql "GROUP BY" :: commaSeparated (s.grouping.map Expr.tokens)) := by
    split
    · trivial
    · exact (rfl : endsList (.sql "GROUP BY") = true)
  have hordering : EndsHere (orderingTokens (.sql "ORDER BY") s.ordering) := by
    unfold orderingTokens
    split
    · trivial
    · exact (rfl : endsList (.sql "ORDER BY") = true)
  exact endsHere_append (endsHere_append (endsHere_append (endsHere_append (endsHere_append
    hfrom hwhere) hgrouping) hordering) (endsHere_countTokens (by decide) _))
    (endsHere_countTokens (by decide) _)

end Select

/-! ## Tokens that are no DISTINCT -/

theorem mem_commaSeparated {t : Token} :
    ∀ {runs : List (List Token)}, t ∈ commaSeparated runs → t = comma ∨ ∃ run ∈ runs, t ∈ run
  | [], h => by simp at h
  | [run], h => by
    rw [commaSeparated_singleton] at h
    exact .inr ⟨run, by simp, h⟩
  | run :: next :: runs, h => by
    rw [commaSeparated_cons_cons, List.mem_append, List.mem_cons] at h
    rcases h with h | h | h
    · exact .inr ⟨run, by simp, h⟩
    · exact .inl h
    · rcases mem_commaSeparated h with h | ⟨r, hr, hmem⟩
      · exact .inl h
      · exact .inr ⟨r, List.mem_cons_of_mem _ hr, hmem⟩

/-- No token among some is a given word. -/
def Lacks (word : String) (ts : List Token) : Prop := ∀ t ∈ ts, t.isSql word = false

theorem lacks_append {word : String} {as bs : List Token} :
    Lacks word (as ++ bs) ↔ Lacks word as ∧ Lacks word bs := List.forall_mem_append

theorem lacks_cons {word : String} {t : Token} {ts : List Token} :
    Lacks word (t :: ts) ↔ t.isSql word = false ∧ Lacks word ts := List.forall_mem_cons

theorem lacks_nil (word : String) : Lacks word [] := List.forall_mem_nil _

theorem lacks_commaSeparated {word : String} {runs : List (List Token)}
    (hword : comma.isSql word = false) (h : ∀ run ∈ runs, Lacks word run) :
    Lacks word (commaSeparated runs) := by
  intro t ht
  rcases mem_commaSeparated ht with rfl | ⟨run, hrun, hmem⟩
  · exact hword
  · exact h run hrun t hmem

namespace Expr

theorem lacks_wrap {word : String} {e : Expr} {ts : List Token}
    (hopen : openParen.isSql word = false) (hclose : closeParen.isSql word = false)
    (h : Lacks word ts) : Lacks word (e.wrap ts) := by
  unfold wrap
  split
  · exact lacks_append.mpr ⟨lacks_cons.mpr ⟨hopen, h⟩, lacks_cons.mpr ⟨hclose, lacks_nil _⟩⟩
  · exact h

mutual

/-- An expression without raw SQL has no DISTINCT in it. -/
theorem lacks_distinct : ∀ e : Expr, e.isRawFree = true → Lacks "DISTINCT" e.tokens
  | .column c, _ => lacks_cons.mpr ⟨isSql_column (by decide) c, lacks_nil _⟩
  | .param x, _ => lacks_cons.mpr ⟨rfl, lacks_nil _⟩
  | .binary lhs op rhs, h => by
    rw [isRawFree, Bool.and_eq_true] at h
    have hl := lacks_wrap (e := lhs) (by decide) (by decide) (lacks_distinct lhs h.1)
    have hr := lacks_wrap (e := rhs) (by decide) (by decide) (lacks_distinct rhs h.2)
    have hop : (Token.sql op.sql).isSql "DISTINCT" = false := by cases op <;> decide
    exact lacks_append.mpr ⟨hl, lacks_cons.mpr ⟨hop, hr⟩⟩
  | .between subject low high, h => by
    rw [isRawFree, Bool.and_eq_true, Bool.and_eq_true] at h
    have hs := lacks_wrap (e := subject) (by decide) (by decide) (lacks_distinct subject h.1.1)
    have hl := lacks_wrap (e := low) (by decide) (by decide) (lacks_distinct low h.1.2)
    have hh := lacks_wrap (e := high) (by decide) (by decide) (lacks_distinct high h.2)
    exact lacks_append.mpr ⟨lacks_append.mpr ⟨hs, lacks_cons.mpr ⟨by decide, hl⟩⟩,
      lacks_cons.mpr ⟨by decide, hh⟩⟩
  | .call f args, h => by
    have hargs := lacks_commaSeparated (by decide)
      (lacks_distinct_each args (by rwa [isRawFree] at h))
    have hf : (Token.sql f.sql).isSql "DISTINCT" = false := by cases f <;> decide
    rw [tokens, tokensEach_eq_map]
    exact lacks_cons.mpr ⟨hf, lacks_append.mpr ⟨lacks_cons.mpr ⟨by decide, hargs⟩,
      lacks_cons.mpr ⟨by decide, lacks_nil _⟩⟩⟩
  | .raw _, h => by cases h
  | .list items, h => by
    rw [tokens, tokensEach_eq_map]
    exact lacks_commaSeparated (by decide) (lacks_distinct_each items (by rwa [isRawFree] at h))

theorem lacks_distinct_each : ∀ es : List Expr, areRawFree es = true →
    ∀ run ∈ es.map tokens, Lacks "DISTINCT" run
  | [], _ => by simp
  | e :: es, h => by
    rw [areRawFree, Bool.and_eq_true] at h
    rw [List.map_cons, List.forall_mem_cons]
    exact ⟨lacks_distinct e h.1, lacks_distinct_each es h.2⟩

end

end Expr

/-! ## The lists of an INSERT -/

namespace Insert

/-- The tokens without a DISTINCT at their start. -/
def dropDistinct : List Token → List Token
  | [] => []
  | t :: ts => if t.isSql "DISTINCT" then ts else t :: ts

/-- The items in the parentheses that all tokens stand in. -/
def row? : List Token → Option (List (List Token))
  | opening :: rest =>
    match readItems 0 [] rest with
    | (values, [closing]) =>
      if opening.isSql "(" && closing.isSql ")" then some values else none
    | _ => none
  | [] => none

/-- The values that the tokens of an INSERT list behind its columns: in parentheses behind VALUES up
to the end of all tokens, or behind SELECT up to its next clause. -/
def valuesBehind? : List Token → Option (List (List Token))
  | verb :: rest =>
    if verb.isSql "SELECT" then some (readItems 0 [] (dropDistinct rest)).1
    else if verb.isSql "VALUES" then row? rest
    else none
  | [] => none

/-- The columns and the values that the tokens of an INSERT list: the columns in parentheses behind
its table. -/
def lists? : List Token → Option (List (List Token) × List (List Token))
  | verb :: _ :: opening :: rest =>
    match readItems 0 [] rest with
    | (columns, closing :: rest) =>
      if verb.isSql "INSERT INTO" && opening.isSql "(" && closing.isSql ")" then
        (valuesBehind? rest).map fun values => (columns, values)
      else none
    | _ => none
  | _ => none

end Insert

/-- The expressions that are inserted, unless they are tokens. -/
def InsertSource.exprs? : InsertSource → Option (List Expr)
  | .parameters xs => some (xs.map .param)
  | .values es => some es
  | .raw _ => none
  | .query s => some s.columns

/-- Whether what is inserted is expressions without raw SQL. -/
def InsertSource.isRawFree (source : InsertSource) : Bool :=
  source.exprs?.any Expr.areRawFree

namespace Insert

/-- Whether a step gives data or expressions without raw SQL. -/
def Step.isRawFree : Step → Bool
  | .values row => row.all fun
    | .expr e => e.isRawFree
    | .bind .. => true
  | .query select => Expr.areRawFree select.columns
  | .rawValues _ => false

theorem isRawFree_valueExpr (c : Column) {o : Operand}
    (h : (match o with | .expr e => e.isRawFree | .bind .. => true) = true) :
    (valueExpr c o).isRawFree = true := by
  cases o with
  | expr e => exact h
  | bind id default => rfl

theorem Step.isRawFree_source {st : Step} (h : st.isRawFree = true) (columns : List Column) :
    (st.source columns).isRawFree = true := by
  cases st with
  | values row =>
    rw [Step.isRawFree, List.all_eq_true] at h
    show Expr.areRawFree _ = true
    rw [Expr.areRawFree_iff, List.forall_mem_map]
    exact fun p hp => isRawFree_valueExpr p.1 (h p.2 (List.of_mem_zip hp).2)
  | query select => exact h
  | rawValues tokens => cases h

/-- **Steps without raw SQL bring none into what is inserted.** -/
theorem isRawFree_ofSteps (table : String) (names : List String) (firstId : VariableId)
    {steps : List Step} (h : ∀ st ∈ steps, st.isRawFree = true) :
    (ofSteps table names firstId steps).source.isRawFree = true := by
  refine source_ofSteps (P := fun source => source.isRawFree = true) table names firstId ?_
    fun st hst => Step.isRawFree_source (h st hst)
  intro columns xs _
  show Expr.areRawFree _ = true
  rw [Expr.areRawFree_iff, List.forall_mem_map]
  exact fun _ _ => rfl

/-! ## Reading the lists back -/

theorem dropDistinct_of_head {ts : List Token}
    (h : ∀ t, ts.head? = some t → t.isSql "DISTINCT" = false) : dropDistinct ts = ts := by
  cases ts with
  | nil => rfl
  | cons t ts => simp [dropDistinct, h t rfl]

theorem isSql_distinct_of_endsList {t : Token} (h : t.endsList = true) :
    t.isSql "DISTINCT" = false := by
  cases t with
  | param x => rfl
  | sql text =>
    rw [isSql, beq_eq_false_iff_ne]
    rintro rfl
    exact absurd h (by decide)

/-- The word DISTINCT is passed over, and nothing else of the values of a SELECT. -/
theorem dropDistinct_select (s : Select) (h : Expr.areRawFree s.columns = true) :
    dropDistinct ((if s.isDistinct then [.sql "DISTINCT"] else [])
      ++ (commaSeparated (s.columns.map Expr.tokens) ++ s.clauseTokens)) =
    commaSeparated (s.columns.map Expr.tokens) ++ s.clauseTokens := by
  split
  · rfl
  · have hvalues := lacks_commaSeparated (by decide) (Expr.lacks_distinct_each s.columns h)
    have hends := s.endsHere_clauseTokens
    refine dropDistinct_of_head fun t ht => ?_
    rw [List.nil_append, List.head?_append, Option.or_eq_some_iff] at ht
    rcases ht with ht | ⟨-, ht⟩
    · exact hvalues t (List.mem_of_head? ht)
    · cases hclauses : s.clauseTokens with
      | nil => rw [hclauses] at ht; cases ht
      | cons u us =>
        rw [hclauses] at ht hends
        cases ht
        exact isSql_distinct_of_endsList hends

theorem valuesBehind?_values {es : List Expr} (hne : es ≠ []) (h : Expr.areRawFree es = true) :
    valuesBehind? (.sql "VALUES" :: parenthesized (commaSeparated (es.map Expr.tokens))) =
      some (Expr.piecesEach es) := by
  have hclose : EndsHere [closeParen] := (rfl : endsList closeParen = true)
  have hread := Expr.readItems_tokens hne h hclose
  have hrow : row? (parenthesized (commaSeparated (es.map Expr.tokens))) =
      some (Expr.piecesEach es) := by
    rw [parenthesized, List.cons_append, row?, hread]
    rfl
  rw [← hrow]
  rfl

theorem valuesBehind?_select {s : Select} (hne : s.columns ≠ [])
    (h : Expr.areRawFree s.columns = true) :
    valuesBehind? s.tokens = some (Expr.piecesEach s.columns) := by
  have hread := Expr.readItems_tokens hne h s.endsHere_clauseTokens
  rw [s.tokens_eq, valuesBehind?, if_pos (by decide), dropDistinct_select s h, hread]

/-- **What is inserted lists the pieces of its expressions.** -/
theorem valuesBehind?_source {source : InsertSource} {es : List Expr}
    (hes : source.exprs? = some es) (hne : es ≠ []) (h : source.isRawFree = true) :
    valuesBehind? (sourceTokens source) = some (Expr.piecesEach es) := by
  rw [InsertSource.isRawFree, hes] at h
  cases source with
  | parameters xs =>
    cases hes
    have hvalues := valuesBehind?_values hne h
    rwa [List.map_map] at hvalues
  | values es' =>
    cases hes
    exact valuesBehind?_values hne h
  | raw tokens => cases hes
  | query s =>
    cases hes
    exact valuesBehind?_select hne h

/-- **The tokens of an INSERT list its columns and the pieces of its expressions.** -/
theorem lists?_tokens {s : Insert} {t : Table} {es : List Expr} (htable : Table.named s.table = .ok t)
    (hcolumns : s.columns ≠ []) (hes : s.source.exprs? = some es) (hne : es ≠ [])
    (h : s.source.isRawFree = true) :
    lists? s.tokens = some (s.columns.map fun c => [.sql c.sql], Expr.piecesEach es) := by
  have hclose : EndsHere (closeParen :: sourceTokens s.source) := (rfl : endsList closeParen = true)
  have hread := readItems_commaSeparated hclose (s.columns.map fun c => [.sql c.sql])
    (by simpa using hcolumns)
    (List.forall_mem_map.mpr fun c _ => whole_singleton (Expr.isPlain_column c))
  have htokens : s.tokens = .sql "INSERT INTO" :: .sql t.sql :: openParen ::
      (commaSeparated (s.columns.map fun c => [.sql c.sql])
        ++ closeParen :: sourceTokens s.source) := by
    simp [tokens, InsertInto.headTokens, tableTokens, htable, parenthesized]
  rw [htokens, lists?, hread]
  simp [valuesBehind?_source hes hne h, isSql, openParen, closeParen]

/-- The expressions that fill columns are as many as these. -/
theorem length_of_fills {source : InsertSource} {columns : List Column} {es : List Expr}
    (hes : source.exprs? = some es) (h : source.Fills columns) : es.length = columns.length := by
  rcases h with ⟨tokens, rfl⟩ | hcount
  · cases hes
  · cases source <;> cases hes <;> simpa [InsertSource.count?] using hcount

/-- An INSERT that may be compiled has a table and columns. -/
theorem settled_of_validate {s : Insert} (h : s.validate = .ok ()) :
    ∃ t, Table.named s.table = .ok t ∧ s.columns ≠ [] := by
  rw [validate_eq] at h
  cases htable : Table.named s.table with
  | error e => rw [htable] at h; cases h
  | ok t =>
    refine ⟨t, rfl, ?_⟩
    rintro hcolumns
    rw [htable, hcolumns] at h
    cases herror : s.error <;> rw [herror] at h <;> cases h

/-- **When the lists of an INSERT have as many items.** Where the steps give only data and
expressions without raw SQL and the INSERT compiles, there is an expression for each column, and the
tokens list the columns and the pieces of these expressions. There are as many values as columns and
none of them is empty just if each expression is one item: it is no list, or a list of one item. -/
theorem lists_of_steps (table : String) (names : List String) (firstId : VariableId)
    (steps : List Step) (hfree : ∀ st ∈ steps, st.isRawFree = true) (q : CompiledQuery)
    (hcompile : Statement.compile (ofSteps table names firstId steps) = .ok q) :
    let s := ofSteps table names firstId steps
    ∃ (es : List Expr) (columns values : List (List Token)),
      s.source.exprs? = some es ∧ es.length = s.columns.length ∧
      lists? (Statement.tokens s) = some (columns, values) ∧
      columns = s.columns.map (fun c => [.sql c.sql]) ∧ values = Expr.piecesEach es ∧
      ((values.length = columns.length ∧ ∀ item ∈ columns ++ values, item ≠ []) ↔
        ∀ e ∈ es, e.isItem = true) := by
  intro s
  have hvalid : s.validate = .ok () := by
    obtain ⟨u, hu, -⟩ := map_eq_ok hcompile
    exact hu
  have hraw : s.source.isRawFree = true := isRawFree_ofSteps table names firstId hfree
  obtain ⟨xs, hxs, hs⟩ := ofSteps_eq table names firstId steps
  have hfills : s.source.Fills s.columns := by
    rw [show s = _ from hs]
    exact fills_holding table hxs _ steps
  obtain ⟨es, hes⟩ : ∃ es, s.source.exprs? = some es := by
    rw [InsertSource.isRawFree, Option.any_eq_true] at hraw
    obtain ⟨es, hes, -⟩ := hraw
    exact ⟨es, hes⟩
  have hlength : es.length = s.columns.length := length_of_fills hes hfills
  obtain ⟨t, htable, hcolumns⟩ := settled_of_validate hvalid
  have hne : es ≠ [] := by
    rintro rfl
    exact hcolumns (List.length_eq_zero_iff.mp hlength.symm)
  refine ⟨es, _, _, hes, hlength, lists?_tokens htable hcolumns hes hne hraw, rfl, rfl, ?_⟩
  rw [List.length_map, ← hlength, List.forall_mem_append, ← Expr.forall_isItem_iff]
  have hnonempty : ∀ item ∈ s.columns.map (fun c => [Token.sql c.sql]), item ≠ [] :=
    List.forall_mem_map.mpr fun _ _ => by simp
  exact ⟨fun h => ⟨h.1, h.2.2⟩, fun h => ⟨h.1, hnonempty, h.2⟩⟩

/-- Two columns of the table at hand as a list. -/
def twoColumnList : Expr := .list [.column ⟨none, "x", by decide⟩, .column ⟨none, "y", by decide⟩]

/-- A value by itself, and a list in the parentheses of a call that is a list of its own. -/
theorem lists_nested :
    let steps := [Step.values [.bind ⟨7⟩ .null, .expr (.list [.call .max [twoColumnList]])]]
    let s := ofSteps "t" ["a", "b"] ⟨1⟩ steps
    ∃ q, (∀ st ∈ steps, st.isRawFree = true) ∧ Statement.compile s = .ok q ∧
      ∃ columns values, lists? (Statement.tokens s) = some (columns, values) ∧
        values.length = columns.length ∧ ∀ item ∈ columns ++ values, item ≠ [] := by
  intro steps s
  have hfree : ∀ st ∈ steps, st.isRawFree = true := by decide
  have hvalid : s.validate = .ok () := rfl
  have hcompile : Statement.compile s = .ok (compile s.tokens) :=
    congrArg (Except.map fun _ => compile s.tokens) hvalid
  obtain ⟨es, columns, values, hes, -, hlists, -, -, hiff⟩ :=
    lists_of_steps "t" ["a", "b"] ⟨1⟩ steps hfree _ hcompile
  have hitems : ∀ e ∈ es, e.isItem = true := by
    cases hes
    decide
  exact ⟨_, hfree, hcompile, columns, values, hlists, hiff.mpr hitems⟩

/-- **A list is one value for the count of an INSERT and several ones in its text.** -/
theorem lists_of_twoColumnList :
    let steps := [Step.values [.expr twoColumnList]]
    let s := ofSteps "t" ["a"] ⟨1⟩ steps
    (∀ st ∈ steps, st.isRawFree = true) ∧
      Statement.toSql s = .ok "INSERT INTO \"t\" (\"a\") VALUES (\"x\", \"y\")" ∧
      ¬∃ columns values, lists? (Statement.tokens s) = some (columns, values) ∧
        values.length = columns.length := by
  intro steps s
  refine ⟨by decide, by decide +kernel, ?_⟩
  rintro ⟨columns, values, hlists, hlength⟩
  cases hlists
  exact absurd hlength (by decide)

end Insert

end ParamSql

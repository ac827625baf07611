import ParamSql.Proofs.Expr.Shape

/-!
# Reading lexemes

A machine that goes over lexemes from left to right, one step for each, and builds the shape that
they say. It keeps a row of items for each parenthesis that is open.

* `Reader.step`, `run` — one step, and all of them.
* `Reads` — the lexemes of an expression bring the machine from the start of an item to the end of
  the expression, whatever has been read before; there is one lemma for each constructor.
* `reads_of_isNormal` — so they do for every normal expression.
* `read?_lexemes` — the machine gives back the shape of a normal expression.
* `numbered_of_text` — so the text of a normal expression says which expression it is.
-/

set_option autoImplicit false

namespace ParamSql

/-- What has been read of one item. -/
inductive Item where
  /-- Nothing. -/
  | start
  /-- An operand. -/
  | operand (a : Shape)
  /-- An operand and an operator. -/
  | operator (lhs : Shape) (op : Operator)
  /-- An operand and BETWEEN. -/
  | ranged (subject : Shape)
  /-- A range up to its lower bound. -/
  | bounded (subject low : Shape)
  /-- A range up to the AND behind its lower bound. -/
  | joined (subject low : Shape)
  /-- The name of a function. -/
  | named (f : Aggregate)
  /-- An expression that no lexeme can go on with. -/
  | whole (a : Shape)

namespace Item

/-- An item with one more operand. -/
def addOperand? : Item → Shape → Option Item
  | start, a => some (operand a)
  | operator lhs op, a => some (whole (.binary lhs op a))
  | ranged subject, a => some (bounded subject a)
  | joined subject low, a => some (whole (.between subject low a))
  | operand _, _ | bounded .., _ | named _, _ | whole _, _ => none

/-- An item with one more operator, which behind the lower bound of a range has to be AND. -/
def addOperator? : Item → Operator → Option Item
  | operand lhs, op => some (operator lhs op)
  | bounded subject low, .and => some (joined subject low)
  | _, _ => none

/-- An item with a BETWEEN. -/
def addBetween? : Item → Option Item
  | operand subject => some (ranged subject)
  | _ => none

/-- An item that starts with the name of a function. -/
def addName? : Item → Aggregate → Option Item
  | start, f => some (named f)
  | _, _ => none

/-- The shape of an item that can end here. -/
def shape? : Item → Option Shape
  | operand a | whole a => some a
  | _ => none

end Item

/-- A row of items: those that have ended, and the last one. -/
structure Row where
  done : List Shape
  last : Item

namespace Row

/-- The items of a row, all of which have ended. -/
def items? (r : Row) : Option (List Shape) := r.last.shape?.map fun a => r.done ++ [a]

/-- The expression that a row of items is: the only one, or the list of them. -/
def ofItems : List Shape → Shape
  | [a] => a
  | items => .list items

/-- The expression that a row is. -/
def shape? (r : Row) : Option Shape := r.items?.map ofItems

/-- The arguments that a row is; there may be none. -/
def args? : Row → Option (List Shape)
  | ⟨[], .start⟩ => some []
  | r => r.items?

end Row

/-- An item behind a pair of parentheses with a row inside. -/
def Item.addGroup? (i : Item) (r : Row) : Option Item :=
  match i with
  | .named f => r.args?.map fun args => .whole (.call f args)
  | i => r.shape?.bind i.addOperand?

/-- The row that is read, and the rows around it from inside out. -/
structure Reader where
  row : Row
  around : List Row

namespace Reader

/-- The reader with another last item. -/
def withLast (r : Reader) (i : Item) : Reader := { r with row := { r.row with last := i } }

/-- One lexeme more. -/
def step (r : Reader) : Lexeme → Option Reader
  | .column c => (r.row.last.addOperand? (.column c)).map r.withLast
  | .place n => (r.row.last.addOperand? (.place n)).map r.withLast
  | .op o => (r.row.last.addOperator? o).map r.withLast
  | .between => r.row.last.addBetween?.map r.withLast
  | .func f => (r.row.last.addName? f).map r.withLast
  | .opening => some ⟨⟨[], .start⟩, r.row :: r.around⟩
  | .closing =>
    match r.around with
    | [] => none
    | row :: around => (row.last.addGroup? r.row).map fun i => ⟨⟨row.done, i⟩, around⟩
  | .comma => r.row.items?.map fun done => ⟨⟨done, .start⟩, r.around⟩

/-- Lexemes one after another. -/
def run : Reader → List Lexeme → Option Reader
  | r, [] => some r
  | r, l :: ls => (r.step l).bind fun r => run r ls

theorem run_cons {r r' : Reader} {l : Lexeme} (h : r.step l = some r') (ls : List Lexeme) :
    run r (l :: ls) = run r' ls := by
  rw [run, h]
  rfl

theorem map_withLast {o : Option Item} {i i' : Item} (h : o = some i') (done : List Shape)
    (around : List Row) : o.map (withLast ⟨⟨done, i⟩, around⟩) = some ⟨⟨done, i'⟩, around⟩ := by
  rw [h]
  rfl

theorem step_closing {i i' : Item} {row : Row} (h : i.addGroup? row = some i')
    (done : List Shape) (around : List Row) :
    step ⟨row, ⟨done, i⟩ :: around⟩ .closing = some ⟨⟨done, i'⟩, around⟩ := by
  show (i.addGroup? row).map _ = _
  rw [h]
  rfl

theorem step_comma {row : Row} {done : List Shape} (h : row.items? = some done)
    (around : List Row) : step ⟨row, around⟩ .comma = some ⟨⟨done, .start⟩, around⟩ := by
  show row.items?.map _ = _
  rw [h]
  rfl

theorem run_append {r r' : Reader} {ls : List Lexeme} (h : run r ls = some r')
    (ms : List Lexeme) : run r (ls ++ ms) = run r' ms := by
  induction ls generalizing r with
  | nil =>
    cases h
    rfl
  | cons l ls ih =>
    rw [run] at h
    rw [List.cons_append, run]
    cases hstep : r.step l with
    | none =>
      rw [hstep] at h
      cases h
    | some next =>
      rw [hstep] at h
      exact ih h

end Reader

/-- The shape that lexemes say. -/
def read? (ls : List Lexeme) : Option Shape :=
  match Reader.run ⟨⟨[], .start⟩, []⟩ ls with
  | some ⟨row, []⟩ => row.shape?
  | _ => none

open Reader

namespace Expr

variable {place : String → Nat}

/-- What an expression adds to a row: a list adds its items. -/
def items (place : String → Nat) : Expr → List Shape
  | .list items => shapeEach place items
  | e => [e.shape place]

/-- The lexemes of an expression bring a reader from the start of an item to where the expression
can end, in the same row. -/
def Reads (place : String → Nat) (e : Expr) : Prop :=
  ∀ (done : List Shape) (around : List Row), ∃ row,
    run ⟨⟨done, .start⟩, around⟩ (e.lexemes place) = some ⟨row, around⟩ ∧
      row.items? = some (done ++ e.items place)

/-- The lexemes of an expression as a part of another one add an operand. -/
def ReadsOperand (place : String → Nat) (e : Expr) : Prop :=
  ∀ (done : List Shape) (around : List Row) (i i' : Item),
    i.addOperand? (e.shape place) = some i' →
      run ⟨⟨done, i⟩, around⟩ (grouped e (e.lexemes place)) = some ⟨⟨done, i'⟩, around⟩

theorem length_shapeEach (es : List Expr) : (shapeEach place es).length = es.length := by
  induction es with
  | nil => rfl
  | cons e es ih => rw [shapeEach, List.length_cons, List.length_cons, ih]

/-- A row of nothing but a normal expression is that expression. -/
theorem ofItems_items {e : Expr} (h : e.isNormal = true) :
    Row.ofItems (e.items place) = e.shape place := by
  cases e with
  | list es =>
    rw [isNormal, Bool.and_eq_true, decide_eq_true_eq] at h
    have hlength : (shapeEach place es).length = es.length := length_shapeEach es
    rw [items, shape]
    cases hes : shapeEach place es with
    | nil => rfl
    | cons a more =>
      cases more with
      | nil =>
        rw [hes, List.length_singleton] at hlength
        omega
      | cons b more => rfl
  | _ => rfl

theorem addGroup?_of_addOperand? {i i' : Item} {a : Shape} (h : i.addOperand? a = some i')
    {row : Row} (hrow : row.shape? = some a) : i.addGroup? row = some i' := by
  cases i with
  | named f => cases h
  | _ =>
    show row.shape?.bind _ = _
    rw [hrow]
    exact h

theorem args?_of_items? {row : Row} {as : List Shape} (h : row.items? = some as) :
    row.args? = some as := by
  unfold Row.args?
  split
  · cases h
  · exact h

/-- **An expression in its place as an operand** is one lexeme, or stands in parentheses of its
own. -/
theorem readsOperand {e : Expr} (hn : e.isNormal = true) (h : Reads place e) :
    ReadsOperand place e := by
  intro done around i i' hi
  by_cases hcomposite : e.isComposite = true
  · obtain ⟨row, hrun, hitems⟩ := h [] (⟨done, i⟩ :: around)
    have hshape : row.shape? = some (e.shape place) := by
      rw [Row.shape?, hitems, List.nil_append, Option.map_some, ofItems_items hn]
    have hclosing := step_closing (addGroup?_of_addOperand? hi hshape) done around
    rw [grouped, if_pos hcomposite, List.cons_append, run_cons rfl, run_append hrun,
      run_cons hclosing]
    rfl
  · rw [grouped, if_neg hcomposite]
    cases e with
    | column c =>
      have hstep : step ⟨⟨done, i⟩, around⟩ (.column c) = some ⟨⟨done, i'⟩, around⟩ :=
        map_withLast hi done around
      rw [lexemes, run_cons hstep]
      rfl
    | param x =>
      have hstep : step ⟨⟨done, i⟩, around⟩ (.place (place x.name)) = some ⟨⟨done, i'⟩, around⟩ :=
        map_withLast hi done around
      rw [lexemes, run_cons hstep]
      rfl
    | raw sql => cases hn
    | _ => exact absurd rfl hcomposite

/-! ## One constructor after another -/

theorem reads_column (c : Column) : Reads place (.column c) :=
  fun done _ => ⟨⟨done, .operand (.column c)⟩, rfl, rfl⟩

theorem reads_param (x : Variable) : Reads place (.param x) :=
  fun done _ => ⟨⟨done, .operand (.place (place x.name))⟩, rfl, rfl⟩

theorem reads_binary {lhs rhs : Expr} (op : Operator) (hl : ReadsOperand place lhs)
    (hr : ReadsOperand place rhs) : Reads place (.binary lhs op rhs) := by
  intro done around
  refine ⟨⟨done, .whole (.binary (lhs.shape place) op (rhs.shape place))⟩, ?_, rfl⟩
  rw [lexemes, run_append (hl done around .start (.operand (lhs.shape place)) rfl), run_cons rfl]
  exact hr done around (.operator (lhs.shape place) op) _ rfl

theorem reads_between {subject low high : Expr} (hs : ReadsOperand place subject)
    (hl : ReadsOperand place low) (hh : ReadsOperand place high) :
    Reads place (.between subject low high) := by
  intro done around
  let s := subject.shape place
  let l := low.shape place
  refine ⟨⟨done, .whole (.between s l (high.shape place))⟩, ?_, rfl⟩
  have hbetween : step ⟨⟨done, .operand s⟩, around⟩ .between = some ⟨⟨done, .ranged s⟩, around⟩ :=
    rfl
  rw [lexemes, List.append_assoc, run_append (hs done around .start (.operand s) rfl),
    List.cons_append, run_cons hbetween,
    run_append (hl done around (.ranged s) (.bounded s l) rfl), run_cons rfl]
  exact hh done around (.joined s l) _ rfl

/-- What the lexemes of some expressions do: each adds itself to the row. -/
def ReadsListed (place : String → Nat) (es : List Expr) : Prop :=
  ∀ (done : List Shape) (around : List Row), ∃ row,
    run ⟨⟨done, .start⟩, around⟩ (listed (lexemesEach place es)) = some ⟨row, around⟩ ∧
      row.items? = some (done ++ shapeEach place es)

theorem reads_call (f : Aggregate) {args : List Expr} (h : args = [] ∨ ReadsListed place args) :
    Reads place (.call f args) := by
  intro done around
  refine ⟨⟨done, .whole (.call f (shapeEach place args))⟩, ?_, rfl⟩
  have hargs : ∃ row,
      run ⟨⟨[], .start⟩, ⟨done, .named f⟩ :: around⟩ (listed (lexemesEach place args)) =
          some ⟨row, ⟨done, .named f⟩ :: around⟩ ∧
        row.args? = some (shapeEach place args) := by
    rcases h with rfl | h
    · exact ⟨⟨[], .start⟩, rfl, rfl⟩
    · obtain ⟨row, hrun, hitems⟩ := h [] (⟨done, .named f⟩ :: around)
      exact ⟨row, hrun, args?_of_items? hitems⟩
  obtain ⟨row, hrun, hargs⟩ := hargs
  have hgroup : (Item.named f).addGroup? row =
      some (.whole (.call f (shapeEach place args))) := by
    rw [Item.addGroup?, hargs]
    rfl
  have hname : step ⟨⟨done, .start⟩, around⟩ (.func f) = some ⟨⟨done, .named f⟩, around⟩ := rfl
  have hopening : step ⟨⟨done, .named f⟩, around⟩ .opening =
      some ⟨⟨[], .start⟩, ⟨done, .named f⟩ :: around⟩ := rfl
  rw [lexemes, List.cons_append, run_cons hname, List.cons_append, run_cons hopening,
    run_append hrun, run_cons (step_closing hgroup done around)]
  rfl

theorem items_of_not_isList {e : Expr} (h : e.isList = false) :
    e.items place = [e.shape place] := by
  cases e with
  | list items => cases h
  | _ => rfl

theorem readsListed_singleton {e : Expr} (hlist : e.isList = false) (h : Reads place e) :
    ReadsListed place [e] := by
  intro done around
  have hread := h done around
  rw [items_of_not_isList hlist] at hread
  exact hread

theorem readsListed_cons {e e' : Expr} {es : List Expr} (hlist : e.isList = false)
    (h : Reads place e) (hes : ReadsListed place (e' :: es)) :
    ReadsListed place (e :: e' :: es) := by
  intro done around
  obtain ⟨row, hrun, hitems⟩ := h done around
  obtain ⟨row', hrun', hitems'⟩ := hes (done ++ e.items place) around
  rw [items_of_not_isList hlist] at hitems hrun' hitems'
  rw [lexemesEach] at hrun'
  refine ⟨row', ?_, ?_⟩
  · rw [lexemesEach, lexemesEach, listed, run_append hrun, run_cons (step_comma hitems around)]
    exact hrun'
  · rw [hitems', shapeEach, shapeEach, List.append_assoc]
    rfl

/-! ## All expressions -/

mutual

/-- **A reader goes over every normal expression as a whole.** -/
theorem reads_of_isNormal : ∀ e : Expr, e.isNormal = true → Reads place e
  | .column c, _ => reads_column c
  | .param x, _ => reads_param x
  | .binary lhs op rhs, h => by
    rw [isNormal, Bool.and_eq_true] at h
    exact reads_binary op (readsOperand h.1 (reads_of_isNormal lhs h.1))
      (readsOperand h.2 (reads_of_isNormal rhs h.2))
  | .between subject low high, h => by
    rw [isNormal, Bool.and_eq_true, Bool.and_eq_true] at h
    exact reads_between (readsOperand h.1.1 (reads_of_isNormal subject h.1.1))
      (readsOperand h.1.2 (reads_of_isNormal low h.1.2))
      (readsOperand h.2 (reads_of_isNormal high h.2))
  | .call f args, h => by
    rw [isNormal] at h
    exact reads_call f (readsListed_of_areItems args h)
  | .raw _, h => by cases h
  | .list items, h => by
    rw [isNormal, Bool.and_eq_true, decide_eq_true_eq] at h
    rcases readsListed_of_areItems items h.2 with rfl | hitems
    · exact absurd h.1 (by decide)
    · exact hitems

theorem readsListed_of_areItems : ∀ es : List Expr, areItems es = true →
    es = [] ∨ ReadsListed place es
  | [], _ => Or.inl rfl
  | [e], h => by
    rw [areItems, Bool.and_eq_true, Bool.and_eq_true, Bool.not_eq_true'] at h
    exact Or.inr (readsListed_singleton h.1.1 (reads_of_isNormal e h.1.2))
  | e :: e' :: es, h => by
    rw [areItems, Bool.and_eq_true, Bool.and_eq_true, Bool.not_eq_true'] at h
    rcases readsListed_of_areItems (e' :: es) h.2 with hnil | hes
    · cases hnil
    · exact Or.inr (readsListed_cons h.1.1 (reads_of_isNormal e h.1.2) hes)

end

/-- **The lexemes of a normal expression are read as its shape.** -/
theorem read?_lexemes {e : Expr} (h : e.isNormal = true) :
    read? (e.lexemes place) = some (e.shape place) := by
  have hreads : Reads place e := reads_of_isNormal e h
  obtain ⟨row, hrun, hitems⟩ := hreads [] []
  rw [read?, hrun]
  show row.shape? = _
  rw [Row.shape?, hitems, List.nil_append, Option.map_some, ofItems_items h]

/-! ## Texts -/

/-- **Two normal expressions of one text are one expression**, once each variable is replaced by the
first-occurrence number of its name. -/
theorem numbered_of_text (options : CompileOptions) (e e' : Expr) (h : e.isNormal = true)
    (h' : e'.isNormal = true)
    (htext : (compile e.tokens options).text = (compile e'.tokens options).text) :
    e.numbered = e'.numbered := by
  have hspaced := congrArg String.toList htext
  rw [compile_text_of_isNormal h, compile_text_of_isNormal h'] at hspaced
  have hread := congrArg read? (Lexeme.spaced_inj hspaced)
  rw [read?_lexemes h, read?_lexemes h', Option.some.injEq] at hread
  exact hread

/-- A column with delimiters in its name between a sum and a list of variables. -/
def within (x y : Variable) : Expr :=
  .between (.column ⟨some ⟨"t", by decide⟩, "\" AND ($1, \\.", by decide⟩)
    (.binary (.param x) .add (.call .count [.param y, .column ⟨none, "$1", by decide⟩]))
    (.list [.param y, .param x])

/-- Variables of other names leave the text as it is. -/
theorem numbered_within :
    let e := within ⟨⟨1⟩, "low", .required⟩ ⟨⟨2⟩, "high", .required⟩
    let e' := within ⟨⟨3⟩, "x", .value (.int32 1)⟩ ⟨⟨4⟩, "y", .required⟩
    e.isNormal = true ∧ e'.isNormal = true ∧
      (compile e.tokens).text = (compile e'.tokens).text ∧ e.numbered = e'.numbered := by
  intro e e'
  have h : e.isNormal = true := rfl
  have h' : e'.isNormal = true := rfl
  have htext : (compile e.tokens).text = (compile e'.tokens).text := by decide
  exact ⟨h, h', htext, numbered_of_text {} e e' h h' htext⟩

end Expr

end ParamSql

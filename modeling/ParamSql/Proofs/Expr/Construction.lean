import ParamSql.Expr.Build
import ParamSql.Expr.Render
import ParamSql.Proofs.Text.Naming

/-!
# Expressions that can be built

A variable is given its name by the caller, who is refused any but a valid one, or by a comparison
with data. The latter names are glued together and not checked; they are valid all the same.

* `isValid_operandName` — the name for data beside an expression with valid names is valid, whatever
  the comparison.
* `Built` — the expressions that the ways of making expressions lead to.
* `Built.namesValid` — all of their variables have valid names.
-/

set_option autoImplicit false

namespace ParamSql

/-- Variables with valid names. -/
def NamesValid (xs : List Variable) : Prop := ∀ x ∈ xs, Name.isValid x.name = true

theorem namesValid_nil : NamesValid [] := nofun

theorem namesValid_singleton {x : Variable} : NamesValid [x] ↔ Name.isValid x.name = true :=
  List.forall_mem_singleton

theorem namesValid_append {xs ys : List Variable} :
    NamesValid (xs ++ ys) ↔ NamesValid xs ∧ NamesValid ys := List.forall_mem_append

theorem Variable.isValid_of_named {name : String} {id : VariableId} {default : Default}
    {x : Variable} (h : Variable.named name id default = .ok x) : Name.isValid x.name = true := by
  unfold named at h
  split at h
  · obtain rfl := Except.ok.inj h
    assumption
  · cases h

theorem Variable.named_of_isValid {name : String} (h : Name.isValid name = true) (id : VariableId)
    (default : Default) : Variable.named name id default = .ok ⟨id, name, default⟩ := if_pos h

namespace Expr

/-! ## Names for data -/

/-- The words for comparisons in the names of parameters: those of the operators, and of the two
ends of a range. -/
inductive IsLabel : String → Prop where
  | operator (op : Operator) : IsLabel op.label
  | low : IsLabel "min"
  | high : IsLabel "max"

theorem IsLabel.continues {label : String} (h : IsLabel label) : Name.Continues label := by
  have hidentifier : Name.isIdentifier label = true := by
    cases h with
    | operator op => cases op <;> rfl
    | low => rfl
    | high => rfl
  exact (Name.isIdentifier_iff.mp hidentifier).2

/-- What the names for data beside an expression start with is a valid name. -/
theorem isValid_stem {e : Expr} (h : NamesValid e.params) : Name.isValid e.stem = true := by
  cases e with
  | column c => exact c.isValid_argument
  | param x => exact namesValid_singleton.mp h
  | call f args =>
    show Name.isValid f.label = true
    cases f <;> rfl
  | binary | between | raw | list =>
    show Name.isValid "expr" = true
    rfl

/-- **The name for data beside an expression is valid**, if those in the expression are. -/
theorem isValid_operandName {e : Expr} (h : NamesValid e.params) {label : String}
    (hlabel : IsLabel label) : Name.isValid (e.operandName label) = true := by
  have hstem := isValid_stem h
  have hglued := Name.isValid_glue hstem hlabel.continues
  unfold operandName
  split
  · exact hglued
  · split
    · exact hstem
    · exact hglued

/-- So data becomes a variable that the caller could have named as well. -/
theorem ofOperand_bind {e : Expr} (h : NamesValid e.params) {label : String}
    (hlabel : IsLabel label) (id : VariableId) (default : Default) :
    ∃ x, Variable.named (e.operandName label) id default = .ok x ∧
      e.ofOperand label (.bind id default) = .param x :=
  ⟨_, Variable.named_of_isValid (isValid_operandName h hlabel) id default, rfl⟩

theorem namesValid_ofOperand {e : Expr} (h : NamesValid e.params) {label : String}
    (hlabel : IsLabel label) {o : Operand} (ho : ∀ e', o = .expr e' → NamesValid e'.params) :
    NamesValid (e.ofOperand label o).params := by
  cases o with
  | expr e' => exact ho e' rfl
  | bind id default => exact namesValid_singleton.mpr (isValid_operandName h hlabel)

/-! ## Ways of making expressions -/

/-- The expressions that can be built. Whatever is made of built expressions is built too; sums,
quotients and groups of values are made by an operator. A variable may be named, if its name is
valid, or taken out of a built expression. -/
inductive Built : Expr → Prop where
  | column (c : Column) : Built (.column c)
  | param {name : String} {id : VariableId} {default : Default} {x : Variable}
      (h : Variable.named name id default = .ok x) : Built (.param x)
  | part {e : Expr} {x : Variable} (h : Built e) (hx : x ∈ e.params) : Built (.param x)
  | raw (sql : String) : Built (.raw sql)
  | list {items : List Expr} (h : ∀ e ∈ items, Built e) : Built (.list items)
  | call (f : Aggregate) {args : List Expr} (h : ∀ e ∈ args, Built e) : Built (.call f args)
  | binary {lhs rhs : Expr} (op : Operator) (hl : Built lhs) (hr : Built rhs) :
      Built (.binary lhs op rhs)
  | between {subject low high : Expr} (hs : Built subject) (hl : Built low) (hh : Built high) :
      Built (.between subject low high)
  | compare {lhs : Expr} {rhs : Operand} (op : Operator) (hl : Built lhs)
      (hr : ∀ e, rhs = .expr e → Built e) : Built (lhs.compare op rhs)
  | range {subject : Expr} {low high : Operand} (hs : Built subject)
      (hl : ∀ e, low = .expr e → Built e) (hh : ∀ e, high = .expr e → Built e) :
      Built (subject.range low high)

theorem mem_paramsEach {x : Variable} {es : List Expr} :
    x ∈ paramsEach es ↔ ∃ e ∈ es, x ∈ e.params := by
  induction es with
  | nil => simp [paramsEach]
  | cons e es ih => simp [paramsEach, ih]

/-- **In a built expression every variable has a valid name.** -/
theorem Built.namesValid {e : Expr} (h : e.Built) : NamesValid e.params := by
  induction h with
  | column c => exact namesValid_nil
  | param h => exact namesValid_singleton.mpr (Variable.isValid_of_named h)
  | part _ hx ih => exact namesValid_singleton.mpr (ih _ hx)
  | raw sql => exact namesValid_nil
  | list _ ih | call f _ ih =>
    intro x hx
    obtain ⟨e, he, hx⟩ := mem_paramsEach.mp hx
    exact ih e he x hx
  | binary op _ _ hl hr => exact namesValid_append.mpr ⟨hl, hr⟩
  | between _ _ _ hs hl hh =>
    exact namesValid_append.mpr ⟨namesValid_append.mpr ⟨hs, hl⟩, hh⟩
  | compare op _ _ hl hr =>
    exact namesValid_append.mpr ⟨hl, namesValid_ofOperand hl (.operator op) hr⟩
  | range _ _ _ hs hl hh =>
    have hlow := namesValid_ofOperand hs .low hl
    have hhigh := namesValid_ofOperand hs .high hh
    exact namesValid_append.mpr ⟨namesValid_append.mpr ⟨hs, hlow⟩, hhigh⟩

theorem built_foldl (op : Operator) {es : List Expr} {e : Expr} (he : e.Built)
    (hes : ∀ e' ∈ es, e'.Built) : (es.foldl (fun acc next => .binary acc op next) e).Built := by
  induction es generalizing e with
  | nil => exact he
  | cons next es ih =>
    rw [List.forall_mem_cons] at hes
    exact ih (.binary op he hes.1) hes.2

/-- A group of built values is built. -/
theorem built_group {op : Operator} {es : List Expr} {e : Expr} (hes : ∀ e' ∈ es, e'.Built)
    (h : group op es = .ok e) : e.Built := by
  unfold group at h
  split at h
  · cases h
  · obtain rfl := Except.ok.inj h
    rw [List.forall_mem_cons] at hes
    exact built_foldl op hes.1 hes.2

end Expr

end ParamSql

import Mathlib.Data.List.Forall2
import ParamSql.Proofs.Expr.Shape
import ParamSql.Proofs.Query.Consistency

/-!
# Equal tokens make equal queries

Equality does not look at the identities of variables, but registering a variable does: a copy of
the first one of its name is not compared with it. For tokens that equal others this comes to the
same, since a variable that equals anything at all is declared like itself.

* `EqualVariables` — variables that equal one another in turn; the `parameters` and `conflicts` of
  such variables are equal.
* `EqualTokens` — the same of tokens; `equalTokens_tokens` says it of equal expressions.
* `compile_eq_of_equal` — so equal tokens, and equal expressions, compile to equal queries,
  whichever of their variables are copies.
-/

set_option autoImplicit false

namespace ParamSql

open Sighting

/-! ## Equal variables -/

/-- Equal values are of one type. -/
theorem Value.type?_of_eq {v w : Value} (h : v.eq w = true) : v.type? = w.type? := by
  cases v <;> cases w <;> first | rfl | cases h

namespace Variable

variable {x y : Variable}

theorem name_of_eq (h : x.eq y = true) : x.name = y.name := by
  rw [eq, Bool.and_eq_true] at h
  exact eq_of_beq h.1

/-- Equal variables are declared alike. -/
theorem sameDefinition_of_eq (h : x.eq y = true) :
    x.parameter.sameDefinition y.parameter = true := by
  rw [eq, Bool.and_eq_true] at h
  obtain ⟨-, hdefault⟩ := h
  unfold parameter
  cases hx : x.default <;> cases hy : y.default <;> rw [hx, hy] at hdefault
  case required.required => rfl
  case null.null => rfl
  case typed.typed t u =>
    exact Parameter.sameDefinition_iff.mpr ⟨eq_of_beq hdefault, rfl⟩
  case value.value v w =>
    exact Parameter.sameDefinition_iff.mpr ⟨Value.type?_of_eq hdefault, hdefault⟩
  all_goals cases hdefault

theorem parameter_eq_of_eq (h : x.eq y = true) : x.parameter.eq y.parameter = true := by
  rw [Parameter.eq, Bool.and_eq_true, parameter_name, parameter_name]
  exact ⟨beq_iff_eq.mpr (name_of_eq h), sameDefinition_of_eq h⟩

end Variable

/-- Variables that equal one another in turn. -/
def EqualVariables (xs ys : List Variable) : Prop :=
  List.Forall₂ (fun x y => x.eq y = true) xs ys

namespace EqualVariables

variable {xs ys : List Variable}

theorem names (h : EqualVariables xs ys) : xs.map (·.name) = ys.map (·.name) := by
  induction h with
  | nil => rfl
  | cons hxy _ ih => rw [List.map_cons, List.map_cons, Variable.name_of_eq hxy, ih]

theorem distinctNames (h : EqualVariables xs ys) :
    Sighting.distinctNames xs = Sighting.distinctNames ys := by
  rw [Sighting.distinctNames, h.names, Sighting.distinctNames]

theorem position (h : EqualVariables xs ys) : Sighting.position xs = Sighting.position ys := by
  funext name
  rw [Sighting.position, h.distinctNames, Sighting.position]

/-- The first variables of a name are equal, if there are any. -/
theorem first? (h : EqualVariables xs ys) (name : String) :
    Option.Rel (fun x y => x.eq y = true) (Sighting.first? xs name) (Sighting.first? ys name) := by
  induction h with
  | nil => exact .none
  | cons hxy _ ih =>
    rw [Sighting.first?, Sighting.first?, List.find?_cons, List.find?_cons,
      ← Variable.name_of_eq hxy]
    split
    · exact .some hxy
    · exact ih

/-- The parameters that equal variables ask for are equal in turn. -/
theorem parameters (h : EqualVariables xs ys) :
    List.Forall₂ (fun p q => p.eq q = true) (Sighting.parameters xs) (Sighting.parameters ys) := by
  rw [Sighting.parameters, Sighting.parameters, h.distinctNames]
  refine List.rel_filterMap ?_ (List.forall₂_same.mpr fun _ _ => rfl)
  rintro name _ rfl
  have hfirst := h.first? name
  show Option.Rel _ ((Sighting.first? xs name).map _) ((Sighting.first? ys name).map _)
  generalize Sighting.first? xs name = f at hfirst ⊢
  generalize Sighting.first? ys name = g at hfirst ⊢
  cases hfirst with
  | none => exact .none
  | some hfg => exact .some (Variable.parameter_eq_of_eq hfg)

/-- Equal variables in turn, and where they are from. -/
theorem with_mem (h : EqualVariables xs ys) :
    List.Forall₂ (fun x y => x ∈ xs ∧ y ∈ ys ∧ x.eq y = true) xs ys := by
  obtain ⟨hlength, hall⟩ := List.forall₂_iff_zip.mp h
  refine List.forall₂_iff_zip.mpr ⟨hlength, fun {x y} hmem => ?_⟩
  obtain ⟨hx, hy⟩ := List.of_mem_zip hmem
  exact ⟨hx, hy, hall hmem⟩

/-- What is declared like one of two compatible variables and what is declared like the other are
compatible: a variable that is declared like anything is declared like its copies. -/
theorem compatible {f x g y : Variable} (hxs : Copies xs) (hf : f ∈ xs) (hx : x ∈ xs)
    (hfg : f.parameter.sameDefinition g.parameter = true)
    (hxy : x.parameter.sameDefinition y.parameter = true) (h : Compatible f x) :
    Compatible g y := by
  have hgf := Parameter.sameDefinition_symm hfg
  refine Or.inr ?_
  rcases h with hid | hfx
  · obtain rfl := hxs f hf x hx hid
    exact Parameter.sameDefinition_trans hgf hxy
  · exact Parameter.sameDefinition_trans (Parameter.sameDefinition_trans hgf hfx) hxy

/-- Equal variables have equal conflicts, or both have none. -/
theorem conflict? (h : EqualVariables xs ys) (hxs : Copies xs) (hys : Copies ys) {x y : Variable}
    (hx : x ∈ xs) (hy : y ∈ ys) (hxy : x.eq y = true) :
    Option.Rel (fun c d => c.eq d = true) (Sighting.conflict? xs x)
      (Sighting.conflict? ys y) := by
  obtain ⟨f, hf⟩ := exists_first?_of_mem hx
  obtain ⟨g, hg⟩ := exists_first?_of_mem hy
  have hname := Variable.name_of_eq hxy
  have hfirst := h.first? x.name
  rw [hf, hname, hg] at hfirst
  cases hfirst with
  | some hfg =>
    have hdefs := Variable.sameDefinition_of_eq hfg
    have hdefs' := Variable.sameDefinition_of_eq hxy
    by_cases hc : Compatible f x
    · have hc' : Compatible g y := compatible hxs (mem_of_first? hf) hx hdefs hdefs' hc
      rw [conflict?_eq_none hf hc, conflict?_eq_none hg hc']
      exact .none
    · have hc' : ¬Compatible g y := fun hc' => hc (compatible hys (mem_of_first? hg) hy
        (Parameter.sameDefinition_symm hdefs) (Parameter.sameDefinition_symm hdefs') hc')
      rw [conflict?_eq_some hf hc, conflict?_eq_some hg hc']
      refine .some ?_
      rw [Conflict.eq, Bool.and_eq_true, Bool.and_eq_true]
      exact ⟨⟨beq_iff_eq.mpr hname, Variable.parameter_eq_of_eq hfg⟩,
        Variable.parameter_eq_of_eq hxy⟩

/-- The conflicts among equal variables are equal in turn. -/
theorem conflicts (h : EqualVariables xs ys) (hxs : Copies xs) (hys : Copies ys) :
    List.Forall₂ (fun c d => c.eq d = true) (Sighting.conflicts xs) (Sighting.conflicts ys) := by
  refine List.rel_filterMap ?_ h.with_mem
  rintro x y ⟨hx, hy, hxy⟩
  exact h.conflict? hxs hys hx hy hxy

end EqualVariables

/-! ## Equal tokens -/

/-- Tokens that equal one another in turn. -/
def EqualTokens (as bs : List Token) : Prop := List.Forall₂ (fun a b => a.eq b = true) as bs

theorem Token.eqEach_iff {as bs : List Token} : Token.eqEach as bs = true ↔ EqualTokens as bs := by
  induction as generalizing bs with
  | nil => cases bs <;> simp [eqEach, EqualTokens]
  | cons a as ih =>
    cases bs with
    | nil => simp [eqEach, EqualTokens]
    | cons b bs => simp only [eqEach, Bool.and_eq_true, ih, EqualTokens, List.forall₂_cons]

namespace EqualTokens

variable {as bs : List Token}

theorem params (h : EqualTokens as bs) :
    EqualVariables (Token.params as) (Token.params bs) := by
  refine List.rel_filterMap ?_ h
  intro a b hab
  cases a <;> cases b
  case sql.sql => exact .none
  case param.param x y => exact .some hab
  all_goals cases hab

/-- Equal tokens have the same text. -/
theorem fragments (h : EqualTokens as bs) (style : PlaceholderStyle) (place : String → Nat) :
    as.map (fragment style place) = bs.map (fragment style place) := by
  induction h with
  | nil => rfl
  | @cons a b _ _ hab _ ih =>
    rw [List.map_cons, List.map_cons, ih]
    congr 1
    cases a <;> cases b
    case sql.sql s t => exact eq_of_beq hab
    case param.param x y => rw [fragment, fragment, Variable.name_of_eq hab]
    all_goals cases hab

end EqualTokens

/-! ## Equal queries -/

theorem zip_all_iff {α : Type} (r : α → α → Bool) {as bs : List α} :
    (as.length == bs.length && (as.zip bs).all fun p => r p.1 p.2) = true ↔
      List.Forall₂ (fun a b => r a b = true) as bs := by
  simp [List.forall₂_iff_zip]

/-- Queries are equal by text, parameters and conflicts. -/
theorem CompiledQuery.eq_iff {q r : CompiledQuery} :
    q.eq r = true ↔ q.text = r.text ∧
      List.Forall₂ (fun a b => a.eq b = true) q.parameters r.parameters ∧
      List.Forall₂ (fun a b => a.eq b = true) q.conflicts r.conflicts := by
  rw [eq, Bool.and_eq_true, Bool.and_eq_true, zip_all_iff Parameter.eq, zip_all_iff Conflict.eq,
    beq_iff_eq, and_assoc]

/-- **Equal tokens compile to equal queries**, if among each variables of one identity are
copies. -/
theorem EqualTokens.compile {as bs : List Token} (h : EqualTokens as bs)
    (has : Copies (Token.params as)) (hbs : Copies (Token.params bs)) (options : CompileOptions) :
    (ParamSql.compile as options).eq (ParamSql.compile bs options) = true := by
  rw [CompiledQuery.eq_iff, compile_text, compile_text, compile_parameters, compile_parameters,
    compile_conflicts, compile_conflicts, h.params.position, h.fragments]
  exact ⟨rfl, h.params.parameters, h.params.conflicts has hbs⟩

/-! ## Equal expressions -/

namespace Expr

theorem isComposite_of_eq {a b : Expr} (h : a.eq b = true) : a.isComposite = b.isComposite := by
  cases a <;> cases b <;> first | rfl | cases h

theorem equalTokens_wrap {a b : Expr} {ts us : List Token} (hab : a.isComposite = b.isComposite)
    (h : EqualTokens ts us) : EqualTokens (wrap a ts) (wrap b us) := by
  unfold wrap
  rw [hab]
  split
  · exact .cons rfl (List.rel_append h (.cons rfl .nil))
  · exact h

theorem equalTokens_commaSeparated {runs runs' : List (List Token)}
    (h : List.Forall₂ EqualTokens runs runs') :
    EqualTokens (commaSeparated runs) (commaSeparated runs') := by
  induction h with
  | nil => exact .nil
  | @cons ts us _ _ hts hrest ih =>
    cases hrest with
    | nil =>
      rw [commaSeparated_singleton, commaSeparated_singleton]
      exact hts
    | cons _ _ =>
      rw [commaSeparated_cons_cons, commaSeparated_cons_cons]
      exact List.rel_append hts (.cons rfl ih)

mutual

/-- **Equal expressions have equal tokens.** -/
theorem equalTokens_tokens : ∀ {a b : Expr}, a.eq b = true → EqualTokens a.tokens b.tokens
  | .column c, b, h => by
    cases b with
    | column d =>
      obtain rfl : c = d := eq_of_beq h
      exact .cons BEq.rfl .nil
    | _ => cases h
  | .param x, b, h => by
    cases b with
    | param y => exact .cons h .nil
    | _ => cases h
  | .binary lhs op rhs, b, h => by
    cases b with
    | binary lhs' op' rhs' =>
      rw [eq, Bool.and_eq_true, Bool.and_eq_true] at h
      obtain ⟨⟨hl, hop⟩, hr⟩ := h
      obtain rfl : op = op' := eq_of_beq hop
      have hl' := equalTokens_wrap (isComposite_of_eq hl) (equalTokens_tokens hl)
      have hr' := equalTokens_wrap (isComposite_of_eq hr) (equalTokens_tokens hr)
      exact List.rel_append hl' (.cons BEq.rfl hr')
    | _ => cases h
  | .between s l g, b, h => by
    cases b with
    | between s' l' g' =>
      rw [eq, Bool.and_eq_true, Bool.and_eq_true] at h
      obtain ⟨⟨hs, hl⟩, hg⟩ := h
      have hs' := equalTokens_wrap (isComposite_of_eq hs) (equalTokens_tokens hs)
      have hl' := equalTokens_wrap (isComposite_of_eq hl) (equalTokens_tokens hl)
      have hg' := equalTokens_wrap (isComposite_of_eq hg) (equalTokens_tokens hg)
      exact List.rel_append (List.rel_append hs' (.cons BEq.rfl hl')) (.cons BEq.rfl hg')
    | _ => cases h
  | .call f args, b, h => by
    cases b with
    | call g args' =>
      rw [eq, Bool.and_eq_true] at h
      obtain ⟨hf, hargs⟩ := h
      obtain rfl : f = g := eq_of_beq hf
      have hargs' := equalTokens_commaSeparated (equalTokens_tokensEach hargs)
      exact .cons BEq.rfl (.cons rfl (List.rel_append hargs' (.cons rfl .nil)))
    | _ => cases h
  | .raw s, b, h => by
    cases b with
    | raw t => exact .cons h .nil
    | _ => cases h
  | .list items, b, h => by
    cases b with
    | list items' => exact equalTokens_commaSeparated (equalTokens_tokensEach h)
    | _ => cases h

theorem equalTokens_tokensEach : ∀ {as bs : List Expr}, eqEach as bs = true →
    List.Forall₂ EqualTokens (tokensEach as) (tokensEach bs)
  | [], [], _ => .nil
  | [], _ :: _, h => by cases h
  | _ :: _, [], h => by cases h
  | a :: as, b :: bs, h => by
    rw [eqEach, Bool.and_eq_true] at h
    exact .cons (equalTokens_tokens h.1) (equalTokens_tokensEach h.2)

end

theorem equalTokens_operandTokens {a b : Expr} (h : a.eq b = true) :
    EqualTokens a.operandTokens b.operandTokens :=
  equalTokens_wrap (isComposite_of_eq h) (equalTokens_tokens h)

end Expr

/-- **What is equal compiles to equal queries**, whichever variables are copies of one another:
equal tokens in every style of placeholders, and so equal expressions, whose tokens are equal too,
alone and as parts of other expressions. Of identities only this matters, that in each of the two
the variables of one identity are copies. -/
theorem compile_eq_of_equal (options : CompileOptions) :
    (∀ as bs : List Token, Token.eqEach as bs = true →
      Copies (Token.params as) → Copies (Token.params bs) →
        (compile as options).eq (compile bs options) = true) ∧
    ∀ a b : Expr, a.eq b = true →
      Token.eqEach a.tokens b.tokens = true ∧
      Token.eqEach a.operandTokens b.operandTokens = true ∧
      (Copies a.params → Copies b.params →
        (compile a.tokens options).eq (compile b.tokens options) = true) := by
  refine ⟨fun as bs h has hbs => ?_, fun a b h => ?_⟩
  · exact (Token.eqEach_iff.mp h).compile has hbs options
  · have htokens := Expr.equalTokens_tokens h
    have hoperand := Expr.equalTokens_operandTokens h
    refine ⟨Token.eqEach_iff.mpr htokens, Token.eqEach_iff.mpr hoperand, fun ha hb => ?_⟩
    rw [← Expr.params_tokens] at ha hb
    exact htokens.compile ha hb options

/-- A price between itself and a limit of the same name, given the identities of the three. -/
def ownPrice (price : Decimal) (first second limit : VariableId) : Expr :=
  .between (.param ⟨first, "price", .value (.decimal price)⟩)
    (.param ⟨second, "price", .value (.decimal price)⟩) (.param ⟨limit, "price", .typed .int64⟩)

theorem copies_ownPrice (price : Decimal) {first second limit : VariableId} (h : first ≠ limit)
    (h' : second ≠ limit) : Copies (ownPrice price first second limit).params := by
  intro x hx y hy hid
  simp only [ownPrice, Expr.params, List.cons_append, List.nil_append, List.mem_cons,
    List.not_mem_nil, or_false] at hx hy
  rcases hx with rfl | rfl | rfl <;> rcases hy with rfl | rfl | rfl <;> simp_all

/-- A price of 1.0 used twice and two prices of 1.00 make equal queries, conflict included. -/
theorem compile_ownPrice :
    let a := ownPrice ⟨false, 10, 1⟩ ⟨1⟩ ⟨1⟩ ⟨2⟩
    let b := ownPrice ⟨false, 100, 2⟩ ⟨3⟩ ⟨2⟩ ⟨1⟩
    a.eq b = true ∧ Copies a.params ∧ Copies b.params ∧
      (compile b.tokens).conflicts.length = 1 ∧
      (compile a.tokens).eq (compile b.tokens) = true := by
  intro a b
  have heq : a.eq b = true := by decide
  have ha : Copies a.params := copies_ownPrice _ (by decide) (by decide)
  have hb : Copies b.params := copies_ownPrice _ (by decide) (by decide)
  exact ⟨heq, ha, hb, rfl, ((compile_eq_of_equal {}).2 a b heq).2.2 ha hb⟩

/-- NaN equals nothing, so beside it a copy and another variable are not the same. -/
example :
    let nan : Default := .value (.float64 ⟨0x7ff8000000000000⟩)
    (compile [.param ⟨⟨1⟩, "rate", nan⟩, .param ⟨⟨1⟩, "rate", nan⟩]).ensureConsistent = .ok () ∧
      (compile [.param ⟨⟨1⟩, "rate", nan⟩, .param ⟨⟨2⟩, "rate", nan⟩]).ensureConsistent =
        .error (.conflictingDefinitions "rate") :=
  ⟨rfl, rfl⟩

end ParamSql

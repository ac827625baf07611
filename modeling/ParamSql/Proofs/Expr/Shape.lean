import ParamSql.Expr.Render
import ParamSql.Proofs.Expr.Lexeme
import ParamSql.Proofs.Query.Numbering

/-!
# Shapes of expressions

What an expression is once its variables are numbered, and the lexemes that say so.

* `Expr.shape`, `Expr.numbered` — an expression with a number for each variable.
* `Expr.isNormal` — expressions without raw SQL and without lists that no text could show.
* `Expr.params_tokens` — the variables of an expression are those of its tokens.
* `Expr.map_fragment_tokens` — the text of a normal expression is that of its lexemes.
-/

set_option autoImplicit false

namespace ParamSql

open Sighting

/-- An expression with a number for each variable. -/
inductive Shape where
  | column (c : Column)
  | place (n : Nat)
  | binary (lhs : Shape) (op : Operator) (rhs : Shape)
  | between (subject low high : Shape)
  | call (f : Aggregate) (args : List Shape)
  | raw (sql : String)
  | list (items : List Shape)

namespace Expr

mutual

/-- The shape of an expression, given the number of each name. -/
def shape (place : String → Nat) : Expr → Shape
  | .column c => .column c
  | .param x => .place (place x.name)
  | .binary lhs op rhs => .binary (shape place lhs) op (shape place rhs)
  | .between subject low high =>
    .between (shape place subject) (shape place low) (shape place high)
  | .call f args => .call f (shapeEach place args)
  | .raw sql => .raw sql
  | .list items => .list (shapeEach place items)

/-- The shape of each of some expressions. -/
def shapeEach (place : String → Nat) : List Expr → List Shape
  | [] => []
  | e :: es => shape place e :: shapeEach place es

end

/-- The shape of an expression where the names are numbered by first occurrence. -/
def numbered (e : Expr) : Shape := e.shape (firstPosition (e.params.map (·.name)))

/-- Whether an expression is a list. -/
def isList : Expr → Bool
  | .list _ => true
  | _ => false

mutual

/-- Whether there is no raw SQL in an expression, each list in it has two items at least, and no
list is an item of a list or an argument of a function. -/
def isNormal : Expr → Bool
  | .column _ | .param _ => true
  | .binary lhs _ rhs => lhs.isNormal && rhs.isNormal
  | .between subject low high => subject.isNormal && low.isNormal && high.isNormal
  | .call _ args => areItems args
  | .raw _ => false
  | .list items => decide (2 ≤ items.length) && areItems items

/-- Whether expressions are normal and none of them is a list. -/
def areItems : List Expr → Bool
  | [] => true
  | e :: es => !e.isList && e.isNormal && areItems es

end

/-! ## Lexemes of an expression -/

/-- The lexemes of an expression as a part of another one. -/
def grouped (e : Expr) (lexemes : List Lexeme) : List Lexeme :=
  if e.isComposite then .opening :: lexemes ++ [.closing] else lexemes

/-- Runs of lexemes with commas between. -/
def listed : List (List Lexeme) → List Lexeme
  | [] => []
  | [run] => run
  | run :: next :: runs => run ++ .comma :: listed (next :: runs)

mutual

/-- The lexemes of an expression. Raw SQL has none, since its text can be anything. -/
def lexemes (place : String → Nat) : Expr → List Lexeme
  | .column c => [.column c]
  | .param x => [.place (place x.name)]
  | .binary lhs op rhs =>
    grouped lhs (lexemes place lhs) ++ .op op :: grouped rhs (lexemes place rhs)
  | .between subject low high =>
    grouped subject (lexemes place subject) ++ .between :: grouped low (lexemes place low)
      ++ .op .and :: grouped high (lexemes place high)
  | .call f args => .func f :: .opening :: listed (lexemesEach place args) ++ [.closing]
  | .raw _ => []
  | .list items => listed (lexemesEach place items)

/-- The lexemes of each of some expressions. -/
def lexemesEach (place : String → Nat) : List Expr → List (List Lexeme)
  | [] => []
  | e :: es => lexemes place e :: lexemesEach place es

end

/-! ## Variables of an expression -/

theorem params_wrap (e : Expr) (tokens : List Token) :
    Token.params (wrap e tokens) = Token.params tokens := by
  unfold wrap
  split
  · simp [Token.openParen, Token.closeParen]
  · rfl

mutual

/-- The variables of an expression are those of its tokens. -/
theorem params_tokens : ∀ e : Expr, Token.params e.tokens = e.params
  | .column _ => rfl
  | .param _ => rfl
  | .binary lhs op rhs => by
    simp only [tokens, params, Token.params_append, Token.params_sql, params_wrap,
      params_tokens lhs, params_tokens rhs]
  | .between subject low high => by
    simp only [tokens, params, Token.params_append, Token.params_sql, params_wrap,
      params_tokens subject, params_tokens low, params_tokens high]
  | .call f args => by
    simp only [tokens, params, Token.openParen, Token.closeParen, List.cons_append,
      Token.params_append, Token.params_sql, Token.params_nil, List.append_nil,
      params_commaSeparated args]
  | .raw _ => rfl
  | .list items => by
    simp only [tokens, params, params_commaSeparated items]

theorem params_commaSeparated :
    ∀ es : List Expr, Token.params (commaSeparated (tokensEach es)) = paramsEach es
  | [] => rfl
  | [e] => by
    simp only [tokensEach, paramsEach, commaSeparated_singleton, List.append_nil, params_tokens e]
  | e :: e' :: es => by
    have ih := params_commaSeparated (e' :: es)
    rw [tokensEach] at ih
    rw [tokensEach, tokensEach, commaSeparated_cons_cons, paramsEach, Token.params_append,
      Token.comma, Token.params_sql, params_tokens e, ih]

end

/-! ## The text of an expression -/

section

variable (style : PlaceholderStyle) (place : String → Nat)

theorem map_fragment_wrap {e : Expr} {tokens : List Token} {lexemes : List Lexeme}
    (h : tokens.map (fragment style place) = lexemes.map (Lexeme.text style)) :
    (wrap e tokens).map (fragment style place) = (grouped e lexemes).map (Lexeme.text style) := by
  unfold wrap grouped
  split
  · simp [h, Token.openParen, Token.closeParen, fragment, Lexeme.text]
  · exact h

mutual

/-- **The fragments of a normal expression are its lexemes.** -/
theorem map_fragment_tokens : ∀ e : Expr, e.isNormal = true →
    e.tokens.map (fragment style place) = (e.lexemes place).map (Lexeme.text style)
  | .column _, _ => rfl
  | .param _, _ => rfl
  | .binary lhs op rhs, h => by
    rw [isNormal, Bool.and_eq_true] at h
    have hl := map_fragment_wrap style place (e := lhs) (map_fragment_tokens lhs h.1)
    have hr := map_fragment_wrap style place (e := rhs) (map_fragment_tokens rhs h.2)
    rw [tokens, lexemes, List.map_append, List.map_append, List.map_cons, List.map_cons, hl, hr]
    rfl
  | .between subject low high, h => by
    rw [isNormal, Bool.and_eq_true, Bool.and_eq_true] at h
    have hs := map_fragment_wrap style place (e := subject) (map_fragment_tokens subject h.1.1)
    have hl := map_fragment_wrap style place (e := low) (map_fragment_tokens low h.1.2)
    have hh := map_fragment_wrap style place (e := high) (map_fragment_tokens high h.2)
    simp only [tokens, lexemes, List.map_append, List.map_cons, hs, hl, hh]
    rfl
  | .call f args, h => by
    rw [isNormal] at h
    have hargs := map_fragment_commaSeparated args h
    simp only [tokens, lexemes, List.map_append, List.map_cons, List.cons_append, List.map_nil,
      hargs]
    rfl
  | .raw _, h => by cases h
  | .list items, h => by
    rw [isNormal, Bool.and_eq_true] at h
    rw [tokens, lexemes, map_fragment_commaSeparated items h.2]

theorem map_fragment_commaSeparated : ∀ es : List Expr, areItems es = true →
    (commaSeparated (tokensEach es)).map (fragment style place) =
      (listed (lexemesEach place es)).map (Lexeme.text style)
  | [], _ => rfl
  | [e], h => by
    rw [areItems, Bool.and_eq_true, Bool.and_eq_true] at h
    rw [tokensEach, tokensEach, commaSeparated_singleton, lexemesEach, lexemesEach, listed,
      map_fragment_tokens e h.1.2]
  | e :: e' :: es, h => by
    rw [areItems, Bool.and_eq_true, Bool.and_eq_true] at h
    have ih := map_fragment_commaSeparated (e' :: es) h.2
    rw [tokensEach, lexemesEach] at ih
    rw [tokensEach, tokensEach, commaSeparated_cons_cons, lexemesEach, lexemesEach, listed,
      List.map_append, List.map_cons, List.map_append, List.map_cons,
      map_fragment_tokens e h.1.2, ih]
    rfl

end

end

/-- The text of a normal expression is that of its lexemes. -/
theorem compile_text_of_isNormal {e : Expr} (h : e.isNormal = true) (options : CompileOptions) :
    (compile e.tokens options).text.toList =
      spaced ((e.lexemes (firstPosition (e.params.map (·.name)))).map
        (Lexeme.text options.placeholder)) := by
  have hfragments := map_fragment_tokens options.placeholder (position e.params) e h
  have hsolid : ∀ f ∈ (e.lexemes (position e.params)).map (Lexeme.text options.placeholder),
      Solid f.toList := by
    intro f hf
    obtain ⟨l, -, rfl⟩ := List.mem_map.mp hf
    exact l.text_solid
  rw [compile_text, params_tokens, hfragments, joinFragments, String.toList_ofList,
    joinChars_eq_spaced hsolid]
  rfl

end Expr

end ParamSql

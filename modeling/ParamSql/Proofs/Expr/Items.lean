import ParamSql.Expr.Tokens
import ParamSql.Proofs.Text.Delimiting

/-!
# The items that tokens show

How many items a list has once it is nothing but tokens: what counts then is the commas outside of
parentheses, and not the expressions that the tokens came from.

* `Token.readItems` — the items of a list at the start of tokens, up to the parenthesis that closes
  it or to the clause behind it.
* `Enclosed`, `Whole` — tokens that are read without a break, inside parentheses and anywhere.
* `Expr.pieces` — the items that an expression shows: one, unless it is a list.
* `Expr.readItems_tokens` — expressions without raw SQL, listed with commas between, are read as
  their pieces.
* `Expr.forall_isItem_iff` — each of them is one item that is not empty just if there are as many pieces.
-/

set_option autoImplicit false

namespace ParamSql

namespace Token

/-! ## Reading items -/

/-- Whether a token is a given piece of SQL. -/
def isSql (text : String) : Token → Bool
  | .sql t => t == text
  | .param _ => false

/-- The words that start a clause behind a list of selected values. -/
def clauseWords : List String := ["FROM", "WHERE", "GROUP BY", "ORDER BY", "LIMIT", "OFFSET"]

/-- Whether a token, outside of the parentheses of a list, is not of the list any more. -/
def endsList (t : Token) : Bool := t.isSql ")" || clauseWords.any t.isSql

/-- How many parentheses are open behind a token. -/
def depthAfter (depth : Nat) (t : Token) : Nat :=
  if t.isSql "(" then depth + 1 else if t.isSql ")" then depth - 1 else depth

/-- The items of a list, and the tokens from its end on, given how many parentheses are open and
what has been read of the item at hand. -/
def readItems (depth : Nat) (item : List Token) :
    List Token → List (List Token) × List Token
  | [] => ([item], [])
  | t :: ts =>
    if depth = 0 ∧ t.endsList = true then ([item], t :: ts)
    else if depth = 0 ∧ t.isSql "," = true then
      (item :: (readItems 0 [] ts).1, (readItems 0 [] ts).2)
    else readItems (t.depthAfter depth) (item ++ [t]) ts

/-- Tokens that are read without a break inside parentheses. -/
def Enclosed (ts : List Token) : Prop :=
  ∀ depth item rest,
    readItems (depth + 1) item (ts ++ rest) = readItems (depth + 1) (item ++ ts) rest

/-- Tokens that are read without a break, wherever they stand. -/
structure Whole (ts : List Token) : Prop where
  enclosed : Enclosed ts
  top : ∀ item rest, readItems 0 item (ts ++ rest) = readItems 0 (item ++ ts) rest

/-- A token that neither opens, closes nor divides anything. -/
def IsPlain (t : Token) : Prop :=
  t.isSql "(" = false ∧ t.isSql "," = false ∧ t.endsList = false

theorem isSql_closing_of_not_endsList {t : Token} (h : t.endsList = false) :
    t.isSql ")" = false := (Bool.or_eq_false_iff.mp h).1

theorem enclosed_nil : Enclosed [] := fun _ _ _ => by simp

theorem enclosed_append {as bs : List Token} (ha : Enclosed as) (hb : Enclosed bs) :
    Enclosed (as ++ bs) := fun depth item rest => by
  rw [List.append_assoc, ha, hb, List.append_assoc]

theorem enclosed_singleton {t : Token} (hopen : t.isSql "(" = false) (hclose : t.isSql ")" = false) :
    Enclosed [t] := fun depth item rest => by
  simp [readItems, depthAfter, hopen, hclose]

theorem whole_nil : Whole [] := ⟨enclosed_nil, fun _ _ => by simp⟩

theorem whole_append {as bs : List Token} (ha : Whole as) (hb : Whole bs) : Whole (as ++ bs) :=
  ⟨enclosed_append ha.enclosed hb.enclosed, fun item rest => by
    rw [List.append_assoc, ha.top, hb.top, List.append_assoc]⟩

theorem whole_singleton {t : Token} (h : t.IsPlain) : Whole [t] := by
  obtain ⟨hopen, hcomma, hend⟩ := h
  have hclose := isSql_closing_of_not_endsList hend
  exact ⟨enclosed_singleton hopen hclose, fun item rest => by
    simp [readItems, depthAfter, hopen, hclose, hcomma, hend]⟩

/-- What is read without a break inside parentheses is, in parentheses, read so anywhere. -/
theorem whole_group {ts : List Token} (h : Enclosed ts) :
    Whole (openParen :: ts ++ [closeParen]) := by
  have hread : ∀ depth item rest, readItems depth item (openParen :: ts ++ [closeParen] ++ rest) =
      readItems depth (item ++ (openParen :: ts ++ [closeParen])) rest := by
    intro depth item rest
    have hopen : readItems depth item (openParen :: (ts ++ closeParen :: rest)) =
        readItems (depth + 1) (item ++ [openParen]) (ts ++ closeParen :: rest) := by
      have hend : openParen.endsList = false := by decide
      have hcomma : openParen.isSql "," = false := by decide
      simp [readItems, hend, hcomma, depthAfter, show openParen.isSql "(" = true from rfl]
    have hclose : ∀ item', readItems (depth + 1) item' (closeParen :: rest) =
        readItems depth (item' ++ [closeParen]) rest := by
      intro item'
      have hnot : closeParen.isSql "(" = false := by decide
      simp [readItems, hnot, depthAfter, show closeParen.isSql ")" = true from rfl]
    rw [List.cons_append, List.cons_append, List.append_assoc, List.singleton_append, hopen, h,
      hclose]
    simp
  exact ⟨fun depth => hread (depth + 1), hread 0⟩

theorem enclosed_commaSeparated :
    ∀ runs : List (List Token), (∀ run ∈ runs, Enclosed run) → Enclosed (commaSeparated runs)
  | [], _ => enclosed_nil
  | [run], h => by
    rw [commaSeparated_singleton]
    exact h run (by simp)
  | run :: next :: runs, h => by
    rw [commaSeparated_cons_cons]
    have hrest := enclosed_commaSeparated (next :: runs) fun r hr => h r (List.mem_cons_of_mem _ hr)
    have hcomma : Enclosed [comma] := enclosed_singleton (by decide) (by decide)
    exact enclosed_append (h run (by simp)) (enclosed_append hcomma hrest)

/-- Where a list ends: at the end of all tokens or at one that is not of the list. -/
def EndsHere : List Token → Prop
  | [] => True
  | t :: _ => t.endsList = true

theorem readItems_endsHere (item : List Token) {rest : List Token} (h : EndsHere rest) :
    readItems 0 item rest = ([item], rest) := by
  cases rest with
  | nil => rfl
  | cons t ts =>
    have hend : t.endsList = true := h
    simp [readItems, hend]

/-- **Runs with commas between are read as just these items**, if each of them is whole. -/
theorem readItems_commaSeparated {rest : List Token} (hrest : EndsHere rest) :
    ∀ runs : List (List Token), runs ≠ [] → (∀ run ∈ runs, Whole run) →
      readItems 0 [] (commaSeparated runs ++ rest) = (runs, rest)
  | [], hne, _ => absurd rfl hne
  | [run], _, h => by
    rw [commaSeparated_singleton, (h run (by simp)).top, readItems_endsHere _ hrest]
    rfl
  | run :: next :: runs, _, h => by
    have ih := readItems_commaSeparated hrest (next :: runs) (by simp)
      fun r hr => h r (List.mem_cons_of_mem _ hr)
    have hcomma : comma.endsList = false := by decide
    rw [commaSeparated_cons_cons, List.append_assoc, (h run (by simp)).top, List.cons_append,
      readItems]
    simp [hcomma, ih, show comma.isSql "," = true from rfl]

theorem commaSeparated_append {as bs : List (List Token)} (ha : as ≠ []) (hb : bs ≠ []) :
    commaSeparated (as ++ bs) = commaSeparated as ++ comma :: commaSeparated bs := by
  induction as with
  | nil => exact absurd rfl ha
  | cons a as ih =>
    obtain ⟨b, bs, rfl⟩ := List.exists_cons_of_ne_nil hb
    cases as with
    | nil => simp
    | cons a' as =>
      rw [List.cons_append, List.cons_append, commaSeparated_cons_cons,
        commaSeparated_cons_cons, ← List.cons_append, ih (by simp)]
      simp

end Token

namespace Expr

open Token

/-! ## The tokens of expressions -/

mutual

/-- Whether there is no raw SQL in an expression. -/
def isRawFree : Expr → Bool
  | .column _ | .param _ => true
  | .binary lhs _ rhs => lhs.isRawFree && rhs.isRawFree
  | .between subject low high => subject.isRawFree && low.isRawFree && high.isRawFree
  | .call _ args => areRawFree args
  | .raw _ => false
  | .list items => areRawFree items

/-- Whether there is no raw SQL in expressions. -/
def areRawFree : List Expr → Bool
  | [] => true
  | e :: es => e.isRawFree && areRawFree es

end

theorem areRawFree_iff {es : List Expr} :
    areRawFree es = true ↔ ∀ e ∈ es, e.isRawFree = true := by
  induction es with
  | nil => simp [areRawFree]
  | cons e es ih => simp [areRawFree, ih]

theorem head?_sql (c : Column) : c.sql.toList.head? = some '"' := by
  rw [Column.toList_sql]
  split <;> simp [Text.toList_delimited]

/-- The text of a column is none of the words, which do not start with a quote. -/
theorem isSql_column {text : String} (h : text.toList.head? ≠ some '"') (c : Column) :
    (Token.sql c.sql).isSql text = false := by
  rw [isSql, beq_eq_false_iff_ne]
  rintro rfl
  exact h (head?_sql c)

theorem isPlain_column (c : Column) : (Token.sql c.sql).IsPlain := by
  refine ⟨isSql_column (by decide) c, isSql_column (by decide) c, ?_⟩
  have hwords : ∀ w ∈ clauseWords, w.toList.head? ≠ some '"' := by decide
  rw [endsList, isSql_column (by decide) c, Bool.false_or, List.any_eq_false]
  intro w hw
  rw [isSql_column (hwords w hw) c]
  decide

theorem isPlain_param (x : Variable) : (Token.param x).IsPlain := ⟨rfl, rfl, rfl⟩

theorem isPlain_operator (op : Operator) : (Token.sql op.sql).IsPlain := by
  cases op <;> exact ⟨by decide, by decide, by decide⟩

theorem isPlain_aggregate (f : Aggregate) : (Token.sql f.sql).IsPlain := by
  cases f <;> exact ⟨by decide, by decide, by decide⟩

theorem whole_cons {t : Token} {ts : List Token} (h : t.IsPlain) (hts : Whole ts) :
    Whole (t :: ts) := whole_append (whole_singleton h) hts

/-- An expression as a part of another one is read without a break: in parentheses if it is
composite, and as a single token if not. -/
theorem whole_wrap {e : Expr} (hfree : e.isRawFree = true) (h : Enclosed e.tokens) :
    Whole (e.wrap e.tokens) := by
  unfold wrap
  split
  · exact whole_group h
  · cases e with
    | column c => exact whole_singleton (isPlain_column c)
    | param x => exact whole_singleton (isPlain_param x)
    | raw sql => cases hfree
    | binary | between | call | list => rename_i hcomposite; exact absurd rfl hcomposite

theorem whole_binary {lhs rhs : Expr} (hl : Whole (lhs.wrap lhs.tokens)) (op : Operator)
    (hr : Whole (rhs.wrap rhs.tokens)) : Whole (binary lhs op rhs).tokens :=
  whole_append hl (whole_cons (isPlain_operator op) hr)

theorem whole_between {subject low high : Expr} (hs : Whole (subject.wrap subject.tokens))
    (hl : Whole (low.wrap low.tokens)) (hh : Whole (high.wrap high.tokens)) :
    Whole (between subject low high).tokens := by
  have hbetween : (Token.sql "BETWEEN").IsPlain := ⟨by decide, by decide, by decide⟩
  have hand : (Token.sql "AND").IsPlain := ⟨by decide, by decide, by decide⟩
  exact whole_append (whole_append hs (whole_cons hbetween hl)) (whole_cons hand hh)

theorem whole_call (f : Aggregate) {args : List Expr} (h : ∀ run ∈ args.map tokens, Enclosed run) :
    Whole (call f args).tokens := by
  rw [tokens, tokensEach_eq_map]
  exact whole_cons (isPlain_aggregate f) (whole_group (enclosed_commaSeparated _ h))

mutual

/-- **The tokens of an expression are read without a break inside parentheses.** -/
theorem enclosed_tokens : ∀ e : Expr, e.isRawFree = true → Enclosed e.tokens
  | .column c, _ => (whole_singleton (isPlain_column c)).enclosed
  | .param x, _ => (whole_singleton (isPlain_param x)).enclosed
  | .binary lhs op rhs, h => by
    rw [isRawFree, Bool.and_eq_true] at h
    exact (whole_binary (whole_wrap h.1 (enclosed_tokens lhs h.1)) op
      (whole_wrap h.2 (enclosed_tokens rhs h.2))).enclosed
  | .between subject low high, h => by
    rw [isRawFree, Bool.and_eq_true, Bool.and_eq_true] at h
    exact (whole_between (whole_wrap h.1.1 (enclosed_tokens subject h.1.1))
      (whole_wrap h.1.2 (enclosed_tokens low h.1.2))
      (whole_wrap h.2 (enclosed_tokens high h.2))).enclosed
  | .call f args, h => (whole_call f (enclosed_map_tokens args (by rwa [isRawFree] at h))).enclosed
  | .raw _, h => by cases h
  | .list items, h => by
    rw [tokens, tokensEach_eq_map]
    exact enclosed_commaSeparated _ (enclosed_map_tokens items (by rwa [isRawFree] at h))

theorem enclosed_map_tokens : ∀ es : List Expr, areRawFree es = true →
    ∀ run ∈ es.map tokens, Enclosed run
  | [], _ => by simp
  | e :: es, h => by
    rw [areRawFree, Bool.and_eq_true] at h
    rw [List.map_cons, List.forall_mem_cons]
    exact ⟨enclosed_tokens e h.1, enclosed_map_tokens es h.2⟩

end

/-- **The tokens of an expression that is no list are read without a break anywhere.** -/
theorem whole_tokens {e : Expr} (h : e.isRawFree = true) (hlist : ∀ items, e ≠ .list items) :
    Whole e.tokens := by
  have hpart : ∀ e' : Expr, e'.isRawFree = true → Whole (e'.wrap e'.tokens) := fun e' h' =>
    whole_wrap h' (enclosed_tokens e' h')
  cases e with
  | column c => exact whole_singleton (isPlain_column c)
  | param x => exact whole_singleton (isPlain_param x)
  | binary lhs op rhs =>
    rw [isRawFree, Bool.and_eq_true] at h
    exact whole_binary (hpart lhs h.1) op (hpart rhs h.2)
  | between subject low high =>
    rw [isRawFree, Bool.and_eq_true, Bool.and_eq_true] at h
    exact whole_between (hpart subject h.1.1) (hpart low h.1.2) (hpart high h.2)
  | call f args => exact whole_call f (enclosed_map_tokens args (by rwa [isRawFree] at h))
  | raw sql => cases h
  | list items => exact absurd rfl (hlist items)

/-! ## Pieces -/

mutual

/-- The items that the tokens of an expression show: those of its items if it is a list, of which an
empty one shows a single empty item, and the expression itself if not. -/
def pieces : Expr → List (List Token)
  | .list items => if items.isEmpty then [[]] else piecesEach items
  | e => [e.tokens]

/-- The items that the tokens of some expressions show. -/
def piecesEach : List Expr → List (List Token)
  | [] => []
  | e :: es => pieces e ++ piecesEach es

end

mutual

/-- Whether an expression shows one item and that is not empty: it is no list, or a list of one
expression that does. -/
def isItem : Expr → Bool
  | .list items => isOneItem items
  | _ => true

/-- Whether expressions are one that shows one item. -/
def isOneItem : List Expr → Bool
  | [] => false
  | e :: es => isItem e && es.isEmpty

end

theorem pieces_of_not_list {e : Expr} (h : ∀ items, e ≠ .list items) : e.pieces = [e.tokens] := by
  cases e with
  | list items => exact absurd rfl (h items)
  | column | param | binary | between | call | raw => rfl

mutual

/-- The tokens of an expression are its pieces with commas between. -/
theorem tokens_eq_pieces : ∀ e : Expr, e.pieces ≠ [] ∧ e.tokens = commaSeparated e.pieces
  | .list [] => by simp [pieces, tokens]
  | .list (e :: es) => by
    rw [pieces, tokens, tokensEach_eq_map]
    exact commaSeparated_map_tokens (e :: es) (by simp)
  | .column _ | .param _ | .binary .. | .between .. | .call .. | .raw _ => by simp [pieces]

theorem commaSeparated_map_tokens : ∀ es : List Expr, es ≠ [] →
    piecesEach es ≠ [] ∧ commaSeparated (es.map tokens) = commaSeparated (piecesEach es)
  | [], hne => absurd rfl hne
  | [e], _ => by
    obtain ⟨hne, htokens⟩ := tokens_eq_pieces e
    simp [piecesEach, hne, htokens]
  | e :: e' :: es, _ => by
    obtain ⟨hne, htokens⟩ := tokens_eq_pieces e
    obtain ⟨hrest, hcomma⟩ := commaSeparated_map_tokens (e' :: es) (by simp)
    rw [piecesEach]
    refine ⟨by simp [hne], ?_⟩
    rw [commaSeparated_append hne hrest, ← hcomma, ← htokens]
    simp

end

mutual

theorem whole_pieces : ∀ e : Expr, e.isRawFree = true → ∀ piece ∈ e.pieces, Whole piece
  | .list [], _ => by simp [pieces, whole_nil]
  | .list (e :: es), h => by
    rw [isRawFree] at h
    exact whole_piecesEach (e :: es) h
  | .column c, h | .param x, h | .binary lhs op rhs, h | .between s l u, h | .call f args, h
  | .raw text, h => by
    rw [pieces_of_not_list (by simp), List.forall_mem_singleton]
    exact whole_tokens h (by simp)

theorem whole_piecesEach : ∀ es : List Expr, areRawFree es = true →
    ∀ piece ∈ piecesEach es, Whole piece
  | [], _ => by simp [piecesEach]
  | e :: es, h => by
    rw [areRawFree, Bool.and_eq_true] at h
    rw [piecesEach, List.forall_mem_append]
    exact ⟨whole_pieces e h.1, whole_piecesEach es h.2⟩

end

/-- **Expressions without raw SQL, with commas between, are read as their pieces.** -/
theorem readItems_tokens {es : List Expr} (hne : es ≠ []) (hfree : areRawFree es = true)
    {rest : List Token} (hrest : EndsHere rest) :
    readItems 0 [] (commaSeparated (es.map tokens) ++ rest) = (piecesEach es, rest) := by
  obtain ⟨hpieces, htokens⟩ := commaSeparated_map_tokens es hne
  rw [htokens]
  exact readItems_commaSeparated hrest _ hpieces (whole_piecesEach es hfree)

/-! ## One item for each expression -/

theorem length_pieces_pos (e : Expr) : 0 < e.pieces.length :=
  List.length_pos_iff.mpr (tokens_eq_pieces e).1

theorem length_le_piecesEach (es : List Expr) : es.length ≤ (piecesEach es).length := by
  induction es with
  | nil => simp
  | cons e es ih =>
    have := length_pieces_pos e
    rw [piecesEach, List.length_append, List.length_cons]
    omega

/-- Pieces that are one each, and not empty. -/
def Single (pieces : List (List Token)) : Prop := pieces.length = 1 ∧ ∀ piece ∈ pieces, piece ≠ []

mutual

/-- An item shows a single piece, and nothing else does. -/
theorem isItem_iff : ∀ e : Expr, e.isItem = true ↔ Single e.pieces
  | .list [] => by simp [isItem, isOneItem, pieces, Single]
  | .list (e :: es) => by
    rw [isItem, pieces]
    exact isOneItem_iff (e :: es)
  | .column _ | .param _ | .binary .. | .between .. | .call .. | .raw _ => by
    simp [isItem, pieces, Single, tokens]

theorem isOneItem_iff : ∀ es : List Expr, isOneItem es = true ↔ Single (piecesEach es)
  | [] => by simp [isOneItem, piecesEach, Single]
  | e :: es => by
    have hpos := length_pieces_pos e
    have hle := length_le_piecesEach es
    rw [isOneItem, Bool.and_eq_true, isItem_iff e, List.isEmpty_iff, piecesEach]
    constructor
    · rintro ⟨hsingle, rfl⟩
      simpa [piecesEach] using hsingle
    · rintro ⟨hlength, hpieces⟩
      rw [List.length_append] at hlength
      have hes : es = [] := List.length_eq_zero_iff.mp (by omega)
      exact ⟨⟨by omega, fun piece h => hpieces piece (List.mem_append_left _ h)⟩, hes⟩

end

/-- **There is a piece for each expression, and none of them is empty, just if each expression is
one item.** -/
theorem forall_isItem_iff (es : List Expr) :
    ((piecesEach es).length = es.length ∧ ∀ piece ∈ piecesEach es, piece ≠ []) ↔
      ∀ e ∈ es, e.isItem = true := by
  induction es with
  | nil => simp [piecesEach]
  | cons e es ih =>
    have hpos := length_pieces_pos e
    have hle := length_le_piecesEach es
    rw [List.forall_mem_cons, ← ih, isItem_iff, piecesEach, List.forall_mem_append,
      List.length_append, List.length_cons, Single]
    constructor
    · rintro ⟨hlength, hfirst, hrest⟩
      exact ⟨⟨by omega, hfirst⟩, by omega, hrest⟩
    · rintro ⟨⟨hone, hfirst⟩, hlength, hrest⟩
      exact ⟨by omega, hfirst, hrest⟩

end Expr

end ParamSql

import Mathlib.Data.List.DropRight
import ParamSql.Query.Compile

/-!
# Queries that grow

More tokens behind those of a query leave what they were compiled to as it is.

* `joinChars_append` — joining takes back no more than blanks, so the text of fragments stays
  whatever fragments are joined to it.
* `ParameterTable.Extends` — a table that keeps all that another holds; `extends_register` is the
  step and `extends_emit` the walk over tokens.
* `compile_append` — so text, parameters and conflicts of a query are prefixes of those of a query
  that goes on.
-/

set_option autoImplicit false

namespace ParamSql

open Text

/-! ## Joining goes on -/

/-- What ends in no blank, read from the back, is not touched when blanks are dropped there. -/
theorem suffix_dropWhile {held acc : List Char} (hheld : held.dropWhile isBlank = held)
    (h : held <:+ acc) : held <:+ acc.dropWhile isBlank := by
  obtain ⟨front, rfl⟩ := h
  rw [List.dropWhile_append]
  split
  · rewrite [hheld]
    exact List.suffix_rfl
  · exact List.suffix_append _ _

/-- One more fragment leaves what ends in no blank. -/
theorem suffix_addFragment {held acc : List Char} (hheld : held.dropWhile isBlank = held)
    (h : held <:+ acc) (f : String) : held <:+ addFragment acc f := by
  have hbefore :
      held <:+ (if f = ")" || f = "," then acc.dropWhile isBlank else acc) := by
    split
    · exact suffix_dropWhile hheld h
    · exact h
  have hafter := hbefore.trans (List.suffix_append f.toList.reverse _)
  unfold addFragment
  dsimp only
  split
  · exact hafter
  · exact hafter.trans (List.suffix_cons _ _)

/-- More fragments leave what ends in no blank. -/
theorem suffix_foldl_addFragment {held : List Char} (hheld : held.dropWhile isBlank = held) :
    ∀ (fs : List String) (acc : List Char), held <:+ acc → held <:+ fs.foldl addFragment acc
  | [], _, h => h
  | f :: fs, _, h => suffix_foldl_addFragment hheld fs _ (suffix_addFragment hheld h f)

/-- **The text of fragments stays when more of them are joined to it.** -/
theorem joinChars_append (fs gs : List String) : joinChars fs <+: joinChars (fs ++ gs) := by
  have hheld : ((fs.foldl addFragment []).dropWhile isBlank).dropWhile isBlank =
      (fs.foldl addFragment []).dropWhile isBlank := List.dropWhile_idempotent isBlank _
  have hsuffix := suffix_foldl_addFragment hheld gs _ (List.dropWhile_suffix isBlank)
  rw [joinChars, joinChars, List.foldl_append, List.reverse_prefix]
  exact suffix_dropWhile hheld hsuffix

/-! ## Tables that keep what they hold -/

namespace ParameterTable

/-- A table holds all that another holds, and holds it in the same places. -/
structure Extends (t t' : ParameterTable) : Prop where
  parameters : t.parameters <+: t'.parameters
  slots : ∀ name s, t.slot? name = some s → t'.slot? name = some s
  conflicts : t.conflicts <+: t'.conflicts

theorem Extends.refl (t : ParameterTable) : t.Extends t :=
  ⟨List.prefix_rfl, fun _ _ h => h, List.prefix_rfl⟩

theorem Extends.trans {t t' t'' : ParameterTable} (h : t.Extends t') (h' : t'.Extends t'') :
    t.Extends t'' :=
  ⟨h.parameters.trans h'.parameters, fun name s hs => h'.slots name s (h.slots name s hs),
    h.conflicts.trans h'.conflicts⟩

/-- Registering a variable takes nothing away and moves nothing. -/
theorem extends_register (t : ParameterTable) (x : Variable) : t.Extends (t.register x).2 := by
  cases hslot : t.slot? x.name with
  | some _ =>
    rw [register_known hslot]
    exact ⟨List.prefix_rfl, fun _ _ h => h, List.prefix_append _ _⟩
  | none =>
    refine ⟨?_, ?_, ?_⟩
    · rw [register_new hslot]
      exact List.prefix_append _ _
    · intro name s hs
      have hne : name ≠ x.name := by
        rintro rfl
        rw [hslot] at hs
        cases hs
      rw [slot?_register_new hslot, if_neg hne]
      exact hs
    · rewrite [register_new hslot]
      exact List.prefix_rfl

/-- Neither does walking over tokens. -/
theorem extends_emit (style : PlaceholderStyle) :
    ∀ (tokens : List Token) (t : ParameterTable), t.Extends (emit style t tokens).2
  | [], t => Extends.refl t
  | .sql _ :: tokens, t => extends_emit style tokens t
  | .param x :: tokens, t => (extends_register t x).trans (extends_emit style tokens _)

end ParameterTable

/-! ## Compiling goes on -/

/-- Tokens behind others are walked over from the table that those leave. -/
theorem emit_append (style : PlaceholderStyle) (more : List Token) :
    ∀ (tokens : List Token) (t : ParameterTable),
      emit style t (tokens ++ more) =
        ((emit style t tokens).1 ++ (emit style (emit style t tokens).2 more).1,
          (emit style (emit style t tokens).2 more).2)
  | [], _ => rfl
  | .sql _ :: tokens, t => by
    rw [List.cons_append, emit, emit_append style more tokens t]
    rfl
  | .param x :: tokens, t => by
    simp only [List.cons_append, emit, emit_append style more tokens (t.register x).2]

/-- **What tokens are compiled to stays when more tokens follow.** The text, the parameters and the
conflicts are prefixes of those of the longer query. So are the fragments, so no placeholder gets
another number; and in the table every name keeps its slot. -/
theorem compile_append (tokens more : List Token) (options : CompileOptions) :
    let style := options.placeholder
    let q := compile tokens options
    let r := compile (tokens ++ more) options
    (q.text.toList <+: r.text.toList ∧ q.parameters <+: r.parameters ∧
      q.conflicts <+: r.conflicts) ∧
    (emit style {} tokens).1 <+: (emit style {} (tokens ++ more)).1 ∧
    (emit style {} tokens).2.Extends (emit style {} (tokens ++ more)).2 := by
  intro style q r
  have hemit := emit_append style more tokens {}
  have hfragments : (emit style {} tokens).1 <+: (emit style {} (tokens ++ more)).1 := by
    rw [hemit]
    exact List.prefix_append _ _
  have htable : (emit style {} tokens).2.Extends (emit style {} (tokens ++ more)).2 := by
    rw [hemit]
    exact ParameterTable.extends_emit style more _
  have htext : q.text.toList <+: r.text.toList := by
    show (joinFragments _).toList <+: (joinFragments _).toList
    obtain ⟨rest, hrest⟩ := hfragments
    rw [joinFragments, joinFragments, String.toList_ofList, String.toList_ofList, ← hrest]
    exact joinChars_append _ rest
  exact ⟨⟨htext, htable.parameters, htable.conflicts⟩, hfragments, htable⟩

end ParamSql

import ParamSql.Proofs.Query.Sighting
import ParamSql.Query.Bind

/-!
# What a call makes of its arguments

Arguments are given one after the other, and filling the parameters takes keywords out of the list
while it walks over the table. Both are said here without the walk.

* `keywords` — the keywords that a run of givings leaves: each name once, with its last value.
* `resolved` — what each parameter gets: the first one of a name takes the keyword of that name, the
  others keep to their defaults.
* `fill_spec` — filling parameters, for any parameters and any keywords with distinct names.
* `call_of_givings` — the outcome of every call.
-/

set_option autoImplicit false

namespace ParamSql

/-! ## Giving arguments -/

/-- One argument as it is given. -/
inductive Giving where
  | value (v : Value)
  | keyword (name : String) (v : Value)

namespace Giving

/-- The value given by position. -/
def value? : Giving → Option Value
  | .value v => some v
  | .keyword _ _ => none

/-- The name and the value given by name. -/
def pair? : Giving → Option (String × Value)
  | .value _ => none
  | .keyword name v => some (name, v)

end Giving

namespace Args

/-- The arguments with one more. -/
def give (a : Args) : Giving → Args
  | .value v => a.arg v
  | .keyword name v => a.keyword name v

/-- The arguments given one after the other. -/
def giveAll (givings : List Giving) : Args := givings.foldl give {}

end Args

/-- The names that have a value, each with it. -/
def withValues (f : String → Option Value) (names : List String) : List (String × Value) :=
  names.filterMap fun name => (f name).map (name, ·)

/-- Each name of the pairs once, in order of first occurrence, with the last value of the name. -/
def keywords (pairs : List (String × Value)) : List (String × Value) :=
  withValues (pairs.reverse.lookup ·) (pairs.map (·.1)).eraseDups

theorem withValues_cons {f : String → Option Value} {name : String} {v : Value}
    (h : f name = some v) (names : List String) :
    withValues f (name :: names) = (name, v) :: withValues f names :=
  List.filterMap_cons_some (by rw [h]; rfl)

theorem withValues_congr {f g : String → Option Value} {names : List String}
    (h : ∀ n ∈ names, f n = g n) : withValues f names = withValues g names :=
  List.filterMap_congr fun n hn => by rw [h n hn]

theorem map_fst_withValues {f : String → Option Value} {names : List String}
    (h : ∀ n ∈ names, (f n).isSome = true) : (withValues f names).map (·.1) = names := by
  induction names with
  | nil => rfl
  | cons name names ih =>
    obtain ⟨v, hv⟩ := Option.isSome_iff_exists.mp (h name (by simp))
    rw [withValues_cons hv, List.map_cons, ih fun n hn => h n (by simp [hn])]

theorem lookup_reverse_isSome {pairs : List (String × Value)} {name : String}
    (h : name ∈ (pairs.map (·.1)).eraseDups) : (pairs.reverse.lookup name).isSome = true := by
  rw [List.mem_eraseDups] at h
  simpa [List.lookup_isSome_iff] using h

theorem nodup_keywords (pairs : List (String × Value)) : ((keywords pairs).map (·.1)).Nodup := by
  rw [keywords, map_fst_withValues fun _ h => lookup_reverse_isSome h]
  exact Sighting.nodup_eraseDups _

/-- Giving a name a value replaces the one it has in place, or else adds the name at the end. -/
theorem setNamed_withValues {names : List String} {f g : String → Option Value} {name : String}
    {v : Value} (hnames : names.Nodup) (hf : ∀ n ∈ names, (f n).isSome = true)
    (hg : g name = some v) (hfg : ∀ n, n ≠ name → g n = f n) :
    Args.setNamed name v (withValues f names) =
      withValues g (if name ∈ names then names else names ++ [name]) := by
  induction names with
  | nil => rw [if_neg List.not_mem_nil, List.nil_append, withValues_cons hg]; rfl
  | cons m names ih =>
    rw [List.nodup_cons] at hnames
    obtain ⟨w, hw⟩ := Option.isSome_iff_exists.mp (hf m (by simp))
    rw [withValues_cons hw, Args.setNamed]
    by_cases hm : m = name
    · subst hm
      rw [if_pos rfl, if_pos (by simp), withValues_cons hg]
      congr 1
      exact withValues_congr fun n hn => (hfg n fun he => hnames.1 (he ▸ hn)).symm
    · have hgm : g m = some w := by rw [hfg m hm, hw]
      rw [if_neg hm, ih hnames.2 fun n hn => hf n (by simp [hn])]
      by_cases hname : name ∈ names
      · rw [if_pos hname, if_pos (by simp [hname]), withValues_cons hgm]
      · rw [if_neg hname, if_neg (by simp [hname, Ne.symm hm]), List.cons_append,
          withValues_cons hgm]

theorem setNamed_keywords (pairs : List (String × Value)) (name : String) (v : Value) :
    Args.setNamed name v (keywords pairs) = keywords (pairs ++ [(name, v)]) := by
  have hlookup : ∀ n, (pairs ++ [(name, v)]).reverse.lookup n =
      if n = name then some v else pairs.reverse.lookup n := by
    intro n
    rw [List.reverse_append, List.reverse_singleton, List.singleton_append, List.lookup_cons]
    by_cases h : n = name
    · simp [h]
    · rw [if_neg h, beq_eq_false_iff_ne.mpr h]
  rw [keywords, keywords, List.map_append, List.map_cons, List.map_nil,
    Sighting.eraseDups_concat]
  simp only [← List.mem_eraseDups (l := pairs.map (·.1))]
  refine setNamed_withValues (Sighting.nodup_eraseDups _) (fun _ h => lookup_reverse_isSome h) ?_ ?_
  · rw [hlookup, if_pos rfl]
  · intro n hn
    rw [hlookup, if_neg hn]

/-- **What a run of givings leaves**: the values by position in order, and the keywords, each name
once with its last value. -/
theorem giveAll_eq (givings : List Giving) :
    Args.giveAll givings =
      ⟨givings.filterMap Giving.value?, keywords (givings.filterMap Giving.pair?)⟩ := by
  induction givings using List.reverseRecOn with
  | nil => rfl
  | append_singleton givings g ih =>
    rw [Args.giveAll, List.foldl_append, ← Args.giveAll, ih]
    cases g with
    | value v => simp [Args.give, Args.arg, List.filterMap_cons, Giving.value?, Giving.pair?]
    | keyword name v =>
      simp [Args.give, Args.keyword, List.filterMap_cons, Giving.value?, Giving.pair?,
        setNamed_keywords]

/-- Values given by position alone. -/
theorem ofValues_eq_giveAll (vs : List Value) :
    Args.ofValues vs = Args.giveAll (vs.map Giving.value) := by
  have hvalue : Giving.value? ∘ Giving.value = some := rfl
  have hpair : Giving.pair? ∘ Giving.value = fun _ => none := rfl
  rw [giveAll_eq, List.filterMap_map, List.filterMap_map, hvalue, hpair]
  simp [Args.ofValues, keywords, withValues]

/-- Values given by name alone. -/
theorem ofPairs_eq_giveAll (pairs : List (String × Value)) :
    Args.ofPairs pairs = Args.giveAll (pairs.map fun p => Giving.keyword p.1 p.2) := by
  rw [Args.giveAll, List.foldl_map]
  rfl

/-! ## Filling parameters -/

/-- The keyword that a parameter takes, given the parameters before it: none if one of them bears
its name. -/
def supplied? (named : List (String × Value)) (before : List Parameter) (p : Parameter) :
    Option Value :=
  if p.name ∈ before.map (·.name) then none else named.lookup p.name

/-- What each parameter gets: the keyword it takes, or else its default. -/
def resolved (named : List (String × Value)) (ps : List Parameter) : List (Option Value) :=
  ps.mapIdx fun i p => (supplied? named (ps.take i) p).or p.default

/-- The first parameter that gets nothing. -/
def unresolved? (named : List (String × Value)) (ps : List Parameter) : Option Parameter :=
  ((ps.zip (resolved named ps)).find? (·.2.isNone)).map (·.1)

/-- The keywords that name no parameter. -/
def strays (named : List (String × Value)) (ps : List Parameter) : List (String × Value) :=
  named.filter fun pair => pair.1 ∉ ps.map (·.name)

/-- The keywords but for those of one name. -/
def without (name : String) (named : List (String × Value)) : List (String × Value) :=
  named.filter (·.1 ≠ name)

theorem nodup_without {named : List (String × Value)} (name : String)
    (h : (named.map (·.1)).Nodup) : ((without name named).map (·.1)).Nodup :=
  h.sublist (List.filter_sublist.map _)

theorem without_cons_self (name : String) (v : Value) (named : List (String × Value)) :
    without name ((name, v) :: named) = without name named :=
  List.filter_cons_of_neg (by simp)

theorem without_cons_of_ne {name m : String} (v : Value) (named : List (String × Value))
    (h : m ≠ name) : without name ((m, v) :: named) = (m, v) :: without name named :=
  List.filter_cons_of_pos (by simpa using h)

theorem without_eq_self {name : String} {named : List (String × Value)}
    (h : name ∉ named.map (·.1)) : without name named = named := by
  rw [without, List.filter_eq_self]
  intro pair hpair
  have hne : pair.1 ≠ name := fun he => h (List.mem_map.mpr ⟨pair, hpair, he⟩)
  simpa using hne

theorem lookup_eq_none {name : String} {named : List (String × Value)} :
    named.lookup name = none ↔ name ∉ named.map (·.1) := by
  rw [List.lookup_eq_none_iff, List.mem_map]
  constructor
  · rintro h ⟨pair, hpair, rfl⟩
    simpa using h pair hpair
  · intro h pair hpair
    simpa using fun he => h ⟨pair, hpair, Eq.symm he⟩

theorem lookup_without_self (name : String) (named : List (String × Value)) :
    (without name named).lookup name = none := by
  rw [lookup_eq_none, List.mem_map]
  rintro ⟨pair, hpair, hname⟩
  simpa [hname] using (List.mem_filter.mp hpair).2

theorem lookup_without_of_ne {name n : String} (named : List (String × Value)) (h : n ≠ name) :
    (without name named).lookup n = named.lookup n := by
  induction named with
  | nil => rfl
  | cons pair named ih =>
    obtain ⟨m, w⟩ := pair
    by_cases hm : m = name
    · subst hm
      rw [without_cons_self, ih, List.lookup_cons, beq_eq_false_iff_ne.mpr h]
    · rw [without_cons_of_ne w named hm, List.lookup_cons, List.lookup_cons, ih]

/-- Taking a keyword out gives its value and leaves the others in order. -/
theorem takeNamed?_eq (name : String) {named : List (String × Value)}
    (h : (named.map (·.1)).Nodup) :
    takeNamed? name named = (named.lookup name).map fun v => (v, without name named) := by
  induction named with
  | nil => rfl
  | cons pair named ih =>
    obtain ⟨m, w⟩ := pair
    rw [List.map_cons, List.nodup_cons] at h
    by_cases hm : m = name
    · subst hm
      rw [takeNamed?, if_pos rfl, List.lookup_cons_self, without_cons_self,
        without_eq_self h.1]
      rfl
    · have hbeq : (name == m) = false := beq_eq_false_iff_ne.mpr (Ne.symm hm)
      rw [takeNamed?, if_neg hm, ih h.2, List.lookup_cons, hbeq, without_cons_of_ne w named hm]
      cases named.lookup name <;> rfl

/-- What the parameters after one get does not depend on its own keyword. -/
theorem resolved_cons (named : List (String × Value)) (p : Parameter) (ps : List Parameter) :
    resolved named (p :: ps) =
      (named.lookup p.name).or p.default :: resolved (without p.name named) ps := by
  rw [resolved, List.mapIdx_cons, resolved]
  congr 1
  rw [List.mapIdx_eq_mapIdx_iff]
  intro i hi
  rw [List.take_succ_cons]
  congr 1
  by_cases hname : ps[i].name = p.name
  · rw [supplied?, if_pos (by simp [hname]), supplied?, hname, lookup_without_self]
    simp
  · rw [supplied?, supplied?, lookup_without_of_ne named hname]
    simp [hname]

theorem strays_cons (named : List (String × Value)) (p : Parameter) (ps : List Parameter) :
    strays named (p :: ps) = strays (without p.name named) ps := by
  rw [strays, strays, without, List.filter_filter]
  refine List.filter_congr fun pair _ => ?_
  by_cases hname : pair.1 = p.name <;> simp [hname]

theorem unresolved?_cons_of_some {named : List (String × Value)} {p : Parameter} {v : Value}
    (ps : List Parameter) (h : (named.lookup p.name).or p.default = some v) :
    unresolved? named (p :: ps) = unresolved? (without p.name named) ps := by
  rw [unresolved?, resolved_cons, List.zip_cons_cons, List.find?_cons_of_neg (by simp [h]),
    unresolved?]

theorem unresolved?_cons_of_none {named : List (String × Value)} {p : Parameter}
    (ps : List Parameter) (h : (named.lookup p.name).or p.default = none) :
    unresolved? named (p :: ps) = some p := by
  rw [unresolved?, resolved_cons, List.zip_cons_cons, List.find?_cons_of_pos (by simp [h])]
  rfl

/-- **Filling parameters from keywords of distinct names.** It fails at the first parameter that
gets nothing; if there is none, it gives what each parameter gets and the keywords that name no
parameter. -/
theorem fill_spec :
    ∀ (ps : List Parameter) (named : List (String × Value)), (named.map (·.1)).Nodup →
      match unresolved? named ps with
      | some p => fill ps named = .error (.missingArgument p.name)
      | none => ∃ values, values.map some = resolved named ps ∧
          fill ps named = .ok (values, strays named ps)
  | [], named, _ => ⟨[], rfl, by simp [fill, strays]⟩
  | p :: ps, named, h => by
    have ih := fill_spec ps (without p.name named) (nodup_without _ h)
    -- the head takes its keyword or its default; the walk goes on without that keyword
    have hstep : ∀ v, (named.lookup p.name).or p.default = some v →
        fill (p :: ps) named =
          (fill ps (without p.name named)).map fun r => (v :: r.1, r.2) := by
      intro v hv
      rw [fill, takeNamed?_eq _ h]
      cases hlookup : named.lookup p.name with
      | some w =>
        rw [hlookup] at hv
        cases hv
        rfl
      | none =>
        rw [hlookup, Option.none_or] at hv
        rw [without_eq_self (lookup_eq_none.mp hlookup), hv]
        rfl
    cases hhead : (named.lookup p.name).or p.default with
    | some v =>
      rw [unresolved?_cons_of_some ps hhead, hstep v hhead]
      cases hrest : unresolved? (without p.name named) ps with
      | some q =>
        rw [hrest] at ih
        simp only at ih ⊢
        rw [ih]
        rfl
      | none =>
        rw [hrest] at ih
        obtain ⟨values, hvalues, hfill⟩ := ih
        refine ⟨v :: values, ?_, ?_⟩
        · rw [List.map_cons, resolved_cons, hhead, hvalues]
        · rw [hfill, strays_cons]
          rfl
    | none =>
      rw [unresolved?_cons_of_none ps hhead]
      rw [Option.or_eq_none_iff] at hhead
      show fill (p :: ps) named = _
      rw [fill, takeNamed?_eq _ h, hhead.1, hhead.2]
      rfl

/-! ## Calls -/

section Outcomes

variable {q : CompiledQuery} {a : Args}

theorem call_missing {p : Parameter} (h : (a.named.map (·.1)).Nodup)
    (hlength : a.positional.length ≤ q.parameters.length)
    (hp : unresolved? a.named (q.parameters.drop a.positional.length) = some p) :
    q.call a = .error (.missingArgument p.name) := by
  have hfill := fill_spec (q.parameters.drop a.positional.length) a.named h
  rw [hp] at hfill
  simp only at hfill
  rw [CompiledQuery.call, if_neg (Nat.not_lt.mpr hlength), hfill]

theorem call_unexpected (h : (a.named.map (·.1)).Nodup)
    (hlength : a.positional.length ≤ q.parameters.length)
    (hp : unresolved? a.named (q.parameters.drop a.positional.length) = none)
    (hstrays : strays a.named (q.parameters.drop a.positional.length) ≠ []) :
    q.call a = .error (.unexpectedArguments
      ((strays a.named (q.parameters.drop a.positional.length)).map (·.1))) := by
  have hfill := fill_spec (q.parameters.drop a.positional.length) a.named h
  rw [hp] at hfill
  obtain ⟨values, -, hfill⟩ := hfill
  rw [CompiledQuery.call, if_neg (Nat.not_lt.mpr hlength), hfill]
  cases hleft : strays a.named (q.parameters.drop a.positional.length) with
  | nil => exact absurd hleft hstrays
  | cons pair left => rfl

theorem call_bound (h : (a.named.map (·.1)).Nodup)
    (hlength : a.positional.length ≤ q.parameters.length)
    (hp : unresolved? a.named (q.parameters.drop a.positional.length) = none)
    (hstrays : strays a.named (q.parameters.drop a.positional.length) = []) :
    ∃ values, values.map some = resolved a.named (q.parameters.drop a.positional.length) ∧
      q.call a = .ok ⟨q.text, a.positional ++ values, q.parameters.map (·.typeHint)⟩ := by
  have hfill := fill_spec (q.parameters.drop a.positional.length) a.named h
  rw [hp] at hfill
  obtain ⟨values, hvalues, hfill⟩ := hfill
  refine ⟨values, hvalues, ?_⟩
  rw [CompiledQuery.call, if_neg (Nat.not_lt.mpr hlength), hfill, hstrays]

end Outcomes

/-- **The outcome of every call.** Giving arguments leaves the values in order and each keyword
once, in the order of first giving and with the last value; arguments made of values alone or of
pairs alone are given like this too. Values beyond the parameters are refused; then the first
parameter that gets nothing is reported; then all keywords that name no open parameter, in order;
else the query is bound to the values by position and what the open parameters get. -/
theorem call_of_givings (q : CompiledQuery) (givings : List Giving) :
    let a := Args.giveAll givings
    let rest := q.parameters.drop a.positional.length
    (a.positional = givings.filterMap Giving.value? ∧
      a.named = keywords (givings.filterMap Giving.pair?) ∧ (a.named.map (·.1)).Nodup) ∧
    ((∀ vs, Args.ofValues vs = Args.giveAll (vs.map .value)) ∧
      ∀ pairs, Args.ofPairs pairs = Args.giveAll (pairs.map fun p => .keyword p.1 p.2)) ∧
    if q.parameters.length < a.positional.length then
      q.call a = .error (.tooManyArguments q.parameters.length a.positional.length)
    else
      match unresolved? a.named rest with
      | some p => q.call a = .error (.missingArgument p.name)
      | none =>
        if strays a.named rest = [] then
          ∃ values, values.map some = resolved a.named rest ∧
            q.call a = .ok ⟨q.text, a.positional ++ values, q.parameters.map (·.typeHint)⟩
        else q.call a = .error (.unexpectedArguments ((strays a.named rest).map (·.1))) := by
  intro a rest
  have hgiven : a = ⟨givings.filterMap Giving.value?, keywords (givings.filterMap Giving.pair?)⟩ :=
    giveAll_eq givings
  have hnodup : (a.named.map (·.1)).Nodup := by
    rw [hgiven]
    exact nodup_keywords _
  refine ⟨⟨by rw [hgiven], by rw [hgiven], hnodup⟩, ⟨ofValues_eq_giveAll, ofPairs_eq_giveAll⟩, ?_⟩
  split
  · rename_i hmany
    rw [CompiledQuery.call, if_pos hmany]
  · rename_i hmany
    have hlength : a.positional.length ≤ q.parameters.length := Nat.not_lt.mp hmany
    split
    · rename_i p hp
      exact call_missing hnodup hlength hp
    · rename_i hp
      split
      · rename_i hstrays
        exact call_bound hnodup hlength hp hstrays
      · rename_i hstrays
        exact call_unexpected hnodup hlength hp hstrays

end ParamSql

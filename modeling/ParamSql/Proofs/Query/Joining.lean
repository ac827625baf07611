import ParamSql.Query.Compile

/-!
# The text of joined fragments

Joining writes a space behind each fragment and takes blanks back before a closing parenthesis,
before a comma and at the end. For fragments that end in a character that is no blank, all it ever
takes back is a space of its own.

* `Solid` — characters of which the last is no blank.
* `spaced` — fragments in order with the gap between each two of them.
* `joinChars_eq_spaced` — joining solid fragments is spacing them.
-/

set_option autoImplicit false

namespace ParamSql

open Text

/-- Characters of which the last is no blank. -/
def Solid (cs : List Char) : Prop := ∃ c, cs.getLast? = some c ∧ isBlank c = false

/-- What stands between two fragments: nothing behind an opening parenthesis and before a closing
one or a comma, else a space. -/
def gap (f g : String) : List Char := if f = "(" ∨ g = ")" ∨ g = "," then [] else [' ']

/-- The characters of fragments with the gap between each two of them. -/
def spaced : List String → List Char
  | [] => []
  | [f] => f.toList
  | f :: g :: fs => f.toList ++ (gap f g ++ spaced (g :: fs))

/-- What joining has written behind a fragment so far. -/
def trail (f : String) : List Char := if f = "(" then [] else [' ']

theorem solid_append {cs ds : List Char} (h : Solid ds) : Solid (cs ++ ds) := by
  obtain ⟨c, hc, hblank⟩ := h
  exact ⟨c, by rw [List.getLast?_append, hc]; rfl, hblank⟩

theorem spaced_solid : ∀ {fs : List String}, (∀ f ∈ fs, Solid f.toList) → fs ≠ [] →
    Solid (spaced fs)
  | [], _, hne => absurd rfl hne
  | [f], h, _ => h f (by simp)
  | f :: g :: fs, h, _ => by
    rw [spaced]
    exact solid_append (solid_append (spaced_solid (fun k hk => h k (by simp [hk])) (by simp)))

/-- Blanks are taken back up to the last character of what is solid. -/
theorem dropWhile_reverse_append {cs : List Char} (h : Solid cs) (acc : List Char) :
    (cs.reverse ++ acc).dropWhile isBlank = cs.reverse ++ acc := by
  obtain ⟨c, hc, hblank⟩ := h
  obtain ⟨ds, rfl⟩ := List.getLast?_eq_some_iff.mp hc
  rw [List.reverse_append, List.reverse_singleton, List.append_assoc, List.singleton_append,
    List.dropWhile_cons_of_neg (by simp [hblank])]

theorem dropWhile_trail_append {cs : List Char} (h : Solid cs) (f : String) (acc : List Char) :
    (trail f ++ (cs.reverse ++ acc)).dropWhile isBlank = cs.reverse ++ acc := by
  unfold trail
  split
  · exact dropWhile_reverse_append h acc
  · rw [List.singleton_append, List.dropWhile_cons_of_pos (by decide),
      dropWhile_reverse_append h acc]

/-- **One more fragment** puts the gap behind the one before and its own trail behind itself. -/
theorem addFragment_trail {f : String} (h : Solid f.toList) (g : String) (acc : List Char) :
    addFragment (trail f ++ (f.toList.reverse ++ acc)) g =
      trail g ++ (g.toList.reverse ++ (gap f g ++ (f.toList.reverse ++ acc))) := by
  have hbefore : (if g = ")" || g = "," then
        (trail f ++ (f.toList.reverse ++ acc)).dropWhile isBlank
      else trail f ++ (f.toList.reverse ++ acc)) = gap f g ++ (f.toList.reverse ++ acc) := by
    by_cases hg : g = ")" ∨ g = ","
    · rw [if_pos (by simpa using hg), dropWhile_trail_append h, gap, if_pos (Or.inr hg),
        List.nil_append]
    · rw [if_neg (by simpa using hg), trail, gap]
      simp [hg]
  unfold addFragment
  simp only [hbefore]
  by_cases hg : g = "(" <;> simp [trail, hg]

/-- What joining makes of the fragments behind one, from any text before it. -/
theorem foldl_addFragment :
    ∀ (fs : List String) (f : String) (acc : List Char), (∀ g ∈ f :: fs, Solid g.toList) →
      ∃ l, fs.foldl addFragment (trail f ++ (f.toList.reverse ++ acc)) =
        trail l ++ ((spaced (f :: fs)).reverse ++ acc)
  | [], f, acc, _ => ⟨f, rfl⟩
  | g :: fs, f, acc, h => by
    obtain ⟨l, hl⟩ := foldl_addFragment fs g (gap f g ++ (f.toList.reverse ++ acc))
      fun k hk => h k (List.mem_cons_of_mem _ hk)
    have hgap : (gap f g).reverse = gap f g := by
      unfold gap
      split <;> rfl
    refine ⟨l, ?_⟩
    rw [List.foldl_cons, addFragment_trail (h f (by simp)), hl, spaced]
    simp [hgap]

/-- **Joining solid fragments is spacing them.** -/
theorem joinChars_eq_spaced {fs : List String} (h : ∀ f ∈ fs, Solid f.toList) :
    joinChars fs = spaced fs := by
  cases fs with
  | nil => rfl
  | cons f fs =>
    have hfirst : addFragment [] f = trail f ++ (f.toList.reverse ++ []) := by
      unfold addFragment trail
      by_cases hf : f = "(" <;> simp [hf]
    obtain ⟨l, hl⟩ := foldl_addFragment fs f [] h
    rw [joinChars, List.foldl_cons, hfirst, hl,
      dropWhile_trail_append (spaced_solid h (by simp)), List.append_nil, List.reverse_reverse]

end ParamSql

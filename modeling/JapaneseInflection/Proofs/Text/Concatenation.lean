/-!
# Concatenated texts

Facts on texts put one behind the other, by which a concatenation is taken apart again.

* `append_inj_of_length`, `append_inj_of_length_right` and `eq_of_join_map_eq`: where the lengths of
  the parts agree, equal concatenations have equal parts.
* `length_join_map_add`: what parts of two lengths do to the length of a concatenation.
* `join_filter_ne_empty` and `join_eq_empty_iff`: empty texts do not show in a concatenation, and
  they alone make an empty one.
-/

namespace JapaneseInflection

/-- Empty texts do not show in a concatenation. -/
theorem join_filter_ne_empty (texts : List String) :
    String.join (texts.filter (· ≠ "")) = String.join texts := by
  induction texts with
  | nil => rfl
  | cons text texts ih =>
    by_cases h : text = ""
    · subst h
      simpa using ih
    · rw [List.filter_cons_of_pos (by simpa using h), String.join_cons, String.join_cons, ih]

/-- A concatenation is empty exactly when all its parts are. -/
theorem join_eq_empty_iff {texts : List String} :
    String.join texts = "" ↔ ∀ text ∈ texts, text = "" := by
  induction texts with
  | nil => simp
  | cons text texts ih => simp [String.join_cons, String.append_eq_empty_iff, ih]

/-- Equal concatenations have equal parts, if the first parts are equally long. -/
theorem append_inj_of_length {a b c d : String} (hl : a.length = c.length)
    (h : a ++ b = c ++ d) : a = c ∧ b = d := by
  have hlists := congrArg String.toList h
  rw [String.toList_append, String.toList_append] at hlists
  have hcount : a.toList.length = c.toList.length := by
    rw [String.length_toList, String.length_toList, hl]
  obtain ⟨hfront, hback⟩ := List.append_inj hlists hcount
  exact ⟨String.toList_inj.1 hfront, String.toList_inj.1 hback⟩

/-- Equal concatenations have equal parts, if the second parts are equally long. -/
theorem append_inj_of_length_right {a b c d : String} (hl : b.length = d.length)
    (h : a ++ b = c ++ d) : a = c ∧ b = d := by
  have hcount := congrArg String.length h
  rw [String.length_append, String.length_append, hl] at hcount
  exact append_inj_of_length (Nat.add_right_cancel hcount) h

/-- Texts that are pairwise equally long are equal if their concatenations are. -/
theorem eq_of_join_map_eq {α : Type} {items : List α} {f g : α → String}
    (hl : ∀ a ∈ items, (f a).length = (g a).length)
    (h : String.join (items.map f) = String.join (items.map g)) : ∀ a ∈ items, f a = g a := by
  induction items with
  | nil => exact fun a ha => absurd ha List.not_mem_nil
  | cons a items ih =>
    rw [List.map_cons, List.map_cons, String.join_cons, String.join_cons] at h
    obtain ⟨hfirst, hrest⟩ := append_inj_of_length (hl a List.mem_cons_self) h
    have hothers := ih (fun b hb => hl b (List.mem_cons_of_mem a hb)) hrest
    intro b hb
    rcases List.mem_cons.1 hb with rfl | hb
    · exact hfirst
    · exact hothers b hb

/-- Where the parts of two concatenations have the lengths of common bodies and of ends that are
`m` and `n` long, the concatenations differ in length by their ends alone. -/
theorem length_join_map_add {α : Type} (items : List α) {f g : α → String} {body : α → Nat}
    {m n : Nat} (hf : ∀ a, (f a).length = body a + m) (hg : ∀ a, (g a).length = body a + n) :
    (String.join (items.map f)).length + items.length * n =
      (String.join (items.map g)).length + items.length * m := by
  induction items with
  | nil => simp
  | cons a items ih =>
    rw [List.map_cons, List.map_cons, String.join_cons, String.join_cons, String.length_append,
      String.length_append, hf, hg, List.length_cons, Nat.add_mul, Nat.add_mul]
    omega

end JapaneseInflection

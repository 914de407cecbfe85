import Mathlib.Algebra.GroupWithZero.Nat
import JapaneseInflection.Phrase.Basic
import JapaneseInflection.Proofs.Text.Concatenation

/-!
# What printing tells of a phrase

A field lays out every leaf of a phrase on its own. So equal phrases may print differently, and what
print tells of a phrase is exactly the list of its leaves: not their kinds, and not how they are
nested.

* `Field.eq_of_filled_eq`: a text is told by its layouts in two fields that fill up to the same
  width with different characters.
* `length_join_map_render`, `eq_of_join_render_eq` and `length_eq_one_of_join_render_eq`: what
  fields tell of a list of texts that are laid out one after the other.
* `Phrase.render_observes` is the whole account.
-/

namespace JapaneseInflection

/-! ### Fields that only fill -/

namespace Field

/-- The field that cuts nothing and fills up to a width behind the text. -/
def filled (fill : Char) (width : Nat) : Field where
  fill := fill
  width := width

theorem layout_filled (fill : Char) (width : Nat) (text : List Char) :
    (filled fill width).layout text = text ++ List.replicate (width - text.length) fill := by
  simp [layout, filled, cut, padding]

theorem length_render_filled (fill : Char) (width : Nat) (text : String) :
    ((filled fill width).render text).length = max width text.length := by
  rw [← String.length_toList, length_render, ← String.length_toList]
  rfl

/-- The character behind a text, if its field has one there, is the filling. -/
theorem getElem?_layout_filled {fill : Char} {width : Nat} {text : List Char}
    (hw : text.length < width) :
    ((filled fill width).layout text)[text.length]? = some fill := by
  rw [layout_filled, List.getElem?_append_right (Nat.le_refl _), Nat.sub_self,
    List.getElem?_replicate, if_pos (by omega)]

/-- A text is not longer than another one if both look alike in two fields with different fillings:
the character of the longer one at its end would be both of them. -/
theorem length_le_of_filled_eq {first second : Char} (hne : first ≠ second) {width : Nat}
    {a b : List Char} (hfirst : (filled first width).layout a = (filled first width).layout b)
    (hsecond : (filled second width).layout a = (filled second width).layout b) :
    b.length ≤ a.length := by
  refine Nat.le_of_not_lt fun hbehind => ?_
  have hw : a.length < width := by
    have hl := congrArg List.length hfirst
    simp only [layout_filled, List.length_append, List.length_replicate] at hl
    omega
  have hshown : ∀ fill, ((filled fill width).layout b)[a.length]? = b[a.length]? := by
    intro fill
    rw [layout_filled, List.getElem?_append_left hbehind]
  have h₁ : b[a.length]? = some first := by
    rw [← hshown first, ← hfirst, getElem?_layout_filled hw]
  have h₂ : b[a.length]? = some second := by
    rw [← hshown second, ← hsecond, getElem?_layout_filled hw]
  exact hne (Option.some.inj (h₁.symm.trans h₂))

/-- **Two fillings tell a text.** Texts that look alike in two fields of one width, filled with
different characters, are equal, whatever characters they contain. -/
theorem eq_of_filled_eq {first second : Char} (hne : first ≠ second) {width : Nat} {a b : String}
    (hfirst : (filled first width).render a = (filled first width).render b)
    (hsecond : (filled second width).render a = (filled second width).render b) : a = b := by
  have h₁ := congrArg String.toList hfirst
  have h₂ := congrArg String.toList hsecond
  simp only [toList_render] at h₁ h₂
  have hl : a.toList.length = b.toList.length :=
    Nat.le_antisymm (length_le_of_filled_eq hne h₁.symm h₂.symm) (length_le_of_filled_eq hne h₁ h₂)
  rw [layout_filled, layout_filled] at h₁
  exact String.toList_inj.1 (List.append_inj_left h₁ hl)

end Field

/-! ### Lists of texts -/

theorem length_le_length_join {texts : List String} {text : String} (hm : text ∈ texts) :
    text.length ≤ (String.join texts).length := by
  induction texts with
  | nil => cases hm
  | cons first texts ih =>
    rw [String.join_cons, String.length_append]
    rcases List.mem_cons.1 hm with rfl | hm
    · omega
    · have hrest := ih hm
      omega

/-- Texts laid out one after the other take the room that each takes on its own. -/
theorem length_join_map_render (field : Field) (texts : List String) :
    (String.join (texts.map field.render)).length = (texts.map fun text =>
      max field.width (field.precision.elim text.length (min · text.length))).sum := by
  have htext : ∀ text, (field.render text).length =
      max field.width (field.precision.elim text.length (min · text.length)) := by
    intro text
    rw [← String.length_toList, Field.length_render, String.length_toList]
  rw [String.length_join, List.map_map]
  congr 1
  exact List.map_congr_left fun text _ => htext text

/-- In a field at least as wide as all texts of a list, each takes the same room. -/
theorem length_join_filled (fill : Char) {width : Nat} {texts : List String}
    (hw : ∀ text ∈ texts, text.length ≤ width) :
    (String.join (texts.map (Field.filled fill width).render)).length = texts.length * width := by
  induction texts with
  | nil => simp
  | cons text texts ih =>
    have hfirst := hw text List.mem_cons_self
    have hrest := ih fun other hm => hw other (List.mem_cons_of_mem text hm)
    rw [List.map_cons, String.join_cons, String.length_append, hrest, Field.length_render_filled,
      List.length_cons, Nat.add_mul, Nat.one_mul]
    omega

/-- Lists of texts that look alike in two fields with different fillings, both as wide as all texts,
are equal. -/
theorem eq_of_join_filled_eq {first second : Char} (hne : first ≠ second) {width : Nat}
    (hpos : 0 < width) {texts others : List String}
    (htexts : ∀ text ∈ texts, text.length ≤ width) (hothers : ∀ text ∈ others, text.length ≤ width)
    (hfirst : String.join (texts.map (Field.filled first width).render) =
      String.join (others.map (Field.filled first width).render))
    (hsecond : String.join (texts.map (Field.filled second width).render) =
      String.join (others.map (Field.filled second width).render)) : texts = others := by
  -- the width counts the texts, and then the first texts of both lists can be split off
  have hcount : texts.length = others.length := by
    have hl := congrArg String.length hfirst
    rw [length_join_filled first htexts, length_join_filled first hothers] at hl
    exact Nat.eq_of_mul_eq_mul_right hpos hl
  induction texts generalizing others with
  | nil => exact (List.length_eq_zero_iff.1 hcount.symm).symm
  | cons text texts ih =>
    cases others with
    | nil => cases hcount
    | cons other others =>
      have hfits := htexts text List.mem_cons_self
      have hofits := hothers other List.mem_cons_self
      have hroom : ∀ fill, ((Field.filled fill width).render text).length =
          ((Field.filled fill width).render other).length := by
        intro fill
        rw [Field.length_render_filled, Field.length_render_filled, Nat.max_eq_left hfits,
          Nat.max_eq_left hofits]
      simp only [List.map_cons, String.join_cons] at hfirst hsecond
      obtain ⟨htext₁, hrest₁⟩ := append_inj_of_length (hroom first) hfirst
      obtain ⟨htext₂, hrest₂⟩ := append_inj_of_length (hroom second) hsecond
      rw [Field.eq_of_filled_eq hne htext₁ htext₂,
        ih (fun a ha => htexts a (List.mem_cons_of_mem text ha))
          (fun a ha => hothers a (List.mem_cons_of_mem other ha)) hrest₁ hrest₂
          (Nat.succ.inj hcount)]

/-- Lists of texts that look alike, text by text, in all fields filled with one of two characters
are equal: a field wider than all texts is among them. -/
theorem eq_of_join_render_eq {first second : Char} (hne : first ≠ second)
    {texts others : List String}
    (hfirst : ∀ width, String.join (texts.map (Field.filled first width).render) =
      String.join (others.map (Field.filled first width).render))
    (hsecond : ∀ width, String.join (texts.map (Field.filled second width).render) =
      String.join (others.map (Field.filled second width).render)) : texts = others := by
  let width := (String.join texts).length + (String.join others).length + 1
  refine eq_of_join_filled_eq hne (Nat.succ_pos _) (fun text hm => ?_) (fun text hm => ?_)
    (hfirst width) (hsecond width)
  · have hl := length_le_length_join hm
    show text.length ≤ (String.join texts).length + (String.join others).length + 1
    omega
  · have hl := length_le_length_join hm
    show text.length ≤ (String.join texts).length + (String.join others).length + 1
    omega

/-- A list of texts that looks like its concatenation in all fields with a filling has one text: in
a field wider than the concatenation each text takes the room of the whole. -/
theorem length_eq_one_of_join_render_eq {fill : Char} {texts : List String}
    (h : ∀ width, String.join (texts.map (Field.filled fill width).render) =
      (Field.filled fill width).render (String.join texts)) : texts.length = 1 := by
  have hl := congrArg String.length (h ((String.join texts).length + 1))
  rw [length_join_filled fill fun text hm => Nat.le_succ_of_le (length_le_length_join hm),
    Field.length_render_filled, Nat.max_eq_left (Nat.le_succ (String.join texts).length)] at hl
  exact Nat.eq_of_mul_eq_mul_right (Nat.succ_pos _) (hl.trans (Nat.one_mul _).symm)

/-- A single text is laid out as the concatenation that it is. -/
theorem join_map_render_of_length {texts : List String} (hl : texts.length = 1) (field : Field) :
    String.join (texts.map field.render) = field.render (String.join texts) := by
  obtain ⟨text, rfl⟩ := List.length_eq_one_iff.1 hl
  simp

/-! ### Phrases -/

namespace Phrase

/-- The print of a phrase is as long as its leaves are in the field, each on its own. -/
theorem length_render (field : Field) (phrase : Phrase) :
    (phrase.render field).length = (phrase.leaves.map fun leaf =>
      max field.width (field.precision.elim leaf.length (min · leaf.length))).sum := by
  rw [render_eq_join_leaves, length_join_map_render]

/-- Phrases that look alike in all fields filled with one of two characters have the same leaves. -/
theorem leaves_eq_of_render_eq {first second : Char} (hne : first ≠ second) {a b : Phrase}
    (hfirst : ∀ width, a.render (.filled first width) = b.render (.filled first width))
    (hsecond : ∀ width, a.render (.filled second width) = b.render (.filled second width)) :
    a.leaves = b.leaves := by
  simp only [render_eq_join_leaves] at hfirst hsecond
  exact eq_of_join_render_eq hne hfirst hsecond

/-- A phrase that looks like its text in all fields with a filling has exactly one leaf. -/
theorem length_leaves_of_render_eq {fill : Char} {phrase : Phrase}
    (h : ∀ width, phrase.render (.filled fill width) =
      (Field.filled fill width).render phrase.text) :
    phrase.leaves.length = 1 := by
  simp only [render_eq_join_leaves, text_eq_join_leaves] at h
  exact length_eq_one_of_join_render_eq h

theorem render_of_length_leaves {phrase : Phrase} (hl : phrase.leaves.length = 1) (field : Field) :
    phrase.render field = field.render phrase.text := by
  rw [render_eq_join_leaves, text_eq_join_leaves, join_map_render_of_length hl]

/-- **Print tells the leaves of a phrase and nothing else.** A field lays out the leaves one after
the other, each on its own, so that the lengths add up. Two phrases look alike in all fields, even
in those filled with spaces or stars, exactly when they have the same leaves; and a phrase looks
like its own text in all of these fields exactly when it has one leaf. -/
theorem render_observes :
    (∀ (field : Field) (phrase : Phrase),
      phrase.render field = String.join (phrase.leaves.map field.render) ∧
      (phrase.render field).length = (phrase.leaves.map fun leaf =>
        max field.width (field.precision.elim leaf.length (min · leaf.length))).sum) ∧
    (∀ a b : Phrase,
      (∀ field : Field, field.fill = ' ' ∨ field.fill = '*' → a.render field = b.render field) ↔
        a.leaves = b.leaves) ∧
    (∀ phrase : Phrase,
      (∀ field : Field, field.fill = ' ' ∨ field.fill = '*' →
        phrase.render field = field.render phrase.text) ↔
        phrase.leaves.length = 1) := by
  refine ⟨fun field phrase => ⟨phrase.render_eq_join_leaves field, phrase.length_render field⟩,
    fun a b => ⟨fun h => ?_, fun h field _ => ?_⟩, fun phrase => ⟨fun h => ?_, fun h field _ => ?_⟩⟩
  · have hne : ' ' ≠ '*' := by decide
    exact leaves_eq_of_render_eq hne (fun width => h _ (Or.inl rfl)) fun width => h _ (Or.inr rfl)
  · rw [render_eq_join_leaves, render_eq_join_leaves, h]
  · exact length_leaves_of_render_eq fun width => h (.filled ' ' width) (Or.inl rfl)
  · exact render_of_length_leaves h field

end Phrase

end JapaneseInflection

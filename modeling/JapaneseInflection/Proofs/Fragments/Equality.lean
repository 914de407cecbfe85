import JapaneseInflection.Fragments.Lemmas
import JapaneseInflection.Proofs.Text.Concatenation

/-!
# Equality of fragments

Fragments are compared and hashed character by character, fragment after fragment, and the text that
they spell is never put together for it. Still it is the text alone that counts: not where it is
split, not the empty texts among those that were stored, and not how many slots there are.

* `sameText_iff`, `spells_iff` and `hashInput_eq_iff` are the comparisons and the hash, told by the
  text.
* `equivalence_sameText`: fragments of all capacities together are compared by an equivalence.
* `sameText_collected` is the whole account for texts that are stored.
-/

namespace JapaneseInflection.Fragments

variable {m n : Nat}

/-! ### Comparison by the text -/

theorem chars_eq_iff {a : Fragments m} {b : Fragments n} : a.chars = b.chars ↔ a.text = b.text := by
  rw [← toList_text, ← toList_text, String.toList_inj]

theorem sameText_iff {a : Fragments m} {b : Fragments n} :
    a.sameText b = true ↔ a.text = b.text := by
  rw [sameText, beq_iff_eq, chars_eq_iff]

theorem spells_iff {a : Fragments m} {text : String} :
    a.spells text = true ↔ a.text = text := by
  rw [spells, beq_iff_eq, ← toList_text, String.toList_inj]

theorem hashInput_eq_iff {a : Fragments m} {b : Fragments n} :
    a.hashInput = b.hashInput ↔ a.text = b.text :=
  chars_eq_iff

/-- Fragments of any capacity. -/
abbrev OfAnyCapacity := (capacity : Nat) × Fragments capacity

/-- Fragments of all capacities are compared by an equivalence. -/
theorem equivalence_sameText :
    Equivalence fun a b : OfAnyCapacity => a.2.sameText b.2 = true where
  refl _ := sameText_iff.2 rfl
  symm h := sameText_iff.2 (sameText_iff.1 h).symm
  trans h₁ h₂ := sameText_iff.2 ((sameText_iff.1 h₁).trans (sameText_iff.1 h₂))

/-! ### Stored texts -/

/-- Stored texts spell their concatenation, as the empty ones, which are not kept, do not show. -/
theorem text_of_ofList {texts : List String} {made : Fragments m}
    (hstored : ofList texts = .ok made) : made.text = String.join texts := by
  rw [text, (ofList_eq_ok hstored).2, join_filter_ne_empty]

/-- Texts that fit are stored, and spell their concatenation. -/
theorem exists_ofList_text {texts : List String} (hfits : (texts.filter (· ≠ "")).length ≤ m) :
    ∃ made : Fragments m, ofList texts = .ok made ∧ made.text = String.join texts := by
  obtain ⟨made, hstored, -, -⟩ := ofList_of_fits hfits
  exact ⟨made, hstored, text_of_ofList hstored⟩

/-- **Only the concatenation of stored texts counts.** Two lists of texts that fit are stored, each
with slots of its own number, and then the fragments equal each other, either way round, exactly
when the lists have one concatenation; exactly then each equals the concatenation of the other
list, and exactly then both give the same values to a hash. So fragments of all capacities are
compared by an equivalence, and two lists with one concatenation cannot be told apart by comparing
what is stored with any fragments or any text. -/
theorem sameText_collected :
    (∀ (m n : Nat) (texts others : List String),
      (texts.filter (· ≠ "")).length ≤ m → (others.filter (· ≠ "")).length ≤ n →
      ∃ (a : Fragments m) (b : Fragments n), ofList texts = .ok a ∧ ofList others = .ok b ∧
        a.text = String.join texts ∧ b.text = String.join others ∧
        (a.sameText b = true ↔ String.join texts = String.join others) ∧
        (b.sameText a = true ↔ String.join texts = String.join others) ∧
        (a.spells b.text = true ↔ String.join texts = String.join others) ∧
        (b.spells a.text = true ↔ String.join texts = String.join others) ∧
        (a.hashInput = b.hashInput ↔ String.join texts = String.join others) ∧
        (String.join texts = String.join others →
          (∀ (k : Nat) (c : Fragments k), a.sameText c = b.sameText c) ∧
          ∀ text, a.spells text = b.spells text)) ∧
    Equivalence fun a b : OfAnyCapacity => a.2.sameText b.2 = true := by
  refine ⟨fun m n texts others htexts hothers => ?_, equivalence_sameText⟩
  obtain ⟨a, hstored, ha⟩ := exists_ofList_text htexts
  obtain ⟨b, hother, hb⟩ := exists_ofList_text hothers
  refine ⟨a, b, hstored, hother, ha, hb, ?_, ?_, ?_, ?_, ?_, fun h => ?_⟩
  · rw [sameText_iff, ha, hb]
  · rw [sameText_iff, ha, hb, eq_comm]
  · rw [spells_iff, ha, hb]
  · rw [spells_iff, ha, hb, eq_comm]
  · rw [hashInput_eq_iff, ha, hb]
  · have htext : a.text = b.text := by rw [ha, hb, h]
    refine ⟨fun k c => ?_, fun text => ?_⟩
    · rw [Bool.eq_iff_iff, sameText_iff, sameText_iff, htext]
    · rw [Bool.eq_iff_iff, spells_iff, spells_iff, htext]

end JapaneseInflection.Fragments

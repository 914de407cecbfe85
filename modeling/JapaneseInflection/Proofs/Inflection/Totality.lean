import JapaneseInflection.Proofs.Inflection.Spelling

/-!
# Which forms can be made

Conjugation never runs out of slots. It fails only on a form that the class of the word does not
have, and says so; what it makes otherwise is one to three fragments with a text.

* `Conjugator.word_total` says this for every word, every form and every choice of settings.
-/

namespace JapaneseInflection

namespace Conjugator

variable {conjugator : Conjugator} {word : Word} {form : Form}

/-- A form that the class has is made from a spelling that fits. -/
theorem exists_made_of_hasForm (conjugator : Conjugator) (hf : word.wordClass.HasForm form) :
    ∃ (spelling : Spelling) (made : Inflected),
      word.spelling? conjugator.causative form = some spelling ∧ spelling.Fits ∧
      (conjugator.word word form).value = .ok made ∧ made.WellStored ∧
      made.toList = spelling.pieces ∧ made.text = spelling.text := by
  obtain ⟨-, spelling, hs, hfits⟩ | ⟨hnot, -⟩ := word.spelling?_cases conjugator.causative form
  · obtain ⟨made, hmade⟩ := value_word_of_some hs
    exact ⟨spelling, made, hs, hfits, hmade⟩
  · exact absurd hf hnot

/-- A form that the class does not have is refused. -/
theorem value_of_not_hasForm (conjugator : Conjugator) (hf : ¬ word.wordClass.HasForm form) :
    (conjugator.word word form).value =
      .error (.unsupportedForm word.wordClass form.keyword) := by
  obtain ⟨h, -⟩ | ⟨-, hs⟩ := word.spelling?_cases conjugator.causative form
  · exact absurd h hf
  · exact value_word_of_none hs

/-- A word is refused a form exactly when its class does not have it, by the names of both. -/
theorem value_eq_error_iff {cause : Error} :
    (conjugator.word word form).value = .error cause ↔
      ¬ word.wordClass.HasForm form ∧ cause = .unsupportedForm word.wordClass form.keyword := by
  constructor
  · intro h
    by_cases hf : word.wordClass.HasForm form
    · obtain ⟨-, made, -, -, hmade, -⟩ := exists_made_of_hasForm conjugator hf
      rw [hmade] at h
      cases h
    · rw [value_of_not_hasForm conjugator hf] at h
      exact ⟨hf, (Except.error.inj h).symm⟩
  · rintro ⟨hf, rfl⟩
    exact value_of_not_hasForm conjugator hf

/-- A form is made exactly when the class of the word has it. -/
theorem exists_made_iff :
    (∃ made, (conjugator.word word form).value = .ok made) ↔ word.wordClass.HasForm form := by
  constructor
  · intro h
    obtain ⟨made, hmade⟩ := h
    refine Decidable.byContradiction fun hf => ?_
    rw [value_of_not_hasForm _ hf] at hmade
    cases hmade
  · intro hf
    obtain ⟨-, made, -, -, hmade, -⟩ := exists_made_of_hasForm conjugator hf
    exact ⟨made, hmade⟩

/-- The only error of a conjugation names the class of the word and the keyword of the form. -/
theorem error_of_value_word {cause : Error}
    (he : (conjugator.word word form).value = .error cause) :
    cause = .unsupportedForm word.wordClass form.keyword :=
  (value_eq_error_iff.1 he).2

/-- What a conjugation makes is one to three fragments, none of them empty, that spell a text. -/
theorem made_of_value_word {made : Inflected}
    (hm : (conjugator.word word form).value = .ok made) :
    1 ≤ made.size ∧ made.size ≤ 3 ∧ made.toList.length = made.size ∧
      (∀ piece ∈ made.toList, piece ≠ "") ∧ made.text ≠ "" := by
  by_cases hf : word.wordClass.HasForm form
  · obtain ⟨spelling, other, -, hfits, hother, hkept, hall, htext⟩ :=
      exists_made_of_hasForm conjugator hf
    obtain rfl : other = made := Except.ok.inj (hother.symm.trans hm)
    have hl := hkept.length_toList
    have hcount := hfits.length_pieces
    rw [← hall, hl] at hcount
    refine ⟨hcount.1, hcount.2, hl, fun piece hp => hkept.ne_empty_of_mem hp, ?_⟩
    rw [htext]
    exact hfits.text_ne
  · rw [value_of_not_hasForm conjugator hf] at hm
    cases hm

/-- **Conjugation is total.** It never runs out of slots, it succeeds exactly on the forms that
the class of the word has, it refuses the others by their class and keyword, and what it makes
is one to three fragments, none of them empty, that spell a text. -/
theorem word_total (settings : Settings) (word : Word) (form : Form) :
    (∀ fault : StorageFault,
      ((ofSettings settings).word word form).value ≠ .error (.storage fault)) ∧
    ((∃ made, ((ofSettings settings).word word form).value = .ok made) ↔
      word.wordClass.HasForm form) ∧
    (∀ cause, ((ofSettings settings).word word form).value = .error cause →
      cause = .unsupportedForm word.wordClass form.keyword) ∧
    (∀ made, ((ofSettings settings).word word form).value = .ok made →
      1 ≤ made.size ∧ made.size ≤ 3 ∧ made.toList.length = made.size ∧
        (∀ piece ∈ made.toList, piece ≠ "") ∧ made.text ≠ "") := by
  refine ⟨fun fault h => ?_, exists_made_iff, fun cause => error_of_value_word,
    fun made => made_of_value_word⟩
  cases error_of_value_word h

end Conjugator

end JapaneseInflection

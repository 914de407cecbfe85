import JapaneseInflection.Proofs.Inflection.Paradigm

/-!
# What the choice of the causative changes

A conjugator is free to choose how ichidan verbs form the causative. The choice shows in this form
of these verbs and nowhere else, and both ways spell equally long texts.

* `Word.spelling?_eq`: all other forms are spelled alike under both choices.
* `Word.text?_eq_iff`: two conjugators make the same text of a form exactly when they agree or the
  choice does not show in it.
* `Conjugator.exists_made_of_showsChoice`: the fragments that are made where the choice shows.
* `Conjugator.choice_changes_one_cell` is the whole account of what settings change in
  conjugation.
-/

namespace JapaneseInflection

/-- The choice of the causative shows in the causative of ichidan verbs. -/
def Word.ShowsChoice (word : Word) (form : Form) : Prop :=
  word.wordClass = .ichidan ∧ form = .verb .causative

/-- The exponent of the causative of ichidan verbs. -/
def Causative.exponent : Causative → String
  | collapsed => "られ"
  | split => splitCausative

theorem Causative.exponent_injective {first second : Causative}
    (he : first.exponent = second.exponent) : first = second := by
  revert he
  cases first <;> cases second <;> decide

theorem Causative.exponent_ne_empty (causative : Causative) : causative.exponent ≠ "" := by
  cases causative <;> decide

theorem Causative.length_exponent (causative : Causative) : causative.exponent.length = 2 := by
  cases causative <;> decide

theorem ichidanExponent?_causative (causative : Causative) :
    ichidanExponent? causative .causative = some causative.exponent := by
  cases causative <;> rfl

/-- The exponents of ichidan verbs in all forms but the causative do not depend on the choice. -/
theorem ichidanExponent?_eq (first second : Causative) {form : VerbForm}
    (hf : form ≠ .causative) : ichidanExponent? first form = ichidanExponent? second form := by
  cases form
  case causative => exact absurd rfl hf
  all_goals cases first <;> cases second <;> rfl

/-- Where the choice does not show, both choices spell a form alike. -/
theorem Word.spelling?_eq (first second : Causative) {word : Word} {form : Form}
    (hn : ¬ word.ShowsChoice form) : word.spelling? first form = word.spelling? second form := by
  rcases word with v | a <;> rcases form with f | f
  · cases v with
    | godan stem ending => cases f <;> rfl
    | ichidan stem =>
      have hf : f ≠ .causative := by
        rintro rfl
        exact hn ⟨rfl, rfl⟩
      show Verb.spelling? first (.ichidan stem) f = Verb.spelling? second (.ichidan stem) f
      rw [Verb.spelling?, Verb.spelling?, ichidanExponent?_eq first second hf]
    | suru => rfl
    | kuru => rfl
  · rfl
  · rfl
  · rfl

/-- Only ichidan verbs show the choice. -/
theorem Word.ShowsChoice.exists_stem {word : Word} {form : Form} (hs : word.ShowsChoice form) :
    ∃ stem : Stem, word = .verb (.ichidan stem) := by
  obtain ⟨hclass, -⟩ := hs
  rcases word with v | a
  · cases v with
    | ichidan stem => exact ⟨stem, rfl⟩
    | godan stem ending => cases hclass
    | suru => cases hclass
    | kuru => cases hclass
  · cases a <;> cases hclass

theorem Word.spelling?_ichidan_causative (causative : Causative) (stem : Stem) :
    (Word.verb (.ichidan stem)).spelling? causative (.verb .causative) =
      some ⟨stem.text, [causative.exponent]⟩ := by
  rw [Word.spelling?, Verb.spelling?, ichidanExponent?_causative]
  rfl

/-- Where the choice shows, the exponent that was chosen follows the stem. -/
theorem Word.exists_text?_of_showsChoice {word : Word} {form : Form}
    (hs : word.ShowsChoice form) :
    ∃ stem : Stem, ∀ causative, word.text? causative form =
      some (stem.text ++ causative.exponent) := by
  obtain ⟨stem, rfl⟩ := hs.exists_stem
  obtain ⟨-, rfl⟩ := hs
  refine ⟨stem, fun causative => ?_⟩
  rw [Word.text?, Word.spelling?_ichidan_causative]
  exact congrArg some (Spelling.text_singleton stem.text causative.exponent)

theorem Word.text?_eq (first second : Causative) {word : Word} {form : Form}
    (hn : ¬ word.ShowsChoice form) : word.text? first form = word.text? second form := by
  rw [Word.text?, Word.text?, Word.spelling?_eq first second hn]

/-- Two choices make the same text exactly where they agree or the choice does not show. -/
theorem Word.text?_eq_iff {first second : Causative} {word : Word} {form : Form} :
    word.text? first form = word.text? second form ↔
      (word.ShowsChoice form → first = second) := by
  constructor
  · intro h hs
    obtain ⟨stem, ht⟩ := Word.exists_text?_of_showsChoice hs
    rw [ht, ht, Option.some.injEq, String.append_right_inj] at h
    exact Causative.exponent_injective h
  · intro h
    by_cases hs : word.ShowsChoice form
    · rw [h hs]
    · exact Word.text?_eq first second hs

/-- Both choices make equally long texts. -/
theorem Word.length_entryIn (first second : Causative) (word : Word) (form : Form) :
    (word.entryIn first form).2.length = (word.entryIn second form).2.length := by
  by_cases hs : word.ShowsChoice form
  · obtain ⟨stem, ht⟩ := Word.exists_text?_of_showsChoice hs
    simp only [Word.entryIn, ht, Option.getD_some, String.length_append,
      Causative.length_exponent]
  · rw [Word.entryIn, Word.entryIn, Word.text?_eq first second hs]

/-- For a form that the class has, two choices make the same entry exactly where they agree or the
choice does not show. -/
theorem Word.entryIn_eq_iff {first second : Causative} {word : Word} {form : Form}
    (hf : word.wordClass.HasForm form) :
    (word.entryIn first form).2 = (word.entryIn second form).2 ↔
      (word.ShowsChoice form → first = second) := by
  rw [← Word.text?_eq_iff]
  obtain ⟨t, ht⟩ := Option.isSome_iff_exists.1 ((word.text?_isSome_iff first form).2 hf)
  obtain ⟨u, hu⟩ := Option.isSome_iff_exists.1 ((word.text?_isSome_iff second form).2 hf)
  simp only [Word.entryIn, ht, hu, Option.getD_some, Option.some.injEq]

/-! ### What conjugators make -/

namespace Conjugator

/-- Settings reach a conjugator through the choice of the causative alone. -/
theorem ofSettings_eq_iff {first second : Settings} :
    ofSettings first = ofSettings second ↔ first.causative = second.causative := by
  constructor
  · intro h
    exact congrArg Conjugator.causative h
  · intro h
    rw [ofSettings, ofSettings, h]

/-- Where the choice does not show, conjugators do not differ: neither in what they make or refuse
nor in the events that they leave. -/
theorem word_eq_of_not_showsChoice (first second : Conjugator) {word : Word} {form : Form}
    (hn : ¬ word.ShowsChoice form) : first.word word form = second.word word form := by
  rcases word with v | a <;> rcases form with f | f
  · have hs : v.spelling? first.causative f = v.spelling? second.causative f :=
      Word.spelling?_eq first.causative second.causative hn
    show first.verb v f = second.verb v f
    rw [Conjugator.verb, Conjugator.verb, hs]
  · rfl
  · rfl
  · rfl

/-- Where the choice shows, the fragments are the stem and the exponent that was chosen. -/
theorem exists_made_of_showsChoice {word : Word} {form : Form} (hs : word.ShowsChoice form) :
    ∃ stem : Stem, word = .verb (.ichidan stem) ∧ ∀ conjugator : Conjugator,
      ∃ made, (conjugator.word word form).value = .ok made ∧
        made.toList = [stem.text, conjugator.causative.exponent] ∧
        made.text = stem.text ++ conjugator.causative.exponent := by
  obtain ⟨stem, rfl⟩ := hs.exists_stem
  obtain ⟨-, rfl⟩ := hs
  refine ⟨stem, rfl, fun conjugator => ?_⟩
  obtain ⟨made, hm, -, hpieces, htext⟩ :=
    value_word_of_some (Word.spelling?_ichidan_causative conjugator.causative stem)
  refine ⟨made, hm, ?_, ?_⟩
  · have hne := conjugator.causative.exponent_ne_empty
    rw [hpieces]
    simp [Spelling.pieces, stem.text_ne, hne]
  · rw [htext, Spelling.text_singleton]

/-- Two settings make the same of a word and a form exactly where they agree in the choice or the
choice does not show. -/
theorem word_ofSettings_eq_iff {first second : Settings} {word : Word} {form : Form} :
    (ofSettings first).word word form = (ofSettings second).word word form ↔
      (word.ShowsChoice form → first.causative = second.causative) := by
  constructor
  · intro h hs
    obtain ⟨stem, -, hmade⟩ := exists_made_of_showsChoice hs
    obtain ⟨made, hm, hlist, -⟩ := hmade (ofSettings first)
    obtain ⟨other, ho, hother, -⟩ := hmade (ofSettings second)
    rw [h, ho] at hm
    obtain rfl := Except.ok.inj hm
    rw [hlist] at hother
    have hexponent := (List.cons.inj (List.cons.inj hother).2).1
    exact Causative.exponent_injective hexponent
  · intro h
    by_cases hs : word.ShowsChoice form
    · rw [ofSettings_eq_iff.2 (h hs)]
    · exact word_eq_of_not_showsChoice _ _ hs

/-- **Settings change one cell of conjugation.** Under any two settings a word and a form give the
same, with all fragments, errors and events, unless the settings choose differently and the form is
the causative of an ichidan verb: then one makes the stem with られ behind it and the other the stem
with させ. Conjugators are equal when the choices are, whatever the particles, and the texts of the
standard conjugator are those under any settings that share られ. -/
theorem choice_changes_one_cell :
    (∀ (first second : Settings) (word : Word) (form : Form),
      ((ofSettings first).word word form = (ofSettings second).word word form ↔
        (word.ShowsChoice form → first.causative = second.causative)) ∧
      (word.ShowsChoice form → first.causative ≠ second.causative →
        ∃ (stem : Stem) (shared own : Inflected), word = .verb (.ichidan stem) ∧
          shared.toList = [stem.text, "られ"] ∧ own.toList = [stem.text, "させ"] ∧
          shared.text ≠ own.text ∧
          ((((ofSettings first).word word form).value = .ok shared ∧
              ((ofSettings second).word word form).value = .ok own) ∨
            (((ofSettings first).word word form).value = .ok own ∧
              ((ofSettings second).word word form).value = .ok shared)))) ∧
    (∀ first second : Settings,
      ofSettings first = ofSettings second ↔ first.causative = second.causative) ∧
    (∀ settings : Settings, settings.causative = .collapsed →
      (∀ (word : Word) (form : Form),
        word.inTheForm form = ((ofSettings settings).word word form).text) ∧
      (∀ (verb : Verb) (form : VerbForm),
        verb.inTheForm form = ((ofSettings settings).verb verb form).text) ∧
      (∀ (adjective : Adjective) (form : AdjectiveForm),
        adjective.inTheForm form = ((ofSettings settings).adjective adjective form).text)) := by
  refine ⟨?_, ?_, ?_⟩
  · intro first second word form
    refine ⟨word_ofSettings_eq_iff, ?_⟩
    intro hs hne
    obtain ⟨stem, hword, hmade⟩ := exists_made_of_showsChoice hs
    obtain ⟨shared, hshared, hlist, htext⟩ := hmade ⟨.collapsed⟩
    obtain ⟨own, hown, hother, hspelled⟩ := hmade ⟨.split⟩
    refine ⟨stem, shared, own, hword, hlist, hother, ?_, ?_⟩
    · rw [htext, hspelled, Ne, String.append_right_inj]
      intro h
      cases Causative.exponent_injective h
    · rw [ofSettings, ofSettings]
      cases hf : first.causative <;> cases hsec : second.causative
      · exact absurd (hf.trans hsec.symm) hne
      · exact Or.inl ⟨hshared, hown⟩
      · exact Or.inr ⟨hown, hshared⟩
      · exact absurd (hf.trans hsec.symm) hne
  · intro first second
    exact ofSettings_eq_iff
  · intro settings hc
    have hstandard : ofSettings settings = standard := by
      rw [ofSettings, hc, standard]
    rw [hstandard]
    exact ⟨fun word form => rfl, fun verb form => rfl, fun adjective form => rfl⟩

end Conjugator

end JapaneseInflection

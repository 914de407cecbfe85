import JapaneseInflection.Proofs.Inflection.Texts
import JapaneseInflection.Proofs.Lexicon.RoundTrip

/-!
# Words with the same dictionary form

A text that ends in る can be read as a godan verb, as an ichidan verb and in two cases as an
irregular verb. Only these readings share a dictionary form, and their imperatives tell them apart.
The basic form of an adjective tells it at once.

* `Verb.readings` lists the verbs that a stem makes with る behind it.
* `Verb.mem_readings_iff`: these are the verbs with that dictionary form.
* `Verb.eq_of_imperative_eq`: two readings with one imperative are the same.
* `Conjugator.homographs_told_apart` is the whole account.
-/

namespace JapaneseInflection

namespace Verb

/-! ### Readings of る behind a stem -/

/-- The verbs whose dictionary form is the given stem with る behind it. -/
def readings (stem : Stem) : List Verb :=
  [godan stem .ru, ichidan stem] ++ (if stem.text = "す" then [suru] else []) ++
    (if stem.text = "来" then [kuru] else [])

theorem mem_readings {verb : Verb} {stem : Stem} :
    verb ∈ readings stem ↔ verb = godan stem .ru ∨ verb = ichidan stem ∨
      (verb = suru ∧ stem.text = "す") ∨ (verb = kuru ∧ stem.text = "来") := by
  by_cases hs : stem.text = "す"
  · simp [readings, hs]
  · by_cases hk : stem.text = "来" <;> simp [readings, hs, hk]

theorem textIn_dictionary (causative : Causative) (verb : Verb) :
    verb.textIn causative .dictionary = verb.dictionary := by
  have hcited : (Word.verb verb).text? causative (.verb .dictionary) = some verb.dictionary :=
    (Word.verb verb).text?_citationForm causative
  rw [Word.text?_verb] at hcited
  exact Option.some.inj hcited

/-- Godan verbs with one dictionary form are equal. -/
theorem godan_dictionary_inj {stem other : Stem} {first second : GodanEnding}
    (hd : (godan stem first).dictionary = (godan other second).dictionary) :
    stem = other ∧ first = second := by
  have hplain : ¬ VerbForm.IsEuphonic .dictionary := by
    rintro (h | h | h) <;> cases h
  rw [← textIn_dictionary .collapsed, ← textIn_dictionary .collapsed, textIn_godan_eq_iff] at hd
  exact ⟨hd.1, GodanEnding.suffix_injective hplain hd.2⟩

/-- The readings of a stem are the verbs that the stem with る behind it cites. -/
theorem mem_readings_iff {verb : Verb} {stem : Stem} :
    verb ∈ readings stem ↔ verb.dictionary = stem.text ++ "る" := by
  rw [mem_readings]
  cases verb with
  | godan other ending =>
    simp only [godan.injEq, reduceCtorEq, false_and, or_false]
    have hgodan : (godan stem .ru).dictionary = stem.text ++ "る" := rfl
    rw [← hgodan]
    constructor
    · rintro ⟨rfl, rfl⟩
      rfl
    · exact godan_dictionary_inj
  | ichidan other =>
    simp only [ichidan.injEq, reduceCtorEq, false_and, false_or, or_false]
    rw [Stem.ext_iff]
    exact (String.append_left_inj _).symm
  | suru =>
    have hd : suru.dictionary = "す" ++ "る" := by decide
    rw [hd, String.append_left_inj]
    simp [eq_comm]
  | kuru =>
    have hd : kuru.dictionary = "来" ++ "る" := by decide
    rw [hd, String.append_left_inj]
    simp [eq_comm]

/-- Different verbs with one dictionary form are readings of one stem: two godan verbs with one
dictionary form would be equal, and all other dictionary forms end in る. -/
theorem exists_readings_of_dictionary_eq {v w : Verb} (hne : v ≠ w)
    (hd : v.dictionary = w.dictionary) : ∃ stem, v ∈ readings stem ∧ w ∈ readings stem := by
  have hends : ∀ verb : Verb, (∃ stem ending, verb = godan stem ending) ∨
      ∃ stem : Stem, verb.dictionary = stem.text ++ "る" := by
    intro verb
    cases verb with
    | godan stem ending => exact Or.inl ⟨stem, ending, rfl⟩
    | ichidan stem => exact Or.inr ⟨stem, rfl⟩
    | suru => exact Or.inr ⟨⟨"す", by decide⟩, by decide⟩
    | kuru => exact Or.inr ⟨⟨"来", by decide⟩, by decide⟩
  have hread : ∀ stem : Stem, v.dictionary = stem.text ++ "る" →
      ∃ stem, v ∈ readings stem ∧ w ∈ readings stem := fun stem h =>
    ⟨stem, mem_readings_iff.2 h, mem_readings_iff.2 (hd.symm.trans h)⟩
  obtain ⟨stem, first, rfl⟩ | ⟨stem, h⟩ := hends v
  · obtain ⟨other, second, rfl⟩ | ⟨other, h⟩ := hends w
    · obtain ⟨rfl, rfl⟩ := godan_dictionary_inj hd
      exact absurd rfl hne
    · exact hread other (hd.trans h)
  · exact hread stem h

theorem dictionary_eq_iff_of_ne {v w : Verb} (hne : v ≠ w) :
    v.dictionary = w.dictionary ↔ ∃ stem, v ∈ readings stem ∧ w ∈ readings stem := by
  constructor
  · exact exists_readings_of_dictionary_eq hne
  · intro h
    obtain ⟨stem, hv, hw⟩ := h
    rw [mem_readings_iff.1 hv, mem_readings_iff.1 hw]

/-! ### Imperatives of readings -/

/-- A stem that no irregular verb has is read as a godan or as an ichidan verb, and the imperatives
of these differ in れ and ろ. -/
theorem eq_of_imperative_eq_of_regular {v w : Verb} {stem : Stem} (hs : stem.text ≠ "す")
    (hk : stem.text ≠ "来") (hv : v ∈ readings stem) (hw : w ∈ readings stem)
    {mine yours : Causative} (hi : v.textIn mine .imperative = w.textIn yours .imperative) :
    v = w := by
  have hregular : ∀ verb ∈ readings stem, verb = godan stem .ru ∨ verb = ichidan stem := by
    intro verb hverb
    rcases mem_readings.1 hverb with h | h | h | h
    · exact Or.inl h
    · exact Or.inr h
    · exact absurd h.2 hs
    · exact absurd h.2 hk
  have hdiffer : ∀ causative other,
      (godan stem .ru).textIn causative .imperative ≠ (ichidan stem).textIn other .imperative := by
    intro causative other h
    have hkana := (String.append_right_inj stem.text).1 h
    revert hkana
    cases other <;> decide
  rcases hregular v hv with rfl | rfl <;> rcases hregular w hw with rfl | rfl
  · rfl
  · exact absurd hi (hdiffer mine yours)
  · exact absurd hi.symm (hdiffer yours mine)
  · rfl

/-- Readings of one stem with one imperative are equal. The two stems that irregular verbs share
with regular ones are looked at on their own, as they have three readings each. -/
theorem eq_of_imperative_eq {v w : Verb} {stem : Stem} (hv : v ∈ readings stem)
    (hw : w ∈ readings stem) {mine yours : Causative}
    (hi : v.textIn mine .imperative = w.textIn yours .imperative) : v = w := by
  by_cases hs : stem.text = "す"
  · obtain rfl : stem = ⟨"す", by decide⟩ := Stem.ext hs
    have hall : ∀ v ∈ readings ⟨"す", by decide⟩, ∀ w ∈ readings ⟨"す", by decide⟩,
        v.textIn mine .imperative = w.textIn yours .imperative → v = w := by
      cases mine <;> cases yours <;> decide
    exact hall v hv w hw hi
  · by_cases hk : stem.text = "来"
    · obtain rfl : stem = ⟨"来", by decide⟩ := Stem.ext hk
      have hall : ∀ v ∈ readings ⟨"来", by decide⟩, ∀ w ∈ readings ⟨"来", by decide⟩,
          v.textIn mine .imperative = w.textIn yours .imperative → v = w := by
        cases mine <;> cases yours <;> decide
      exact hall v hv w hw hi
    · exact eq_of_imperative_eq_of_regular hs hk hv hw hi

/-- A verb is told by its dictionary form and its imperative. -/
theorem eq_of_dictionary_of_imperative {v w : Verb} (hd : v.dictionary = w.dictionary)
    {mine yours : Causative} (hi : v.textIn mine .imperative = w.textIn yours .imperative) :
    v = w := by
  refine Decidable.byContradiction fun hne => ?_
  obtain ⟨stem, hv, hw⟩ := exists_readings_of_dictionary_eq hne hd
  exact hne (eq_of_imperative_eq hv hw hi)

end Verb

/-! ### Adjectives -/

namespace Adjective

theorem textIn?_basic (adjective : Adjective) :
    adjective.textIn? .basic = some (Word.adjective adjective).citation := by
  rw [← Word.text?_adjective .collapsed]
  exact (Word.adjective adjective).text?_citationForm .collapsed

/-- The い of one class is not the な of the other. -/
theorem append_i_ne_append_na (stem other : Stem) : stem.text ++ "い" ≠ other.text ++ "な" := by
  intro h
  have hkana := (append_inj_of_length_right (by decide) h).2
  exact absurd hkana (by decide)

/-- An adjective of either class is told by the text by which it is cited. -/
theorem eq_of_citation_eq {a b : Adjective}
    (hc : (Word.adjective a).citation = (Word.adjective b).citation) : a = b := by
  cases a with
  | i stem irregular hirregular =>
    cases b with
    | i other mark hmark =>
      exact i_eq_i_iff.2 (Stem.ext ((String.append_left_inj _).1 hc))
    | na other => exact absurd hc (append_i_ne_append_na stem other)
  | na stem =>
    cases b with
    | i other mark hmark => exact absurd hc.symm (append_i_ne_append_na other stem)
    | na other => exact congrArg na (Stem.ext ((String.append_left_inj _).1 hc))

end Adjective

/-! ### Telling words apart -/

namespace Conjugator

/-- **Verbs with one dictionary form are told apart by their imperatives.** Different verbs share a
dictionary form exactly when they are readings of one stem with る behind it. Their imperatives then
differ under all settings, so that a verb is told by its dictionary form and its imperative; and an
adjective of either class is told by its basic form alone. -/
theorem homographs_told_apart :
    (∀ v w : Verb, v ≠ w →
      (v.dictionary = w.dictionary ↔
        ∃ stem, v ∈ Verb.readings stem ∧ w ∈ Verb.readings stem)) ∧
    (∀ (mine yours : Settings) (v w : Verb), v ≠ w → v.dictionary = w.dictionary →
      ∃ first second, (ofSettings mine).Makes (.verb v) (.verb .imperative) first ∧
        (ofSettings yours).Makes (.verb w) (.verb .imperative) second ∧ first ≠ second) ∧
    (∀ (mine yours : Settings) (v w : Verb), ∃ cited other first second,
      (ofSettings mine).Makes (.verb v) (.verb .dictionary) cited ∧
      (ofSettings yours).Makes (.verb w) (.verb .dictionary) other ∧
      (ofSettings mine).Makes (.verb v) (.verb .imperative) first ∧
      (ofSettings yours).Makes (.verb w) (.verb .imperative) second ∧
      (cited = other → first = second → v = w)) ∧
    (∀ (mine yours : Settings) (a b : Adjective), ∃ first second,
      (ofSettings mine).Makes (.adjective a) (.adjective .basic) first ∧
      (ofSettings yours).Makes (.adjective b) (.adjective .basic) second ∧
      (first = second → a = b)) := by
  refine ⟨fun v w => Verb.dictionary_eq_iff_of_ne, fun mine yours v w hne hd => ?_,
    fun mine yours v w => ?_, fun mine yours a b => ?_⟩
  · refine ⟨_, _, makes_verb_iff.2 rfl, makes_verb_iff.2 rfl, fun hi => hne ?_⟩
    exact Verb.eq_of_dictionary_of_imperative hd hi
  · refine ⟨_, _, _, _, makes_verb_iff.2 rfl, makes_verb_iff.2 rfl, makes_verb_iff.2 rfl,
      makes_verb_iff.2 rfl, fun hd hi => ?_⟩
    rw [Verb.textIn_dictionary, Verb.textIn_dictionary] at hd
    exact Verb.eq_of_dictionary_of_imperative hd hi
  · exact ⟨_, _, makes_adjective_iff.2 a.textIn?_basic, makes_adjective_iff.2 b.textIn?_basic,
      Adjective.eq_of_citation_eq⟩

end Conjugator

end JapaneseInflection

import JapaneseInflection.Proofs.Inflection.Derivation

/-!
# Forms of a word that read alike

Some forms of a verb read alike, whatever its stem: a row of the tables has the same kana in two
columns. These are all such cases, and the forms of an adjective are all different.

* `Verb.Merges` lists the pairs of forms of a verb that read alike.
* `Verb.textIn_eq_textIn_iff`: a verb has no others.
* `Adjective.eq_of_textIn?_eq`: forms of an adjective that read alike are the same.
* `Conjugator.forms_alike_iff` is the whole account.
-/

namespace JapaneseInflection

/-! ### Columns with the same kana -/

/-- The forms of ichidan verbs that share られ under the given choice. -/
def Causative.sharing : Causative → List VerbForm
  | collapsed => .causative :: sharedForms
  | split => sharedForms

/-- Two columns agree in one row of the table of godan verbs only where they agree in all rows: in
the potential and the imperative. -/
theorem GodanEnding.suffix_eq_suffix_iff (ending : GodanEnding) {first second : VerbForm}
    (hne : first ≠ second) :
    ending.suffix first = ending.suffix second ↔
      first ∈ [.potential, .imperative] ∧ second ∈ [.potential, .imperative] := by
  have hcolumns : ∀ ending ∈ all, ∀ first ∈ VerbForm.all, ∀ second ∈ VerbForm.all,
      first ≠ second → (ending.suffix first = ending.suffix second ↔
        first ∈ [.potential, .imperative] ∧ second ∈ [.potential, .imperative]) := by
    decide +kernel
  exact hcolumns ending ending.mem_all first first.mem_all second second.mem_all hne

theorem ichidanSuffix_eq_suffix_iff (causative : Causative) {first second : VerbForm}
    (hne : first ≠ second) :
    ichidanSuffix causative first = ichidanSuffix causative second ↔
      (first ∈ [.polite, .negative] ∧ second ∈ [.polite, .negative]) ∨
        (first ∈ causative.sharing ∧ second ∈ causative.sharing) := by
  have hcolumns : ∀ first ∈ VerbForm.all, ∀ second ∈ VerbForm.all, first ≠ second →
      (ichidanSuffix causative first = ichidanSuffix causative second ↔
        (first ∈ [.polite, .negative] ∧ second ∈ [.polite, .negative]) ∨
          (first ∈ causative.sharing ∧ second ∈ causative.sharing)) := by
    cases causative <;> decide +kernel
  exact hcolumns first first.mem_all second second.mem_all hne

/-! ### Verbs -/

namespace Verb

/-- The pairs of forms of a verb that read alike: potential and imperative of godan verbs, polite
and negative of all others, the forms of ichidan verbs that share られ, and potential and passive
of 来る. -/
def Merges (causative : Causative) (verb : Verb) (first second : VerbForm) : Prop :=
  (verb.wordClass = .godan ∧
    first ∈ [.potential, .imperative] ∧ second ∈ [.potential, .imperative]) ∨
  (verb.wordClass ≠ .godan ∧ first ∈ [.polite, .negative] ∧ second ∈ [.polite, .negative]) ∨
  (verb.wordClass = .ichidan ∧ first ∈ causative.sharing ∧ second ∈ causative.sharing) ∨
  (verb.wordClass = .kuru ∧ first ∈ [.potential, .passive] ∧ second ∈ [.potential, .passive])

instance (causative : Causative) (verb : Verb) (first second : VerbForm) :
    Decidable (verb.Merges causative first second) :=
  inferInstanceAs (Decidable (_ ∨ _))

/-- Two forms of a verb read alike in the listed cases only. The stem is the same in both, so that
the columns decide; irregular verbs have but one row each. -/
theorem textIn_eq_textIn_iff (causative : Causative) (verb : Verb) {first second : VerbForm}
    (hne : first ≠ second) :
    verb.textIn causative first = verb.textIn causative second ↔
      verb.Merges causative first second := by
  cases verb with
  | godan stem ending =>
    rw [textIn, textIn, String.append_right_inj, ending.suffix_eq_suffix_iff hne]
    simp [Merges, wordClass]
  | ichidan stem =>
    rw [textIn, textIn, String.append_right_inj, ichidanSuffix_eq_suffix_iff causative hne]
    simp [Merges, wordClass]
  | suru =>
    have hrow : ∀ first ∈ VerbForm.all, ∀ second ∈ VerbForm.all, first ≠ second →
        (suru.textIn causative first = suru.textIn causative second ↔
          suru.Merges causative first second) := by
      cases causative <;> decide +kernel
    exact hrow first first.mem_all second second.mem_all hne
  | kuru =>
    have hrow : ∀ first ∈ VerbForm.all, ∀ second ∈ VerbForm.all, first ≠ second →
        (kuru.textIn causative first = kuru.textIn causative second ↔
          kuru.Merges causative first second) := by
      cases causative <;> decide +kernel
    exact hrow first first.mem_all second second.mem_all hne

end Verb

/-! ### Adjectives -/

theorem naSuffix_injective {first second : AdjectiveForm} (hs : naSuffix first = naSuffix second) :
    first = second := by
  revert hs
  cases first <;> cases second <;> decide

theorem iSuffix?_injective {first second : AdjectiveForm}
    (hs : iSuffix? first = iSuffix? second) : first = second := by
  revert hs
  cases first <;> cases second <;> decide

/-- The roots of an adjective are equally long: an irregular stem is one kana, and so is よ. -/
theorem Stem.length_rootIn (stem : Stem) (form : AdjectiveForm) :
    (stem.rootIn form).length = stem.text.length := by
  unfold rootIn
  split
  case isTrue h =>
    rcases isIrregular_iff.1 h.1 with ht | ht <;> rw [ht] <;> decide
  case isFalse => rfl

namespace Adjective

/-- Forms of an adjective that read alike are the same: behind roots of one length the suffixes
would be equal. -/
theorem eq_of_textIn?_eq {adjective : Adjective} {first second : AdjectiveForm} {text : String}
    (hf : adjective.textIn? first = some text) (hs : adjective.textIn? second = some text) :
    first = second := by
  cases adjective with
  | i stem irregular hirregular =>
    obtain ⟨kana, hkana, rfl⟩ := Option.map_eq_some_iff.1 hf
    obtain ⟨other, hother, htext⟩ := Option.map_eq_some_iff.1 hs
    have hroots : (stem.rootIn second).length = (stem.rootIn first).length := by
      rw [stem.length_rootIn, stem.length_rootIn]
    obtain ⟨-, rfl⟩ := append_inj_of_length hroots htext
    exact iSuffix?_injective (hkana.trans hother.symm)
  | na stem =>
    have htext := Option.some.inj (hf.trans hs.symm)
    exact naSuffix_injective ((String.append_right_inj stem.text).1 htext)

end Adjective

/-! ### What conjugators make -/

namespace Conjugator

/-- **Two forms of a word read alike in the listed cases only.** The texts that a conjugator makes
of a verb in two different forms are equal exactly when the verb merges the forms under the chosen
causative, whatever its stem; and those of an adjective in two different forms that it has are
never equal. -/
theorem forms_alike_iff (settings : Settings) :
    (∀ (verb : Verb) (first second : VerbForm), first ≠ second →
      ∃ text other, (ofSettings settings).Makes (.verb verb) (.verb first) text ∧
        (ofSettings settings).Makes (.verb verb) (.verb second) other ∧
        (text = other ↔ verb.Merges settings.causative first second)) ∧
    (∀ (adjective : Adjective) (first second : AdjectiveForm), first ≠ second →
      adjective.wordClass.HasForm (.adjective first) →
      adjective.wordClass.HasForm (.adjective second) →
      ∃ text other, (ofSettings settings).Makes (.adjective adjective) (.adjective first) text ∧
        (ofSettings settings).Makes (.adjective adjective) (.adjective second) other ∧
        text ≠ other) := by
  refine ⟨fun verb first second hne => ?_, fun adjective first second hne hf hs => ?_⟩
  · exact ⟨_, _, makes_verb_iff.2 rfl, makes_verb_iff.2 rfl,
      verb.textIn_eq_textIn_iff settings.causative hne⟩
  · have htext : ∀ form, adjective.wordClass.HasForm (.adjective form) →
        ∃ text, adjective.textIn? form = some text := by
      intro form h
      have hsome := ((Word.adjective adjective).text?_isSome_iff .collapsed (.adjective form)).2 h
      rw [Word.text?_adjective] at hsome
      exact Option.isSome_iff_exists.1 hsome
    obtain ⟨text, ht⟩ := htext first hf
    obtain ⟨other, ho⟩ := htext second hs
    refine ⟨text, other, makes_adjective_iff.2 ht, makes_adjective_iff.2 ho, ?_⟩
    rintro rfl
    exact hne (Adjective.eq_of_textIn?_eq ht ho)

end Conjugator

end JapaneseInflection

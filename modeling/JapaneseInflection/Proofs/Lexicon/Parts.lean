import JapaneseInflection.Proofs.Lexicon.Grammar

/-!
# Words and their parts

A regular word is built from a stem, which must not be empty, and an ending of its class. For each
constructor one lemma says which parts it takes and what it builds from them.
-/

namespace JapaneseInflection

/-- What is built from a text by looking at the stem first is built from a stem. -/
theorem Stem.ofText?_bind_eq_ok_iff {α : Type} {wordClass : WordClass} {text : String}
    {build : Stem → Except Error α} {built : α} :
    (ofText? wordClass text).bind build = .ok built ↔
      ∃ stem : Stem, stem.text = text ∧ build stem = .ok built := by
  constructor
  · intro h
    by_cases hne : text ≠ ""
    · rw [ofText?, dif_pos hne] at h
      exact ⟨⟨text, hne⟩, rfl, h⟩
    · rw [ofText?, dif_neg hne] at h
      cases h
  · rintro ⟨stem, rfl, h⟩
    rw [ofText?_text]
    exact h

/-- What is built under a condition is built exactly where the condition holds. -/
theorem ite_error_eq_ok_iff {α : Type} {condition : Prop} [Decidable condition] {value built : α}
    {cause : Error} :
    (if condition then Except.ok value else .error cause) = .ok built ↔
      condition ∧ built = value := by
  by_cases hcondition : condition
  · rw [if_pos hcondition, and_iff_right hcondition]
    exact ⟨fun h => (Except.ok.inj h).symm, fun h => congrArg Except.ok h.symm⟩
  · rw [if_neg hcondition]
    constructor
    · intro h
      cases h
    · intro h
      exact absurd h.1 hcondition

theorem Verb.godan?_eq_ok_iff {text ending : String} {verb : Verb} :
    godan? text ending = .ok verb ↔
      ∃ (stem : Stem) (kana : GodanEnding),
        stem.text = text ∧ ending = kana.kana ∧ verb = godan stem kana := by
  constructor
  · intro h
    obtain ⟨stem, htext, hbuild⟩ := Stem.ofText?_bind_eq_ok_iff.1 h
    cases hread : GodanEnding.ofText? ending with
    | none =>
      rw [hread] at hbuild
      cases hbuild
    | some kana =>
      rw [hread] at hbuild
      exact ⟨stem, kana, htext, GodanEnding.ofText?_eq_some_iff.1 hread,
        (Except.ok.inj hbuild).symm⟩
  · rintro ⟨stem, kana, rfl, hkana, rfl⟩
    rw [godan?_text, GodanEnding.ofText?_eq_some_iff.2 hkana]

theorem Verb.ichidan?_eq_ok_iff {text ending : String} {verb : Verb} :
    ichidan? text ending = .ok verb ↔
      ∃ stem : Stem, stem.text = text ∧ ending = ichidanEnding ∧ verb = ichidan stem := by
  constructor
  · intro h
    obtain ⟨stem, htext, hbuild⟩ := Stem.ofText?_bind_eq_ok_iff.1 h
    obtain ⟨hending, hbuilt⟩ := ite_error_eq_ok_iff.1 hbuild
    exact ⟨stem, htext, hending, hbuilt⟩
  · rintro ⟨stem, rfl, rfl, rfl⟩
    exact ichidan?_text stem ichidanEnding

theorem Adjective.i?_eq_ok_iff {text ending : String} {adjective : Adjective} :
    i? text ending = .ok adjective ↔
      ∃ stem : Stem,
        stem.text = text ∧ ending = iEnding ∧ adjective = i stem stem.isIrregular rfl := by
  constructor
  · intro h
    obtain ⟨stem, htext, hbuild⟩ := Stem.ofText?_bind_eq_ok_iff.1 h
    obtain ⟨hending, hbuilt⟩ := ite_error_eq_ok_iff.1 hbuild
    exact ⟨stem, htext, hending, hbuilt⟩
  · rintro ⟨stem, rfl, rfl, rfl⟩
    exact i?_text stem iEnding

theorem Adjective.na?_eq_ok_iff {text : String} {adjective : Adjective} :
    na? text = .ok adjective ↔ ∃ stem : Stem, stem.text = text ∧ adjective = na stem := by
  constructor
  · intro h
    obtain ⟨stem, htext, hbuild⟩ := Stem.ofText?_bind_eq_ok_iff.1 h
    exact ⟨stem, htext, (Except.ok.inj hbuild).symm⟩
  · rintro ⟨stem, rfl, rfl⟩
    exact na?_text stem

end JapaneseInflection

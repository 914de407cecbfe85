import JapaneseInflection.Proofs.Lexicon.Parts

/-!
# Compounds

A text in front of the stem of a word makes a longer word of the same class, as 話し出す is made from
出す and かっこいい from いい.

* `Word.Compounds` relates a word to the one that is built with a text in front of its stem.
* `Word.compound?` computes that word, as `Word.compounds_iff` says.
* `Stem.isIrregular_behind`: with a text in front no stem is irregular any more.
-/

namespace JapaneseInflection

/-! ### Texts in front of a stem -/

/-- The stem with a text in front. -/
def Stem.behind (front : String) (stem : Stem) : Stem where
  text := front ++ stem.text
  text_ne := fun h => stem.text_ne (String.append_eq_empty_iff.1 h).2

/-- The irregular stems have one character, and so none of them has a text in front. -/
theorem Stem.isIrregular_behind {front : String} (hf : front ≠ "") (stem : Stem) :
    (stem.behind front).isIrregular = false := by
  have hfront : front.length ≠ 0 := mt String.length_eq_zero_iff.1 hf
  have hstem : stem.text.length ≠ 0 := mt String.length_eq_zero_iff.1 stem.text_ne
  have hlong : ∀ text : String, text.length = 1 → front ++ stem.text ≠ text := by
    intro text hone h
    rw [← h, String.length_append] at hone
    omega
  have hi : front ++ stem.text ≠ "い" := hlong "い" (by decide)
  have hyo : front ++ stem.text ≠ "よ" := hlong "よ" (by decide)
  simp [isIrregular, behind, hi, hyo]

/-- The verb with a text in front of its stem, if it has a stem. -/
def Verb.compound? (front : String) : Verb → Option Verb
  | godan stem ending => some (godan (stem.behind front) ending)
  | ichidan stem => some (ichidan (stem.behind front))
  | suru | kuru => none

/-- The adjective with a text in front of its stem. -/
def Adjective.compound (front : String) : Adjective → Adjective
  | i stem _ _ => i (stem.behind front) (stem.behind front).isIrregular rfl
  | na stem => na (stem.behind front)

/-- The word with a text in front of its stem, if it has a stem. -/
def Word.compound? (front : String) : Word → Option Word
  | verb v => (v.compound? front).map verb
  | adjective a => some (adjective (a.compound front))

theorem Adjective.isIrregular_compound {front : String} (hf : front ≠ "")
    (adjective : Adjective) : (adjective.compound front).isIrregular = false := by
  cases adjective with
  | i stem irregular hirregular => exact stem.isIrregular_behind hf
  | na stem => rfl

/-- A word that is no irregular verb has compounds. -/
theorem Word.exists_compound? (front : String) {word : Word} (hs : word.wordClass ≠ .suru)
    (hk : word.wordClass ≠ .kuru) : ∃ compound, word.compound? front = some compound := by
  rcases word with v | a
  · cases v with
    | godan stem ending => exact ⟨_, rfl⟩
    | ichidan stem => exact ⟨_, rfl⟩
    | suru => exact absurd rfl hs
    | kuru => exact absurd rfl hk
  · exact ⟨_, rfl⟩

theorem Word.wordClass_compound? {front : String} {word compound : Word}
    (hc : word.compound? front = some compound) : compound.wordClass = word.wordClass := by
  rcases word with v | a
  · cases v <;> cases hc <;> rfl
  · cases a <;> cases hc <;> rfl

/-! ### Compounds as they are built -/

/-- One constructor builds both words, the second from the stem of the first with a text in
front. -/
inductive Word.Compounds (front : String) : Word → Word → Prop
  | godan {stem ending : String} {short long : Verb} (hshort : Verb.godan? stem ending = .ok short)
      (hlong : Verb.godan? (front ++ stem) ending = .ok long) :
      Compounds front (.verb short) (.verb long)
  | ichidan {stem ending : String} {short long : Verb}
      (hshort : Verb.ichidan? stem ending = .ok short)
      (hlong : Verb.ichidan? (front ++ stem) ending = .ok long) :
      Compounds front (.verb short) (.verb long)
  | i {stem ending : String} {short long : Adjective}
      (hshort : Adjective.i? stem ending = .ok short)
      (hlong : Adjective.i? (front ++ stem) ending = .ok long) :
      Compounds front (.adjective short) (.adjective long)
  | na {stem : String} {short long : Adjective} (hshort : Adjective.na? stem = .ok short)
      (hlong : Adjective.na? (front ++ stem) = .ok long) :
      Compounds front (.adjective short) (.adjective long)

/-- The word that is built with a text in front of the stem is the compound. -/
theorem Word.compounds_iff {front : String} {word compound : Word} :
    Compounds front word compound ↔ word.compound? front = some compound := by
  constructor
  · intro h
    cases h with
    | godan hshort hlong =>
      obtain ⟨stem, kana, rfl, rfl, rfl⟩ := Verb.godan?_eq_ok_iff.1 hshort
      have hbehind := Verb.godan?_eq_ok_iff.2 ⟨stem.behind front, kana, rfl, rfl, rfl⟩
      rw [← Except.ok.inj (hbehind.symm.trans hlong)]
      rfl
    | ichidan hshort hlong =>
      obtain ⟨stem, rfl, rfl, rfl⟩ := Verb.ichidan?_eq_ok_iff.1 hshort
      have hbehind := Verb.ichidan?_eq_ok_iff.2 ⟨stem.behind front, rfl, rfl, rfl⟩
      rw [← Except.ok.inj (hbehind.symm.trans hlong)]
      rfl
    | i hshort hlong =>
      obtain ⟨stem, rfl, rfl, rfl⟩ := Adjective.i?_eq_ok_iff.1 hshort
      have hbehind := Adjective.i?_eq_ok_iff.2 ⟨stem.behind front, rfl, rfl, rfl⟩
      rw [← Except.ok.inj (hbehind.symm.trans hlong)]
      rfl
    | na hshort hlong =>
      obtain ⟨stem, rfl, rfl⟩ := Adjective.na?_eq_ok_iff.1 hshort
      have hbehind := Adjective.na?_eq_ok_iff.2 ⟨stem.behind front, rfl, rfl⟩
      rw [← Except.ok.inj (hbehind.symm.trans hlong)]
      rfl
  · intro h
    rcases word with v | a
    · cases v with
      | godan stem kana =>
        cases h
        exact .godan (Verb.godan?_eq_ok_iff.2 ⟨stem, kana, rfl, rfl, rfl⟩)
          (Verb.godan?_eq_ok_iff.2 ⟨stem.behind front, kana, rfl, rfl, rfl⟩)
      | ichidan stem =>
        cases h
        exact .ichidan (Verb.ichidan?_eq_ok_iff.2 ⟨stem, rfl, rfl, rfl⟩)
          (Verb.ichidan?_eq_ok_iff.2 ⟨stem.behind front, rfl, rfl, rfl⟩)
      | suru => cases h
      | kuru => cases h
    · cases a with
      | i stem irregular hirregular =>
        subst hirregular
        cases h
        exact .i (Adjective.i?_eq_ok_iff.2 ⟨stem, rfl, rfl, rfl⟩)
          (Adjective.i?_eq_ok_iff.2 ⟨stem.behind front, rfl, rfl, rfl⟩)
      | na stem =>
        cases h
        exact .na (Adjective.na?_eq_ok_iff.2 ⟨stem, rfl, rfl⟩)
          (Adjective.na?_eq_ok_iff.2 ⟨stem.behind front, rfl, rfl⟩)

end JapaneseInflection

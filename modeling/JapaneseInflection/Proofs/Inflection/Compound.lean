import JapaneseInflection.Proofs.Inflection.Texts
import JapaneseInflection.Proofs.Inflection.Totality
import JapaneseInflection.Proofs.Lexicon.Compound

/-!
# Forms of compounds

A compound conjugates like the word that it is made from, with the text in front. Only compounds of
いい and よい leave them: かっこいい has the past かっこいかった, where いい has よかった.

* `Word.StandsOnRoot` lists the forms of いい and よい that their compounds do not follow.
* `Word.text?_compound?`: in all other forms putting a text in front of the stem puts it in front of
  the form.
* `Conjugator.text_compound` is the whole account of words and the compounds that are built from
  the same parts.
-/

namespace JapaneseInflection

/-- The form stands on the root よ: it is the past or the negative of いい or よい. -/
def Word.StandsOnRoot (word : Word) (form : Form) : Prop :=
  ∃ adjective : Adjective, word = .adjective adjective ∧ adjective.isIrregular = true ∧
    (form = .adjective .past ∨ form = .adjective .negative)

/-! ### Texts -/

theorem Stem.rootIn_of_regular {stem : Stem} (hs : stem.isIrregular = false)
    (form : AdjectiveForm) : stem.rootIn form = stem.text := by
  rw [rootIn, if_neg]
  rintro ⟨hirregular, -⟩
  rw [hs] at hirregular
  cases hirregular

/-- In every form a compound verb has the text in front. -/
theorem Verb.textIn_compound? {front : String} {verb compound : Verb}
    (hc : verb.compound? front = some compound) (causative : Causative) (form : VerbForm) :
    compound.textIn causative form = front ++ verb.textIn causative form := by
  cases verb with
  | godan stem ending =>
    cases hc
    exact String.append_assoc
  | ichidan stem =>
    cases hc
    exact String.append_assoc
  | suru => cases hc
  | kuru => cases hc

/-- The forms of a compound adjective have the text in front of the written stem. -/
theorem Adjective.textIn?_compound_i {front : String} (hf : front ≠ "") (stem : Stem)
    (irregular : Bool) (hirregular : irregular = stem.isIrregular) (form : AdjectiveForm) :
    ((i stem irregular hirregular).compound front).textIn? form =
      (iSuffix? form).map (front ++ stem.text ++ ·) := by
  have hroot := Stem.rootIn_of_regular (stem.isIrregular_behind hf) form
  rw [compound, textIn?, hroot]
  rfl

theorem Adjective.textIn?_compound {front : String} (hf : front ≠ "") {adjective : Adjective}
    {form : AdjectiveForm}
    (hn : ¬ (Word.adjective adjective).StandsOnRoot (.adjective form)) :
    (adjective.compound front).textIn? form = (adjective.textIn? form).map (front ++ ·) := by
  cases adjective with
  | i stem irregular hirregular =>
    have hroot : stem.rootIn form = stem.text := by
      refine if_neg fun h => hn ⟨i stem irregular hirregular, rfl, hirregular.trans h.1, ?_⟩
      exact h.2.imp (congrArg Form.adjective) (congrArg Form.adjective)
    rw [textIn?_compound_i hf, textIn?, hroot, Option.map_map]
    exact Option.map_congr fun suffix _ => String.append_assoc
  | na stem => exact congrArg some String.append_assoc

/-- Where the word does not stand on the root よ, its compound has the text in front of the same
form. -/
theorem Word.text?_compound? {front : String} (hf : front ≠ "") {word compound : Word}
    (hc : word.compound? front = some compound) (causative : Causative) {form : Form}
    (hn : ¬ word.StandsOnRoot form) :
    compound.text? causative form = (word.text? causative form).map (front ++ ·) := by
  rcases word with v | a
  · obtain ⟨long, hlong, rfl⟩ := Option.map_eq_some_iff.1 hc
    cases form with
    | verb form =>
      rw [text?_verb, text?_verb, Verb.textIn_compound? hlong]
      rfl
    | adjective form => rfl
  · obtain rfl := Option.some.inj hc
    cases form with
    | verb form => rfl
    | adjective form => rw [text?_adjective, text?_adjective, Adjective.textIn?_compound hf hn]

/-! ### What conjugators make -/

namespace Conjugator

/-- **Compounds conjugate like the word they are made from.** Every word but する and 来る has a
compound with any text in front. The two are refused the same forms by the same errors, and where a
text of the word is made, the same text with the text in front is made of the compound. The
exceptions are the past and the negative of いい and よい: no compound is irregular, and so it keeps
the written stem in them. -/
theorem text_compound (settings : Settings) {front : String} (hf : front ≠ "") :
    let conjugator := ofSettings settings
    (∀ word : Word, word.wordClass ≠ .suru → word.wordClass ≠ .kuru →
      ∃ compound, word.Compounds front compound) ∧
    (∀ word compound : Word, word.Compounds front compound →
      compound.wordClass = word.wordClass ∧
      (∀ form cause, (conjugator.word compound form).value = .error cause ↔
        (conjugator.word word form).value = .error cause) ∧
      (∀ form text, ¬ word.StandsOnRoot form → conjugator.Makes word form text →
        conjugator.Makes compound form (front ++ text))) ∧
    (∀ short long : Adjective, Word.Compounds front (.adjective short) (.adjective long) →
      long.isIrregular = false ∧
      (short.isIrregular = true →
        conjugator.Makes (.adjective long) (.adjective .past)
          (front ++ short.stem.text ++ "かった") ∧
        conjugator.Makes (.adjective long) (.adjective .negative)
          (front ++ short.stem.text ++ "くない"))) := by
  intro conjugator
  refine ⟨?_, ?_, ?_⟩
  · intro word hs hk
    obtain ⟨compound, hc⟩ := word.exists_compound? front hs hk
    exact ⟨compound, Word.compounds_iff.2 hc⟩
  · intro word compound h
    have hc := Word.compounds_iff.1 h
    have hclass := Word.wordClass_compound? hc
    refine ⟨hclass, ?_, ?_⟩
    · intro form cause
      rw [value_eq_error_iff, value_eq_error_iff, hclass]
    · intro form text hn ht
      rw [makes_iff] at ht ⊢
      rw [Word.text?_compound? hf hc _ hn, ht]
      rfl
  · intro short long h
    obtain rfl : short.compound front = long :=
      Word.adjective.inj (Option.some.inj (Word.compounds_iff.1 h))
    refine ⟨short.isIrregular_compound hf, ?_⟩
    intro hirregular
    cases short with
    | i stem irregular hirregular =>
      rw [makes_adjective_iff, makes_adjective_iff, Adjective.textIn?_compound_i hf,
        Adjective.textIn?_compound_i hf]
      exact ⟨rfl, rfl⟩
    | na stem => cases hirregular

/-- かっこいい is built with かっこ in front of the stem of いい, and leaves its past. -/
theorem text_compound_of_kakkoii :
    "かっこ" ≠ "" ∧
    Word.Compounds "かっこ" (.adjective .ii) (.adjective (Adjective.ii.compound "かっこ")) ∧
    (ofSettings {}).Makes (.adjective .ii) (.adjective .past) "よかった" ∧
    (ofSettings {}).Makes (.adjective (Adjective.ii.compound "かっこ")) (.adjective .past)
      "かっこいかった" := by
  have hf : "かっこ" ≠ "" := by decide
  have hbuilt : Word.Compounds "かっこ" (.adjective .ii)
      (.adjective (Adjective.ii.compound "かっこ")) := Word.compounds_iff.2 rfl
  have hii : (ofSettings {}).Makes (.adjective .ii) (.adjective .past) "よかった" :=
    makes_adjective_iff.2 (by decide)
  obtain ⟨-, hpast, -⟩ := ((text_compound {} hf).2.2 .ii _ hbuilt).imp_right fun h => h rfl
  have htext : "かっこ" ++ Adjective.ii.stem.text ++ "かった" = "かっこいかった" := by decide
  rw [htext] at hpast
  exact ⟨hf, hbuilt, hii, hpast⟩

end Conjugator

end JapaneseInflection

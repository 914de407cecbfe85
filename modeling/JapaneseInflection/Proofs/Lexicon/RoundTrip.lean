import JapaneseInflection.Proofs.Inflection.Paradigm
import JapaneseInflection.Proofs.Lexicon.Grammar

/-!
# From dictionary forms to words and back

A word is cited by its dictionary form, or by its basic form if it is an adjective. Reading and
citing are inverse to each other, up to the な that a na-adjective may be written without.

* `Names.citation_eq`: a word that is read from a text is cited by that text.
* `Word.names_citation`: a word is named by the text by which it is cited.
* `Word.roundTrip` says both of the texts that a conjugator makes.
-/

namespace JapaneseInflection

/-- The form by which a word is cited. -/
def Word.citationForm : Word → Form
  | .verb _ => .verb .dictionary
  | .adjective _ => .adjective .basic

/-- The text by which a word is cited. -/
def Word.citation : Word → String
  | .verb v => v.dictionary
  | .adjective (.i stem _ _) => stem.text ++ "い"
  | .adjective (.na stem) => stem.text ++ "な"

/-- The text by which a word of a class is cited that is read from the given text: a na-adjective
is always cited with な. -/
def WordClass.citationOf (wordClass : WordClass) (text : String) : String :=
  if wordClass = .naAdjective ∧ text.toList.getLast? ≠ some 'な' then text ++ "な" else text

theorem Word.text?_citationForm (causative : Causative) (word : Word) :
    word.text? causative word.citationForm = some word.citation := by
  rcases word with v | a
  · cases v with
    | godan stem ending => exact congrArg some (Spelling.text_singleton stem.text ending.kana)
    | ichidan stem => cases causative <;> rfl
    | suru => rfl
    | kuru => rfl
  · cases a with
    | i stem irregular hirregular => cases irregular <;> rfl
    | na stem => rfl

/-- A conjugator makes the text by which a word is cited. -/
theorem Conjugator.exists_citation (conjugator : Conjugator) (word : Word) :
    ∃ made, (conjugator.word word word.citationForm).value = .ok made ∧
      made.text = word.citation :=
  value_word_of_text (word.text?_citationForm conjugator.causative)

/-- A word is named by the text by which it is cited. -/
theorem Word.names_citation (word : Word) : Names word.wordClass word.citation word := by
  rcases word with v | a
  · cases v with
    | godan stem ending => exact Names.godan stem ending
    | ichidan stem => exact Names.ichidan stem
    | suru => exact Names.suru
    | kuru => exact Names.kuru
  · cases a with
    | i stem irregular hirregular => exact Names.i stem irregular hirregular
    | na stem => exact Names.na stem

/-- A word that is read from a text is cited by that text. -/
theorem Names.citation_eq {wordClass : WordClass} {text : String} {word : Word}
    (hn : Names wordClass text word) : word.citation = wordClass.citationOf text := by
  cases hn with
  | godan stem ending => rfl
  | ichidan stem => rfl
  | suru => rfl
  | kuru => rfl
  | i stem irregular hirregular => rfl
  | na stem =>
    have hlast := getLast?_append_singleton stem.text 'な'
    exact (if_neg fun h => h.2 hlast).symm
  | bare stem hbare =>
    exact (if_pos ⟨rfl, fun h => hbare _ (eq_append_of_getLast? h)⟩).symm

/-- **Reading and citing are inverse to each other.** A word that is read from a text has the class
asked for and is cited by that text, also by a verb itself and by its paradigm; and every word is
read back, with all that it stores, from the text by which it is cited. -/
theorem Word.roundTrip (settings : Settings) :
    (∀ wordClass text word, Word.ofDictionary? wordClass text = .ok word →
      word.wordClass = wordClass ∧
      (∃ made, ((Conjugator.ofSettings settings).word word word.citationForm).value = .ok made ∧
        made.text = wordClass.citationOf text) ∧
      ∀ verb, word = .verb verb → verb.dictionary = text ∧
        ∃ paradigm, ((Conjugator.ofSettings settings).verbParadigm verb).value = .ok paradigm ∧
          paradigm.dictionary = text) ∧
    (∀ word : Word, ∃ made,
      ((Conjugator.ofSettings settings).word word word.citationForm).value = .ok made ∧
        Word.ofDictionary? word.wordClass made.text = .ok word) := by
  refine ⟨fun wordClass text word h => ?_, fun word => ?_⟩
  · have hn := Word.ofDictionary?_eq_ok_iff.1 h
    obtain ⟨made, hm, htext⟩ := (Conjugator.ofSettings settings).exists_citation word
    refine ⟨hn.wordClass_eq, ⟨made, hm, htext.trans hn.citation_eq⟩, ?_⟩
    intro verb hverb
    subst hverb
    have hna : ¬(wordClass = .naAdjective ∧ text.toList.getLast? ≠ some 'な') := by
      intro h
      rw [h.1] at hn
      cases hn
    have hdictionary : verb.dictionary = text := hn.citation_eq.trans (if_neg hna)
    obtain ⟨paradigm, hp, hkept, -⟩ := (Conjugator.ofSettings settings).exists_verbParadigm verb
    exact ⟨hdictionary, paradigm, hp, hkept.trans hdictionary⟩
  · obtain ⟨made, hm, htext⟩ := (Conjugator.ofSettings settings).exists_citation word
    refine ⟨made, hm, ?_⟩
    rw [htext]
    exact word.names_citation.ofDictionary?_eq

end JapaneseInflection

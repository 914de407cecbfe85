import JapaneseInflection.Proofs.Inflection.Keyword
import JapaneseInflection.Proofs.Inflection.Totality

/-!
# Keywords that are read for a class

Verbs and adjectives share some keywords, so a keyword alone does not tell a form: the class for
which it is read does. The form that it names fits every word of the class, and the form of the same
keyword on the other side fits none.

* `Word.Matches`: a word and a form are of one kind.
* `WordClass.hasForm_iff_of_ofKeyword?`: which of the forms that are named the class has.
* `Form.shared` lists the keywords that name forms of both kinds.
* `Conjugator.keyword_resolves` is the whole account.
-/

namespace JapaneseInflection

/-! ### Words and forms of one kind -/

/-- The word is a verb and the form one of verbs, or both are of adjectives. -/
inductive Word.Matches : Word → Form → Prop
  | verb (v : Verb) (form : VerbForm) : Matches (.verb v) (.verb form)
  | adjective (a : Adjective) (form : AdjectiveForm) : Matches (.adjective a) (.adjective form)

theorem Word.matches_iff {word : Word} {form : Form} :
    word.Matches form ↔ form.isVerbal = word.wordClass.isVerb := by
  rw [← Word.mem_forms_iff]
  rcases word with v | a <;> rcases form with f | f
  · exact iff_of_true (.verb v f) (Form.mem_map_verb.2 rfl)
  · exact iff_of_false (fun h => by cases h) (by simp [forms])
  · exact iff_of_false (fun h => by cases h) (by simp [forms])
  · exact iff_of_true (.adjective a f) (Form.mem_map_adjective.2 rfl)

/-- Forms of one kind are told by their keywords. -/
theorem Form.eq_of_keyword_eq {form other : Form} (hkind : form.isVerbal = other.isVerbal)
    (hkeyword : form.keyword = other.keyword) : form = other := by
  rcases form with f | f <;> rcases other with g | g
  · exact congrArg verb (VerbForm.keyword_injective hkeyword)
  · cases hkind
  · cases hkind
  · exact congrArg adjective (AdjectiveForm.keyword_injective hkeyword)

/-- The keywords that name a form of verbs and a form of adjectives. -/
def Form.shared : List String := ["polite", "te", "past", "negative"]

theorem Form.mem_shared_iff {text : String} :
    text ∈ shared ↔
      ∃ (f : VerbForm) (g : AdjectiveForm), f.keyword = text ∧ g.keyword = text := by
  constructor
  · intro h
    simp only [shared, List.mem_cons, List.not_mem_nil, or_false] at h
    rcases h with rfl | rfl | rfl | rfl
    · exact ⟨.polite, .polite, rfl, rfl⟩
    · exact ⟨.te, .te, rfl, rfl⟩
    · exact ⟨.past, .past, rfl, rfl⟩
    · exact ⟨.negative, .negative, rfl, rfl⟩
  · rintro ⟨f, g, hf, rfl⟩
    revert hf
    cases g
    case basic => cases f <;> decide
    all_goals exact fun _ => by decide

/-! ### Forms that a class has -/

/-- Of the forms that are named for a class, it has all but the te of i-adjectives. -/
theorem WordClass.hasForm_iff_of_ofKeyword? {wordClass : WordClass} {text : String} {form : Form}
    (hk : Form.ofKeyword? wordClass text = some form) :
    wordClass.HasForm form ↔ ¬ (wordClass = .iAdjective ∧ text = "te") := by
  obtain ⟨hkind, rfl⟩ := Form.ofKeyword?_eq_some_iff_isVerbal.1 hk
  rw [HasForm, and_iff_right hkind]
  refine not_congr (and_congr_right fun hclass => ?_)
  constructor
  · rintro rfl
    rfl
  · intro hte
    subst hclass
    exact Form.eq_of_keyword_eq hkind hte

namespace Conjugator

/-- **A keyword that is read for a class names a form that fits the class.** It names the one form
of the kind of the class that has it as its keyword. Conjugating a word of the class into that form
goes by its kind; it fails for the te of i-adjectives only, and names the class and the keyword. The
keywords of two forms are known, and a word of the class is always refused the form of the other
kind with the keyword, by the same names. -/
theorem keyword_resolves (settings : Settings) (wordClass : WordClass) (text : String) :
    (∀ form, Form.ofKeyword? wordClass text = some form ↔
      form.isVerbal = wordClass.isVerb ∧ form.keyword = text) ∧
    (∀ form other : Form, form.isVerbal = wordClass.isVerb → other.isVerbal = wordClass.isVerb →
      form.keyword = text → other.keyword = text → form = other) ∧
    (∀ word : Word, word.wordClass = wordClass → ∀ form,
      Form.ofKeyword? wordClass text = some form →
        word.Matches form ∧
        ((∃ made, ((ofSettings settings).word word form).value = .ok made) ↔
          ¬ (wordClass = .iAdjective ∧ text = "te")) ∧
        ∀ cause, ((ofSettings settings).word word form).value = .error cause →
          cause = .unsupportedForm wordClass text) ∧
    (text ∈ Form.shared ↔
      ∃ (f : VerbForm) (g : AdjectiveForm), f.keyword = text ∧ g.keyword = text) ∧
    (∀ word : Word, word.wordClass = wordClass → ∀ form : Form,
      form.isVerbal ≠ wordClass.isVerb → form.keyword = text →
        ((ofSettings settings).word word form).value =
          .error (.unsupportedForm wordClass text)) := by
  refine ⟨fun form => Form.ofKeyword?_eq_some_iff_isVerbal, fun form other hform hother hk ho => ?_,
    fun word hclass form hk => ?_, Form.mem_shared_iff, fun word hclass form hkind hk => ?_⟩
  · exact Form.eq_of_keyword_eq (hform.trans hother.symm) (hk.trans ho.symm)
  · subst hclass
    obtain ⟨hkind, hkeyword⟩ := Form.ofKeyword?_eq_some_iff_isVerbal.1 hk
    refine ⟨Word.matches_iff.2 hkind, ?_, fun cause he => ?_⟩
    · rw [exists_made_iff, WordClass.hasForm_iff_of_ofKeyword? hk]
    · rw [error_of_value_word he, hkeyword]
  · subst hclass hk
    exact value_of_not_hasForm _ fun h => hkind h.1

end Conjugator

end JapaneseInflection

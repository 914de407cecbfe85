import JapaneseInflection.Inflection.Paradigm
import JapaneseInflection.Proofs.Inflection.Totality

/-!
# What a paradigm holds

A paradigm is filled form by form. The run of the filling is told once, for any attempts whose
failures may all be passed over; the paradigms of verbs and of adjectives are two cases of it.

* `Word.text?` is the text of a word in a form, and `Word.entries` lists the forms that have one.
* `Paradigm.value_fill`: a filling ends, and each given form then holds what its attempt made.
* `Conjugator.exists_verbParadigm` and `Conjugator.exists_adjectiveParadigm`: a word has a
  paradigm, and it holds exactly the texts of the word.
* `Conjugator.entries_eq`: both paradigms list the entries of the word.
-/

namespace JapaneseInflection

/-- The text of a word in a form, if it has the form. -/
def Word.text? (causative : Causative) (word : Word) (form : Form) : Option String :=
  (word.spelling? causative form).map Spelling.text

/-- A form has a text exactly when a conjugator makes fragments with that text. -/
theorem Conjugator.value_word_of_text {conjugator : Conjugator} {word : Word} {form : Form}
    {text : String} (ht : word.text? conjugator.causative form = some text) :
    ∃ made : Inflected, (conjugator.word word form).value = .ok made ∧ made.text = text := by
  obtain ⟨spelling, hs, rfl⟩ := Option.map_eq_some_iff.1 ht
  obtain ⟨made, hmade, -, -, htext⟩ := value_word_of_some hs
  exact ⟨made, hmade, htext⟩

/-- A form without a text is refused. -/
theorem Conjugator.value_word_of_no_text {conjugator : Conjugator} {word : Word} {form : Form}
    (ht : word.text? conjugator.causative form = none) :
    (conjugator.word word form).value =
      .error (.unsupportedForm word.wordClass form.keyword) :=
  value_word_of_none (Option.map_eq_none_iff.1 ht)

theorem Word.text?_isSome_iff (causative : Causative) (word : Word) (form : Form) :
    (word.text? causative form).isSome ↔ word.wordClass.HasForm form := by
  rw [Word.text?, Option.isSome_map, Word.spelling?_isSome_iff]

/-! ### Filling -/

namespace Paradigm

variable {F : Type} [DecidableEq F]

theorem value_fill_of_ok {attempt : F → Recorded (Except Error Inflected)}
    {passOver : Error → Bool} {form : F} {made : Inflected}
    (hm : (attempt form).value = .ok made) (forms : List F) (paradigm : Paradigm F) :
    (fill attempt passOver (form :: forms) paradigm).value =
      (fill attempt passOver forms (paradigm.insert form made.text)).value := by
  rw [fill, Recorded.value_bind, hm]

theorem value_fill_of_error {attempt : F → Recorded (Except Error Inflected)}
    {passOver : Error → Bool} {form : F} {cause : Error}
    (he : (attempt form).value = .error cause) (hp : passOver cause = true) (forms : List F)
    (paradigm : Paradigm F) :
    (fill attempt passOver (form :: forms) paradigm).value =
      (fill attempt passOver forms paradigm).value := by
  rw [fill, Recorded.value_bind, he]
  simp only [hp, if_true]

/-- **A filling ends with what the attempts make.** If the failures among the attempts may be
passed over, each given form holds the text of its attempt, and all else is as before. -/
theorem value_fill (attempt : F → Recorded (Except Error Inflected)) (passOver : Error → Bool)
    (text? : F → Option String)
    (hmade : ∀ form text, text? form = some text →
      ∃ made, (attempt form).value = .ok made ∧ made.text = text)
    (hpassed : ∀ form, text? form = none →
      ∃ cause, (attempt form).value = .error cause ∧ passOver cause = true)
    (forms : List F) (paradigm : Paradigm F) :
    ∃ filled, (fill attempt passOver forms paradigm).value = .ok filled ∧
      filled.dictionary = paradigm.dictionary ∧
      ∀ form, filled.get? form =
        (if form ∈ forms then text? form else none).or (paradigm.get? form) := by
  -- the paradigm filled so far varies: a form that is made is entered before the others
  induction forms generalizing paradigm with
  | nil => exact ⟨paradigm, rfl, rfl, fun form => by simp⟩
  | cons form forms ih =>
    cases ht : text? form with
    | some text =>
      obtain ⟨made, hm, rfl⟩ := hmade form text ht
      obtain ⟨filled, hfilled, hdictionary, hget⟩ := ih (paradigm.insert form made.text)
      refine ⟨filled, ?_, hdictionary, fun other => ?_⟩
      · rw [value_fill_of_ok hm]
        exact hfilled
      · rw [hget, get?_insert]
        by_cases ho : other = form
        · subst ho
          by_cases hf : other ∈ forms <;> simp [ht, hf]
        · simp [ho]
    | none =>
      obtain ⟨cause, he, hp⟩ := hpassed form ht
      obtain ⟨filled, hfilled, hdictionary, hget⟩ := ih paradigm
      refine ⟨filled, ?_, hdictionary, fun other => ?_⟩
      · rw [value_fill_of_error he hp]
        exact hfilled
      · rw [hget]
        by_cases ho : other = form
        · subst ho
          simp [ht]
        · simp [ho]

/-- A paradigm filled from nothing, with all forms of the system, holds the text of each. -/
theorem value_fill_empty (attempt : F → Recorded (Except Error Inflected))
    (passOver : Error → Bool) (text? : F → Option String)
    (hmade : ∀ form text, text? form = some text →
      ∃ made, (attempt form).value = .ok made ∧ made.text = text)
    (hpassed : ∀ form, text? form = none →
      ∃ cause, (attempt form).value = .error cause ∧ passOver cause = true)
    {forms : List F} (hforms : ∀ form, form ∈ forms) (dictionary : String) :
    ∃ filled, (fill attempt passOver forms (.empty dictionary)).value = .ok filled ∧
      filled.dictionary = dictionary ∧ ∀ form, filled.get? form = text? form := by
  obtain ⟨filled, hfilled, hdictionary, hget⟩ :=
    value_fill attempt passOver text? hmade hpassed forms (.empty dictionary)
  refine ⟨filled, hfilled, hdictionary, fun form => ?_⟩
  rw [hget, if_pos (hforms form)]
  exact Option.or_none

/-- The entries of a paradigm that holds the texts of a word are those texts, form by form. -/
theorem map_toList_eq [FormSystem F] {paradigm : Paradigm F} (kind : F → Form)
    {text? : Form → Option String} (hget : ∀ form, paradigm.get? form = text? (kind form)) :
    (paradigm.toList.map fun entry => (kind entry.1, entry.2)) =
      ((FormSystem.all : List F).map kind).filterMap fun form =>
        (text? form).map fun text => (form, text) := by
  rw [toList, List.map_filterMap, List.filterMap_map]
  congr 1
  funext form
  rw [hget, Option.map_map]
  rfl

end Paradigm

/-! ### The paradigm of a word -/

/-- A form of a word with its text, if the word has the form. -/
def Word.entry? (causative : Causative) (word : Word) (form : Form) : Option (Form × String) :=
  (word.text? causative form).map fun text => (form, text)

theorem Word.entry?_of_text {causative : Causative} {word : Word} {form : Form} {text : String}
    (ht : word.text? causative form = some text) :
    word.entry? causative form = some (form, text) := by
  rw [Word.entry?, ht]
  rfl

theorem Word.entry?_of_no_text {causative : Causative} {word : Word} {form : Form}
    (ht : word.text? causative form = none) : word.entry? causative form = none := by
  rw [Word.entry?, ht]
  rfl

/-- The forms that a word has with their texts, in order of declaration. -/
def Word.entries (causative : Causative) (word : Word) : List (Form × String) :=
  word.forms.filterMap (word.entry? causative)

theorem Word.mem_entries_iff {causative : Causative} {word : Word} {form : Form}
    {text : String} :
    (form, text) ∈ word.entries causative ↔
      form ∈ word.forms ∧ word.text? causative form = some text := by
  rw [Word.entries, List.mem_filterMap]
  constructor
  · intro hmem
    obtain ⟨other, hother, h⟩ := hmem
    obtain ⟨read, hread, hpair⟩ := Option.map_eq_some_iff.1 h
    cases hpair
    exact ⟨hother, hread⟩
  · intro h
    exact ⟨form, h.1, Word.entry?_of_text h.2⟩

/-- A form with the text of a word in it; the text is empty if the word does not have the form. -/
def Word.entryIn (causative : Causative) (word : Word) (form : Form) : Form × String :=
  (form, (word.text? causative form).getD "")

/-- The entries among some forms are those of the forms that the class of the word has. -/
theorem Word.filterMap_eq_map_entryIn (causative : Causative) (word : Word) (forms : List Form) :
    forms.filterMap (word.entry? causative) =
      (forms.filter fun form => word.wordClass.HasForm form).map (word.entryIn causative) := by
  induction forms with
  | nil => rfl
  | cons form forms ih =>
    have hhas := word.text?_isSome_iff causative form
    cases ht : word.text? causative form with
    | none =>
      have hnot : ¬ word.wordClass.HasForm form := by
        rw [← hhas, ht]
        exact Bool.false_ne_true
      rw [List.filterMap_cons_none (entry?_of_no_text ht),
        List.filter_cons_of_neg (by simpa using hnot), ih]
    | some text =>
      have hform : word.wordClass.HasForm form := by
        rw [← hhas, ht]
        rfl
      have hentry : word.entryIn causative form = (form, text) := by
        rw [entryIn, ht]
        rfl
      rw [List.filterMap_cons_some (entry?_of_text ht),
        List.filter_cons_of_pos (by simpa using hform), List.map_cons, ih, hentry]

/-- The forms of the entries among some forms are those that the class of the word has. -/
theorem Word.map_fst_filterMap (causative : Causative) (word : Word) (forms : List Form) :
    (forms.filterMap (word.entry? causative)).map Prod.fst =
      forms.filter fun form => word.wordClass.HasForm form := by
  rw [filterMap_eq_map_entryIn, List.map_map]
  exact List.map_id _

/-- No two entries of a word have the same keyword. -/
theorem Word.nodup_keyword_entries (causative : Causative) (word : Word) :
    ((word.entries causative).map fun entry => entry.1.keyword).Nodup := by
  have hforms : (word.forms.map Form.keyword).Nodup := by
    cases word with
    | verb v =>
      show ((VerbForm.all.map Form.verb).map Form.keyword).Nodup
      decide
    | adjective a =>
      show ((AdjectiveForm.all.map Form.adjective).map Form.keyword).Nodup
      decide
  have hkept := (List.filter_sublist (p := fun form => decide (word.wordClass.HasForm form))
    (l := word.forms)).map Form.keyword
  rw [← map_fst_filterMap causative, List.map_map] at hkept
  exact hkept.nodup hforms

namespace Conjugator

/-- A verb has a paradigm, with its dictionary form and its text in every form. -/
theorem exists_verbParadigm (conjugator : Conjugator) (verb : Verb) :
    ∃ paradigm, (conjugator.verbParadigm verb).value = .ok paradigm ∧
      paradigm.dictionary = verb.dictionary ∧
      ∀ form, paradigm.get? form =
        (Word.verb verb).text? conjugator.causative (.verb form) := by
  refine Paradigm.value_fill_empty (conjugator.verb verb) (fun _ => false)
    (fun form => (Word.verb verb).text? conjugator.causative (.verb form))
    (fun form text ht => value_word_of_text ht) ?_ VerbForm.mem_all verb.dictionary
  intro form ht
  obtain ⟨spelling, hs, -⟩ := verb.exists_spelling conjugator.causative form
  rw [Word.text?, Word.spelling?, hs] at ht
  cases ht

/-- An adjective has a paradigm, with its basic form and its text in every form that it has. -/
theorem exists_adjectiveParadigm (conjugator : Conjugator) (adjective : Adjective) :
    ∃ paradigm, (conjugator.adjectiveParadigm adjective).value = .ok paradigm ∧
      (Word.adjective adjective).text? conjugator.causative (.adjective .basic) =
        some paradigm.dictionary ∧
      ∀ form, paradigm.get? form =
        (Word.adjective adjective).text? conjugator.causative (.adjective form) := by
  have hbasic : ((Word.adjective adjective).text? conjugator.causative
      (.adjective .basic)).isSome := by
    rw [Word.text?_isSome_iff]
    refine ⟨adjective.wordClass_isVerb.symm, ?_⟩
    intro h
    cases h.2
  obtain ⟨text, htext⟩ := Option.isSome_iff_exists.1 hbasic
  obtain ⟨made, hm, rfl⟩ := value_word_of_text htext
  obtain ⟨paradigm, hp, hdictionary, hget⟩ :=
    Paradigm.value_fill_empty (conjugator.adjective adjective) Error.isUnsupportedForm
      (fun form => (Word.adjective adjective).text? conjugator.causative (.adjective form))
      (fun form text ht => value_word_of_text ht)
      (fun form ht => ⟨_, value_word_of_no_text ht, rfl⟩) AdjectiveForm.mem_all made.text
  refine ⟨paradigm, ?_, ?_, hget⟩
  · show ((conjugator.adjective adjective .basic) >>= _).value = _
    have hm' : (conjugator.adjective adjective .basic).value = .ok made := hm
    rw [Recorded.value_bind, hm']
    exact hp
  · rw [htext, hdictionary]

/-- The entries of the paradigm of a word, of whichever kind it is, in the order in which the
paradigm lists them. -/
def entries (conjugator : Conjugator) : Word → Except Error (List (Form × String))
  | .verb v => (conjugator.verbParadigm v).value.map fun paradigm =>
    paradigm.toList.map fun entry => (.verb entry.1, entry.2)
  | .adjective a => (conjugator.adjectiveParadigm a).value.map fun paradigm =>
    paradigm.toList.map fun entry => (.adjective entry.1, entry.2)

/-- The paradigm of a word lists the entries of the word. -/
theorem entries_eq (conjugator : Conjugator) (word : Word) :
    conjugator.entries word = .ok (word.entries conjugator.causative) := by
  cases word with
  | verb v =>
    obtain ⟨paradigm, hp, -, hget⟩ := conjugator.exists_verbParadigm v
    rw [entries, hp]
    exact congrArg Except.ok (Paradigm.map_toList_eq Form.verb hget)
  | adjective a =>
    obtain ⟨paradigm, hp, -, hget⟩ := conjugator.exists_adjectiveParadigm a
    rw [entries, hp]
    exact congrArg Except.ok (Paradigm.map_toList_eq Form.adjective hget)

end Conjugator

end JapaneseInflection

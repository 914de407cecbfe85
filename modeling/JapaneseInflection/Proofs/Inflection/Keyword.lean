import JapaneseInflection.Lexicon.Word

/-!
# Keywords of forms

A keyword that is read for the class of a word names one of the forms of the kind of the word, and
every such form is named by its own keyword.

* `Form.ofKeyword?_eq_some_iff_isVerbal` says which form a keyword names for a class of words, and
  `Form.ofKeyword?_eq_some_iff` says it for a word.
-/

namespace JapaneseInflection

theorem WordClass.keyword_of_ofKeyword? {keyword : String} {wordClass : WordClass}
    (h : WordClass.ofKeyword? keyword = some wordClass) : wordClass.keyword = keyword := by
  simpa using List.find?_some h

theorem FormSystem.keyword_of_ofKeyword? {F : Type} [DecidableEq F] [FormSystem F] {text : String}
    {form : F} (h : ofKeyword? text = some form) : keyword form = text := by
  simpa using List.find?_some h

theorem VerbForm.ofKeyword?_keyword (form : VerbForm) :
    FormSystem.ofKeyword? form.keyword = some form := by
  cases form <;> decide

theorem AdjectiveForm.ofKeyword?_keyword (form : AdjectiveForm) :
    FormSystem.ofKeyword? form.keyword = some form := by
  cases form <;> decide

theorem Form.ofKeyword?_of_verb {wordClass : WordClass} (hw : wordClass.isVerb = true)
    (text : String) : ofKeyword? wordClass text = (FormSystem.ofKeyword? text).map verb := by
  rw [ofKeyword?, if_pos hw]

theorem Form.ofKeyword?_of_adjective {wordClass : WordClass} (hw : wordClass.isVerb = false)
    (text : String) : ofKeyword? wordClass text = (FormSystem.ofKeyword? text).map adjective := by
  rw [ofKeyword?, if_neg (by rw [hw]; exact Bool.false_ne_true)]

/-- In a system whose forms are found by their own keywords, a text names a form exactly when it is
the keyword of the form. -/
theorem FormSystem.map_ofKeyword?_eq_some_iff {F : Type} [DecidableEq F] [FormSystem F]
    {kind : F → Form} (hkind : ∀ form, (kind form).keyword = keyword form)
    (hall : ∀ form : F, form ∈ (all : List F))
    (hown : ∀ form : F, ofKeyword? (keyword form) = some form) {text : String} {form : Form} :
    (ofKeyword? text).map kind = some form ↔
      form ∈ (all : List F).map kind ∧ form.keyword = text := by
  rw [List.mem_map]
  constructor
  · intro h
    obtain ⟨f, hf, rfl⟩ := Option.map_eq_some_iff.1 h
    refine ⟨⟨f, hall f, rfl⟩, ?_⟩
    rw [hkind, keyword_of_ofKeyword? hf]
  · intro h
    obtain ⟨⟨f, -, rfl⟩, rfl⟩ := h
    rw [hkind, hown]
    rfl

theorem Form.mem_map_verb {form : Form} :
    form ∈ VerbForm.all.map verb ↔ form.isVerbal = true := by
  rcases form with f | f
  · exact iff_of_true (List.mem_map_of_mem (VerbForm.mem_all f)) rfl
  · simp [isVerbal]

theorem Form.mem_map_adjective {form : Form} :
    form ∈ AdjectiveForm.all.map adjective ↔ form.isVerbal = false := by
  rcases form with f | f
  · simp [isVerbal]
  · exact iff_of_true (List.mem_map_of_mem (AdjectiveForm.mem_all f)) rfl

/-- A keyword names a form for a class exactly when it is the keyword of a form of the kind of words
that the class has. -/
theorem Form.ofKeyword?_eq_some_iff_isVerbal {wordClass : WordClass} {text : String} {form : Form} :
    Form.ofKeyword? wordClass text = some form ↔
      form.isVerbal = wordClass.isVerb ∧ form.keyword = text := by
  cases hw : wordClass.isVerb with
  | true =>
    rw [ofKeyword?_of_verb hw, ← mem_map_verb]
    exact FormSystem.map_ofKeyword?_eq_some_iff (fun _ => rfl) VerbForm.mem_all
      VerbForm.ofKeyword?_keyword
  | false =>
    rw [ofKeyword?_of_adjective hw, ← mem_map_adjective]
    exact FormSystem.map_ofKeyword?_eq_some_iff (fun _ => rfl) AdjectiveForm.mem_all
      AdjectiveForm.ofKeyword?_keyword

/-- The forms that words of a kind can have are all forms of that kind. -/
theorem Word.mem_forms_iff {word : Word} {form : Form} :
    form ∈ word.forms ↔ form.isVerbal = word.wordClass.isVerb := by
  cases word with
  | verb v =>
    show form ∈ VerbForm.all.map Form.verb ↔ form.isVerbal = v.wordClass.isVerb
    rw [v.wordClass_isVerb, Form.mem_map_verb]
  | adjective a =>
    show form ∈ AdjectiveForm.all.map Form.adjective ↔ form.isVerbal = a.wordClass.isVerb
    rw [a.wordClass_isVerb, Form.mem_map_adjective]

/-- A keyword names a form for a word exactly when it is the keyword of a form of its kind. -/
theorem Form.ofKeyword?_eq_some_iff {word : Word} {text : String} {form : Form} :
    Form.ofKeyword? word.wordClass text = some form ↔
      form ∈ word.forms ∧ form.keyword = text := by
  rw [ofKeyword?_eq_some_iff_isVerbal, Word.mem_forms_iff]

end JapaneseInflection

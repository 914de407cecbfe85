import JapaneseInflection.CommandLine.Run
import JapaneseInflection.Proofs.Inflection.Keyword
import JapaneseInflection.Proofs.Lexicon.RoundTrip

/-!
# The lines that a command prints

A command prints the entries of the paradigm of a word, each with what the arguments put around
it. Three loops agree here: the one over the forms that were asked for, and the two that fill the
paradigms of verbs and of adjectives.

* `entryLine` is the line of an entry, told by its text alone.
* `printForms_cons_of_text`, `printForms_cons_of_no_text` and `printForms_cons_of_emptySubject`
  are the steps of printing, and `printForms_eq_lines` is its run.
* `canPrint_or_fail`: whether forms are printed is settled before the first line.
* `runArguments_eq_paradigm`: what a command prints that succeeds, with or without a form.
-/

namespace JapaneseInflection.CommandLine

/-! ### What stands around a conjugated word -/

/-- A question does not have an empty text for its subject. -/
def Arguments.SubjectFits (arguments : Arguments) : Prop :=
  ¬(arguments.question.isSome = true ∧ arguments.subject = some "")

/-- The line of an entry: its keyword, and its text between what the arguments put before it and
behind it. -/
def entryLine (arguments : Arguments) (chosen : Settings) (entry : Form × String) : String :=
  entry.1.keyword ++ " - " ++
    (arguments.question.getD "" ++ arguments.subject.getD "" ++ entry.2 ++
      arguments.particle.getD "" ++
      if arguments.question.isSome then chosen.questionParticle else "") ++ "\n"

/-- A subject is only read with a question. -/
theorem subject_eq_none_of_parse {line : List String} {arguments : Arguments}
    (hp : Arguments.parse? line = some arguments) (hq : arguments.question = none) :
    arguments.subject = none := by
  obtain ⟨occurrences, -, ho⟩ := Option.bind_eq_some_iff.1 hp
  simp only [Arguments.ofOccurrences?, bind, Option.bind_eq_some_iff] at ho
  obtain ⟨wordClass, -, form, -, particle, -, question, -, subject, -, path, -, classes, -,
    forms, -, dictionary, -, ho⟩ := ho
  split at ho
  · cases ho
  · rename_i hguard
    obtain rfl := Option.some.inj ho
    cases hs : subject with
    | none => rfl
    | some text =>
      simp only at hq
      simp [hs, hq] at hguard

theorem text_conjugatedPart (word : Word) (text : String) :
    (conjugatedPart word text).text = text := by
  cases word <;> rfl

/-- A subject that fits is a part with its own text, and nothing stands for a missing one. -/
theorem exists_subjectPart {subject : Option String} (hs : subject ≠ some "") :
    ∃ part, subjectPart subject = .ok part ∧ part.text = subject.getD "" := by
  cases subject with
  | none => exact ⟨Phrase.empty.toPart, rfl, rfl⟩
  | some text =>
    have hne : text ≠ "" := fun h => hs (congrArg some h)
    refine ⟨.ofNoun ⟨text, hne⟩, ?_, rfl⟩
    rw [subjectPart, Noun.ofText?, dif_pos hne]
    rfl

/-- A part with a particle behind it, if there is one. -/
def statementOf (particle : Option String) (part : Part) : Phrase :=
  particle.elim (Phrase.empty.push part) fun text => Phrase.attach part ⟨text⟩

theorem text_statementOf (particle : Option String) (part : Part) :
    (statementOf particle part).text = part.text ++ particle.getD "" := by
  cases particle with
  | none =>
    show (Phrase.empty.push part).text = part.text ++ ""
    rw [Phrase.text_push, Phrase.text_empty, String.empty_append, String.append_empty]
  | some text => exact Phrase.text_attach part ⟨text⟩

theorem phraseAround_of_no_question {arguments : Arguments} (hq : arguments.question = none)
    (chosen : Settings) (part : Part) :
    phraseAround arguments chosen part = .ok (statementOf arguments.particle part) := by
  rw [phraseAround, hq, statementOf]
  cases arguments.particle <;> rfl

theorem phraseAround_of_question {arguments : Arguments} {adverb : String} {subject : Part}
    (hq : arguments.question = some adverb) (hs : subjectPart arguments.subject = .ok subject)
    (chosen : Settings) (part : Part) :
    phraseAround arguments chosen part =
      .ok (Question.endedBy
        { adverb, subject, verb := (statementOf arguments.particle part).toPart }
        ⟨chosen.questionParticle⟩).phrase := by
  rw [phraseAround, hq, hs, statementOf]
  cases arguments.particle <;> rfl

/-- The phrase around a part is made where the subject fits, and it puts before the part and
behind it what the line of an entry has there. -/
theorem exists_phraseAround {arguments : Arguments}
    (hq : arguments.question = none → arguments.subject = none)
    (hf : arguments.SubjectFits) (chosen : Settings) (part : Part) :
    ∃ phrase, phraseAround arguments chosen part = .ok phrase ∧
      phrase.text =
        arguments.question.getD "" ++ arguments.subject.getD "" ++ part.text ++
          arguments.particle.getD "" ++
          if arguments.question.isSome then chosen.questionParticle else "" := by
  have htext := text_statementOf arguments.particle part
  cases hquestion : arguments.question with
  | none =>
    refine ⟨_, phraseAround_of_no_question hquestion chosen part, ?_⟩
    rw [htext, hq hquestion]
    simp
  | some adverb =>
    have hsubject : arguments.subject ≠ some "" := by
      intro h
      exact hf ⟨by rw [hquestion]; rfl, h⟩
    obtain ⟨subject, hpart, hst⟩ := exists_subjectPart hsubject
    refine ⟨_, phraseAround_of_question hquestion hpart chosen part, ?_⟩
    rw [Question.text_phrase]
    show adverb ++ subject.text ++ (statementOf arguments.particle part).toPart.text ++
      chosen.questionParticle = _
    rw [hst, Phrase.text_toPart, htext]
    simp [String.append_assoc]

/-- A question with an empty subject is refused, whatever part is asked about. -/
theorem phraseAround_of_emptySubject {arguments : Arguments} (hf : ¬ arguments.SubjectFits)
    (chosen : Settings) (part : Part) :
    phraseAround arguments chosen part = .error (.invalidLexeme .noun "" .emptyNoun) := by
  obtain ⟨hquestion, hsubject⟩ := Decidable.not_not.1 hf
  obtain ⟨adverb, hadverb⟩ := Option.isSome_iff_exists.1 hquestion
  rw [phraseAround, hadverb, hsubject]
  rfl

/-! ### Printing form after form -/

section Printing

variable {arguments : Arguments} {chosen : Settings} {word : Word} {form : Form} {text : String}

/-- The conjugator of the settings makes the text of a form. -/
theorem exists_made_of_text (ht : word.text? chosen.causative form = some text) :
    ∃ made : Inflected,
      ((Conjugator.ofSettings chosen).word word form).value = .ok made ∧ made.text = text :=
  Conjugator.value_word_of_text ht

/-- A form that the word has puts the line of its entry before what follows. -/
theorem printForms_cons_of_text (hq : arguments.question = none → arguments.subject = none)
    (hf : arguments.SubjectFits) (ht : word.text? chosen.causative form = some text)
    (forms : List Form) :
    printForms arguments chosen word (form :: forms) =
      ⟨entryLine arguments chosen (form, text) ++ (printForms arguments chosen word forms).output,
        (printForms arguments chosen word forms).failure⟩ := by
  obtain ⟨made, hm, rfl⟩ := exists_made_of_text ht
  obtain ⟨phrase, hp, htext⟩ :=
    exists_phraseAround hq hf chosen (conjugatedPart word made.text)
  rw [text_conjugatedPart] at htext
  simp only [printForms, hm, hp, Outcome.afterLine, lineOf, entryLine, htext]

/-- A form that the word does not have is passed over, unless it was asked for. -/
theorem printForms_cons_of_no_text (ht : word.text? chosen.causative form = none)
    (forms : List Form) :
    printForms arguments chosen word (form :: forms) =
      if arguments.form.isNone then printForms arguments chosen word forms
      else .fail (.refused (.unsupportedForm word.wordClass form.keyword)) := by
  have he : ((Conjugator.ofSettings chosen).word word form).value =
      .error (.unsupportedForm word.wordClass form.keyword) := Conjugator.value_word_of_no_text ht
  simp only [printForms, he, Error.isUnsupportedForm, Bool.and_true]

/-- A question with an empty subject ends the printing at the first form that the word has. -/
theorem printForms_cons_of_emptySubject (hf : ¬ arguments.SubjectFits)
    (ht : word.text? chosen.causative form = some text) (forms : List Form) :
    printForms arguments chosen word (form :: forms) =
      .fail (.refused (.invalidLexeme .noun "" .emptyNoun)) := by
  obtain ⟨made, hm, rfl⟩ := exists_made_of_text ht
  simp only [printForms, hm, phraseAround_of_emptySubject hf]

/-- Printing gives the lines of the forms that the word has, in order, where none is asked for that
it does not have. -/
theorem printForms_eq_lines (hq : arguments.question = none → arguments.subject = none)
    (hf : arguments.SubjectFits) {forms : List Form}
    (hforms : ∀ form ∈ forms, arguments.form = none ∨ word.wordClass.HasForm form) :
    printForms arguments chosen word forms =
      ⟨String.join ((forms.filterMap (word.entry? chosen.causative)).map
        (entryLine arguments chosen)), none⟩ := by
  induction forms with
  | nil => rfl
  | cons form forms ih =>
    have hrest := ih fun other hother => hforms other (List.mem_cons_of_mem form hother)
    cases ht : word.text? chosen.causative form with
    | none =>
      have hform : arguments.form = none := by
        refine (hforms form List.mem_cons_self).resolve_right fun h => ?_
        rw [← word.text?_isSome_iff chosen.causative, ht] at h
        cases h
      rw [printForms_cons_of_no_text ht, hform, hrest,
        List.filterMap_cons_none (Word.entry?_of_no_text ht)]
      rfl
    | some text =>
      rw [printForms_cons_of_text hq hf ht, hrest,
        List.filterMap_cons_some (Word.entry?_of_text ht), List.map_cons, String.join_cons]

/-- The arguments ask for all forms that words of the kind can have, or for one of them. -/
theorem formsOf_cases {forms : List Form} (hforms : formsOf arguments word = .ok forms) :
    (arguments.form = none ∧ forms = word.forms) ∨
    (∃ keyword form, arguments.form = some keyword ∧
      Form.ofKeyword? word.wordClass keyword = some form ∧ forms = [form]) := by
  cases hform : arguments.form with
  | none =>
    rw [formsOf, hform] at hforms
    exact .inl ⟨rfl, (Except.ok.inj hforms).symm⟩
  | some keyword =>
    rw [formsOf, hform] at hforms
    cases hk : Form.ofKeyword? word.wordClass keyword with
    | none =>
      simp only [hk] at hforms
      cases hforms
    | some form =>
      simp only [hk] at hforms
      exact .inr ⟨keyword, form, rfl, hk, (Except.ok.inj hforms).symm⟩

/-- What the printing of forms needs: a subject that fits, and no form asked for that the class
does not have. -/
structure Arguments.CanPrint (arguments : Arguments) (wordClass : WordClass)
    (forms : List Form) : Prop where
  subject_fits : arguments.SubjectFits
  has_forms : ∀ form ∈ forms, arguments.form = none ∨ wordClass.HasForm form

/-- A question with an empty subject is refused before anything is printed, where no form is asked
for that the word does not have. -/
theorem printForms_of_emptySubject (hf : ¬ arguments.SubjectFits) {forms : List Form}
    (hhas : ∀ form ∈ forms, arguments.form = none ∨ word.wordClass.HasForm form)
    (hforms : formsOf arguments word = .ok forms) (chosen : Settings) :
    printForms arguments chosen word forms =
      .fail (.refused (.invalidLexeme .noun "" .emptyNoun)) := by
  obtain ⟨-, rfl⟩ | ⟨keyword, form, hasked, -, rfl⟩ := formsOf_cases hforms
  · -- every word has the first of its forms, so the printing does not get past it
    obtain ⟨rest, hrest⟩ : ∃ rest, word.forms = word.citationForm :: rest := by
      cases word <;> exact ⟨_, rfl⟩
    rw [hrest]
    exact printForms_cons_of_emptySubject hf (word.text?_citationForm chosen.causative) rest
  · have hform : word.wordClass.HasForm form := by
      refine (hhas form List.mem_cons_self).resolve_left fun h => ?_
      rw [hasked] at h
      cases h
    rw [← word.text?_isSome_iff chosen.causative, Option.isSome_iff_exists] at hform
    obtain ⟨text, ht⟩ := hform
    exact printForms_cons_of_emptySubject hf ht []

/-- Whether the forms that the arguments ask for are printed is settled before the first line. -/
theorem canPrint_or_fail {forms : List Form} (hforms : formsOf arguments word = .ok forms)
    (chosen : Settings) :
    arguments.CanPrint word.wordClass forms ∨
      ∃ failure, printForms arguments chosen word forms = .fail failure := by
  by_cases hall : ∀ form ∈ forms, arguments.form = none ∨ word.wordClass.HasForm form
  · by_cases hf : arguments.SubjectFits
    · exact .inl ⟨hf, hall⟩
    · exact .inr ⟨_, printForms_of_emptySubject hf hall hforms chosen⟩
  · right
    obtain ⟨hform, -⟩ | ⟨keyword, form, hform, -, rfl⟩ := formsOf_cases hforms
    · exact absurd (fun form _ => .inl hform) hall
    · have hnot : ¬ word.wordClass.HasForm form := by
        intro h
        exact hall fun other hother => .inr (List.mem_singleton.1 hother ▸ h)
      rw [← word.text?_isSome_iff chosen.causative, Option.not_isSome_iff_eq_none] at hnot
      rw [printForms_cons_of_no_text hnot, hform]
      exact ⟨_, rfl⟩

end Printing

/-! ### What a command needs besides the forms -/

/-- The arguments ask for no list, name a word under settings that can be read, and their subject
belongs to a question and fits. None of this depends on the form that they ask for. -/
structure Ready (files : Files) (arguments : Arguments) (chosen : Settings) (word : Word) :
    Prop where
  noClasses : arguments.listClasses = false
  noForms : arguments.listForms = false
  settings_eq : settings files arguments.settingsPath = .ok chosen
  word_eq : wordOf arguments = .ok word
  subject_of_question : arguments.question = none → arguments.subject = none
  subject_fits : arguments.SubjectFits

/-- A chain of look-ups succeeds only if its first one does. -/
theorem exists_of_bind_eq_ok {ε α β : Type} {first : Except ε α} {next : α → Except ε β} {b : β}
    (h : (first >>= next) = .ok b) : ∃ a, first = .ok a ∧ next a = .ok b := by
  cases first with
  | error cause => cases h
  | ok a => exact ⟨a, rfl, h⟩

/-- With settings and a word, what is needed to print forms depends on the forms alone. -/
theorem prepare_eq {files : Files} {arguments : Arguments} {chosen : Settings} {word : Word}
    (hread : settings files arguments.settingsPath = .ok chosen)
    (hfound : wordOf arguments = .ok word) :
    prepare files arguments =
      (formsOf arguments word).map fun forms => (chosen, word, forms) := by
  rw [prepare, hread]
  show (wordOf arguments >>= _) = _
  rw [hfound]
  show (formsOf arguments word >>= _) = _
  cases formsOf arguments word <;> rfl

/-- What is needed to print forms is there exactly when each of the three look-ups succeeds. -/
theorem prepare_eq_ok_iff {files : Files} {arguments : Arguments} {chosen : Settings}
    {word : Word} {forms : List Form} :
    prepare files arguments = .ok (chosen, word, forms) ↔
      settings files arguments.settingsPath = .ok chosen ∧ wordOf arguments = .ok word ∧
        formsOf arguments word = .ok forms := by
  constructor
  · intro h
    obtain ⟨read, hread, h⟩ := exists_of_bind_eq_ok h
    obtain ⟨found, hfound, h⟩ := exists_of_bind_eq_ok h
    obtain ⟨asked, hasked, h⟩ := exists_of_bind_eq_ok h
    cases h
    exact ⟨hread, hfound, hasked⟩
  · intro h
    rw [prepare_eq h.1 h.2.1, h.2.2]
    rfl

theorem runArguments_of_prepare {files : Files} {arguments : Arguments} {chosen : Settings}
    {word : Word} {forms : List Form} (hc : arguments.listClasses = false)
    (hl : arguments.listForms = false)
    (hp : prepare files arguments = .ok (chosen, word, forms)) :
    runArguments files arguments = printForms arguments chosen word forms := by
  rw [runArguments, hc, hl, hp]
  rfl

namespace Ready

variable {files : Files} {arguments : Arguments} {chosen : Settings} {word : Word}

/-- Arguments whose run succeeds are ready. -/
theorem of_success {line : List String} (hp : Arguments.parse? line = some arguments)
    (hc : arguments.listClasses = false) (hl : arguments.listForms = false)
    (hs : (runArguments files arguments).failure = none) :
    ∃ chosen word, Ready files arguments chosen word := by
  cases hprepare : prepare files arguments with
  | error failure =>
    rw [runArguments, hc, hl, hprepare] at hs
    cases hs
  | ok found =>
    obtain ⟨chosen, word, forms⟩ := found
    rw [runArguments_of_prepare hc hl hprepare] at hs
    obtain ⟨hsettings, hword, hforms⟩ := prepare_eq_ok_iff.1 hprepare
    have hq := subject_eq_none_of_parse hp
    obtain hcan | ⟨failure, hfail⟩ := canPrint_or_fail hforms chosen
    · exact ⟨chosen, word, hc, hl, hsettings, hword, hq, hcan.subject_fits⟩
    · rw [hfail] at hs
      cases hs

/-- Nothing that a command needs depends on the form in its arguments. -/
theorem withForm (hr : Ready files arguments chosen word) (form : Option String) :
    Ready files { arguments with form } chosen word :=
  ⟨hr.noClasses, hr.noForms, hr.settings_eq, hr.word_eq, hr.subject_of_question,
    hr.subject_fits⟩

/-- A command prints the forms that its arguments ask for. -/
theorem run (hr : Ready files arguments chosen word) {forms : List Form}
    (hforms : formsOf arguments word = .ok forms) :
    runArguments files arguments = printForms arguments chosen word forms :=
  runArguments_of_prepare hr.noClasses hr.noForms
    (prepare_eq_ok_iff.2 ⟨hr.settings_eq, hr.word_eq, hforms⟩)

/-- Without a form, a command prints the entries of the word. -/
theorem run_all (hr : Ready files arguments chosen word) (hform : arguments.form = none) :
    runArguments files arguments =
      ⟨String.join ((word.entries chosen.causative).map (entryLine arguments chosen)), none⟩ := by
  have hforms : formsOf arguments word = .ok word.forms := by
    rw [formsOf, hform]
  rw [hr.run hforms, printForms_eq_lines hr.subject_of_question hr.subject_fits
    fun _ _ => .inl hform]
  rfl

section Asked

variable {keyword text : String} {form : Form}

/-- With the keyword of a form, a command prints that form alone. -/
theorem run_form (hr : Ready files arguments chosen word) (hform : arguments.form = some keyword)
    (hk : Form.ofKeyword? word.wordClass keyword = some form) :
    runArguments files arguments = printForms arguments chosen word [form] := by
  have hforms : formsOf arguments word = .ok [form] := by
    simp only [formsOf, hform, hk]
  exact hr.run hforms

/-- With a form that the word has, a command prints its line. -/
theorem run_form_of_text (hr : Ready files arguments chosen word)
    (hform : arguments.form = some keyword)
    (hk : Form.ofKeyword? word.wordClass keyword = some form)
    (ht : word.text? chosen.causative form = some text) :
    runArguments files arguments = ⟨entryLine arguments chosen (form, text), none⟩ := by
  rw [hr.run_form hform hk, printForms_cons_of_text hr.subject_of_question hr.subject_fits ht]
  show (⟨entryLine arguments chosen (form, text) ++ "", none⟩ : Outcome) = _
  rw [String.append_empty]

/-- With a form that the word does not have, a command fails. -/
theorem run_form_of_no_text (hr : Ready files arguments chosen word)
    (hform : arguments.form = some keyword)
    (hk : Form.ofKeyword? word.wordClass keyword = some form)
    (ht : word.text? chosen.causative form = none) :
    runArguments files arguments =
      .fail (.refused (.unsupportedForm word.wordClass form.keyword)) := by
  rw [hr.run_form hform hk, printForms_cons_of_no_text ht, hform]
  rfl

/-- A command with a form succeeds only if a form of the word has that keyword. -/
theorem exists_form (hr : Ready files arguments chosen word)
    (hform : arguments.form = some keyword)
    (hs : (runArguments files arguments).failure = none) :
    ∃ form, Form.ofKeyword? word.wordClass keyword = some form := by
  cases hk : Form.ofKeyword? word.wordClass keyword with
  | some form => exact ⟨form, rfl⟩
  | none =>
    have hforms : formsOf arguments word = .error (.unknownForm keyword word.wordClass) := by
      simp only [formsOf, hform, hk]
    rw [runArguments, hr.noClasses, hr.noForms, prepare_eq hr.settings_eq hr.word_eq,
      hforms] at hs
    cases hs

end Asked

/-- With the keyword of an entry, a command prints the line of the entry. -/
theorem run_entry (hr : Ready files arguments chosen word) {entry : Form × String}
    (hentry : entry ∈ word.entries chosen.causative) :
    runArguments files { arguments with form := some entry.1.keyword } =
      ⟨entryLine arguments chosen entry, none⟩ := by
  obtain ⟨form, text⟩ := entry
  obtain ⟨hform, ht⟩ := Word.mem_entries_iff.1 hentry
  exact (hr.withForm (some form.keyword)).run_form_of_text rfl
    (Form.ofKeyword?_eq_some_iff.2 ⟨hform, rfl⟩) ht

/-- A keyword for the class of the word is that of an entry, or a command refuses it. -/
theorem run_keyword (hr : Ready files arguments chosen word) {keyword : String} {form : Form}
    (hk : Form.ofKeyword? word.wordClass keyword = some form) :
    (∃ entry ∈ word.entries chosen.causative, entry.1.keyword = keyword) ∨
      runArguments files { arguments with form := some keyword } =
        .fail (.refused (.unsupportedForm word.wordClass keyword)) := by
  obtain ⟨hform, hkeyword⟩ := Form.ofKeyword?_eq_some_iff.1 hk
  cases ht : word.text? chosen.causative form with
  | some text => exact .inl ⟨(form, text), Word.mem_entries_iff.2 ⟨hform, ht⟩, hkeyword⟩
  | none =>
    right
    rw [(hr.withForm (some keyword)).run_form_of_no_text rfl hk ht, hkeyword]

end Ready

/-! ### Commands and paradigms -/

/-- **A command prints the paradigm.** Where a command with some arguments succeeds, it prints
without a form the lines of all entries of the paradigm of its word, in order, and with the
keyword of an entry the line of that entry. No other text makes it succeed, and those that are
keywords of forms for the class of the word are refused as unsupported. -/
theorem runArguments_eq_paradigm {files : Files} {line : List String} {arguments : Arguments}
    (hp : Arguments.parse? line = some arguments) (hc : arguments.listClasses = false)
    (hl : arguments.listForms = false) (hs : (runArguments files arguments).failure = none) :
    ∃ chosen word entries,
      settings files arguments.settingsPath = .ok chosen ∧
      wordOf arguments = .ok word ∧
      (Conjugator.ofSettings chosen).entries word = .ok entries ∧
      (entries.map fun entry => entry.1.keyword).Nodup ∧
      runArguments files { arguments with form := none } =
        ⟨String.join (entries.map (entryLine arguments chosen)), none⟩ ∧
      (∀ entry ∈ entries,
        runArguments files { arguments with form := some entry.1.keyword } =
          ⟨entryLine arguments chosen entry, none⟩) ∧
      (∀ keyword,
        (runArguments files { arguments with form := some keyword }).failure = none ↔
          ∃ entry ∈ entries, entry.1.keyword = keyword) ∧
      (∀ keyword, (Form.ofKeyword? word.wordClass keyword).isSome →
        (runArguments files { arguments with form := some keyword } =
            .fail (.refused (.unsupportedForm word.wordClass keyword)) ↔
          ∀ entry ∈ entries, entry.1.keyword ≠ keyword)) := by
  obtain ⟨chosen, word, hr⟩ := Ready.of_success hp hc hl hs
  refine ⟨chosen, word, word.entries chosen.causative, hr.settings_eq, hr.word_eq,
    (Conjugator.ofSettings chosen).entries_eq word, word.nodup_keyword_entries chosen.causative,
    (hr.withForm none).run_all rfl, fun entry hentry => hr.run_entry hentry, ?_, ?_⟩
  · intro keyword
    constructor
    · intro hsucceeds
      obtain ⟨form, hk⟩ := (hr.withForm (some keyword)).exists_form rfl hsucceeds
      obtain ⟨entry, hentry, hkeyword⟩ | hrefused := hr.run_keyword hk
      · exact ⟨entry, hentry, hkeyword⟩
      · rw [hrefused] at hsucceeds
        cases hsucceeds
    · intro hfound
      obtain ⟨entry, hentry, rfl⟩ := hfound
      rw [hr.run_entry hentry]
  · intro keyword hk
    obtain ⟨form, hk⟩ := Option.isSome_iff_exists.1 hk
    constructor
    · intro hrefused entry hentry hkeyword
      rw [← hkeyword, hr.run_entry hentry] at hrefused
      cases congrArg Outcome.failure hrefused
    · intro hnone
      obtain ⟨entry, hentry, hkeyword⟩ | hrefused := hr.run_keyword hk
      · exact absurd hkeyword (hnone entry hentry)
      · exact hrefused

/-- A question about an adjective that has no te-form, under the standard settings. -/
theorem runArguments_eq_paradigm_of_question :
    let files : Files := ⟨fun _ => none, "config.toml", .absent⟩
    let arguments : Arguments := {
      wordClass := "i-adjective", question := some "どうして", subject := some "彼が"
      particle := some "の", dictionary := some "いい" }
    (runArguments files arguments).failure = none ∧
      ∃ chosen word entries, wordOf arguments = .ok word ∧
        (Conjugator.ofSettings chosen).entries word = .ok entries ∧
        runArguments files { arguments with form := none } =
          ⟨String.join (entries.map (entryLine arguments chosen)), none⟩ ∧
        ∀ entry ∈ entries,
          runArguments files { arguments with form := some entry.1.keyword } =
            ⟨entryLine arguments chosen entry, none⟩ := by
  intro files arguments
  have hp : Arguments.parse? ["--question", "どうして", "--subject=彼が", "--particle", "の",
      "-ci-adjective", "いい"] = some arguments := by decide +kernel
  have hs : (runArguments files arguments).failure = none := by decide +kernel
  obtain ⟨chosen, word, entries, -, hword, hentries, -, hall, hline, -⟩ :=
    runArguments_eq_paradigm hp rfl rfl hs
  exact ⟨hs, chosen, word, entries, hword, hentries, hall, hline⟩

end JapaneseInflection.CommandLine

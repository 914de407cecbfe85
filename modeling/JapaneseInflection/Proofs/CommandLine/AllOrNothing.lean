import JapaneseInflection.Proofs.CommandLine.Lines

/-!
# All lines or none

A command prints line by line, and refuses some words, forms and subjects only while it prints.
Still it never breaks off: whether it prints is settled before the first line, by its arguments
alone.

* `runUnder` is a command under settings that are given, and `runArguments_of_settings` finds it in
  the command that reads them.
* `Prints` says of arguments, without settings, that they print a word in some forms.
* `run_allOrNothing`: a command that fails prints nothing, and one that succeeds prints a line for
  the form that is asked for, or for every form that the word has.
-/

namespace JapaneseInflection.CommandLine

variable {arguments : Arguments} {word : Word} {forms : List Form}

/-! ### Commands under given settings -/

/-- What a command without a list does once its settings are read. -/
def runUnder (chosen : Settings) (arguments : Arguments) : Outcome :=
  match wordOf arguments with
  | .error failure => .fail failure
  | .ok word =>
    match formsOf arguments word with
    | .error failure => .fail failure
    | .ok forms => printForms arguments chosen word forms

theorem runUnder_of_no_word {failure : Failure} (hfound : wordOf arguments = .error failure)
    (chosen : Settings) : runUnder chosen arguments = .fail failure := by
  simp only [runUnder, hfound]

theorem runUnder_of_no_forms {failure : Failure} (hfound : wordOf arguments = .ok word)
    (hasked : formsOf arguments word = .error failure) (chosen : Settings) :
    runUnder chosen arguments = .fail failure := by
  simp only [runUnder, hfound, hasked]

theorem runUnder_of_forms (hfound : wordOf arguments = .ok word)
    (hasked : formsOf arguments word = .ok forms) (chosen : Settings) :
    runUnder chosen arguments = printForms arguments chosen word forms := by
  simp only [runUnder, hfound, hasked]

/-- A command whose settings can be read runs under them. -/
theorem runArguments_of_settings {files : Files} {chosen : Settings}
    (hc : arguments.listClasses = false) (hl : arguments.listForms = false)
    (hread : settings files arguments.settingsPath = .ok chosen) :
    runArguments files arguments = runUnder chosen arguments := by
  cases hfound : wordOf arguments with
  | error failure =>
    have hp : prepare files arguments = .error failure := by
      rw [prepare, hread]
      show (wordOf arguments >>= _) = _
      rw [hfound]
      rfl
    rw [runUnder_of_no_word hfound, runArguments, hc, hl, hp]
    rfl
  | ok word =>
    cases hasked : formsOf arguments word with
    | error failure =>
      rw [runUnder_of_no_forms hfound hasked, runArguments, hc, hl, prepare_eq hread hfound, hasked]
      rfl
    | ok forms =>
      rw [runUnder_of_forms hfound hasked]
      exact runArguments_of_prepare hc hl (prepare_eq_ok_iff.2 ⟨hread, hfound, hasked⟩)

/-- A command whose settings cannot be read fails. -/
theorem runArguments_of_no_settings {files : Files} {failure : Failure}
    (hc : arguments.listClasses = false) (hl : arguments.listForms = false)
    (hread : settings files arguments.settingsPath = .error failure) :
    runArguments files arguments = .fail failure := by
  have hp : prepare files arguments = .error failure := by
    rw [prepare, hread]
    rfl
  rw [runArguments, hc, hl, hp]
  rfl

/-- The arguments name a word and ask for forms of it, and nothing stands against printing them. -/
structure Prints (arguments : Arguments) (word : Word) (forms : List Form) : Prop where
  word_eq : wordOf arguments = .ok word
  forms_eq : formsOf arguments word = .ok forms
  can_print : arguments.CanPrint word.wordClass forms

/-- Arguments that print do so under all settings. -/
theorem Prints.runUnder_eq (hp : Prints arguments word forms)
    (hq : arguments.question = none → arguments.subject = none) (chosen : Settings) :
    runUnder chosen arguments =
      ⟨String.join ((forms.filterMap (word.entry? chosen.causative)).map
        (entryLine arguments chosen)), none⟩ := by
  rw [runUnder_of_forms hp.word_eq hp.forms_eq]
  exact printForms_eq_lines hq hp.can_print.subject_fits hp.can_print.has_forms

/-- Under given settings, a command prints or fails at once. -/
theorem runUnder_cases (arguments : Arguments) (chosen : Settings) :
    (∃ word forms, Prints arguments word forms) ∨
    (∃ failure, runUnder chosen arguments = .fail failure) := by
  cases hfound : wordOf arguments with
  | error failure => exact .inr ⟨failure, runUnder_of_no_word hfound chosen⟩
  | ok word =>
    cases hasked : formsOf arguments word with
    | error failure => exact .inr ⟨failure, runUnder_of_no_forms hfound hasked chosen⟩
    | ok forms =>
      rw [runUnder_of_forms hfound hasked]
      obtain hcan | hfail := canPrint_or_fail hasked chosen
      · exact .inl ⟨word, forms, hfound, hasked, hcan⟩
      · exact .inr hfail

/-! ### The printed forms -/

theorem isOk_value_word (conjugator : Conjugator) (word : Word) (form : Form) :
    (conjugator.word word form).value.isOk = decide (word.wordClass.HasForm form) := by
  by_cases hf : word.wordClass.HasForm form
  · obtain ⟨-, made, -, -, hmade, -⟩ := conjugator.exists_made_of_hasForm hf
    rw [hmade, decide_eq_true hf]
    rfl
  · rw [conjugator.value_of_not_hasForm hf, decide_eq_false hf]
    rfl

/-- Without a form, a line is printed for every form that the word has. -/
theorem Prints.map_fst_of_no_form (hp : Prints arguments word forms)
    (hform : arguments.form = none) (chosen : Settings) :
    (forms.filterMap (word.entry? chosen.causative)).map Prod.fst =
      word.forms.filter fun form =>
        ((Conjugator.ofSettings chosen).word word form).value.isOk := by
  have hall : word.forms = forms := by
    have hforms := hp.forms_eq
    rw [formsOf, hform] at hforms
    exact Except.ok.inj hforms
  rw [word.map_fst_filterMap, hall]
  exact List.filter_congr fun form _ => (isOk_value_word _ word form).symm

/-- With a form, one line is printed, for the form with that keyword. -/
theorem Prints.exists_entry (hp : Prints arguments word forms) {keyword : String}
    (hform : arguments.form = some keyword) (chosen : Settings) :
    ∃ entry : Form × String, forms.filterMap (word.entry? chosen.causative) = [entry] ∧
      entry.1.keyword = keyword := by
  obtain ⟨hnone, -⟩ | ⟨other, form, hother, hk, rfl⟩ := formsOf_cases hp.forms_eq
  · rw [hform] at hnone
    cases hnone
  · obtain rfl : keyword = other := Option.some.inj (hform.symm.trans hother)
    have hhas : word.wordClass.HasForm form := by
      refine (hp.can_print.has_forms form List.mem_cons_self).resolve_left fun h => ?_
      rw [hform] at h
      cases h
    rw [← word.text?_isSome_iff chosen.causative, Option.isSome_iff_exists] at hhas
    obtain ⟨text, ht⟩ := hhas
    refine ⟨(form, text), ?_, (Form.ofKeyword?_eq_some_iff.1 hk).2⟩
    rw [List.filterMap_cons_some (Word.entry?_of_text ht), List.filterMap_nil]

/-- At least one line is printed. -/
theorem Prints.entries_ne_nil (hp : Prints arguments word forms) (chosen : Settings) :
    forms.filterMap (word.entry? chosen.causative) ≠ [] := by
  cases hform : arguments.form with
  | none =>
    -- the word has the form by which it is cited
    obtain ⟨made, hm, -⟩ := (Conjugator.ofSettings chosen).exists_citation word
    have hmem : word.citationForm ∈ word.forms := by
      cases word <;> exact List.mem_cons_self
    have hshown : word.citationForm ∈
        (forms.filterMap (word.entry? chosen.causative)).map Prod.fst := by
      rw [hp.map_fst_of_no_form hform, List.mem_filter, hm]
      exact ⟨hmem, rfl⟩
    intro hnil
    rw [hnil] at hshown
    cases hshown
  | some keyword =>
    obtain ⟨entry, hentry, -⟩ := hp.exists_entry hform chosen
    rw [hentry]
    exact List.cons_ne_nil entry []

theorem exists_made_of_mem_entries {chosen : Settings} {entry : Form × String}
    (hentry : entry ∈ forms.filterMap (word.entry? chosen.causative)) :
    ∃ made, ((Conjugator.ofSettings chosen).word word entry.1).value = .ok made ∧
      made.text = entry.2 := by
  obtain ⟨form, -, h⟩ := List.mem_filterMap.1 hentry
  obtain ⟨text, ht, rfl⟩ := Option.map_eq_some_iff.1 h
  exact exists_made_of_text ht

/-! ### Commands -/

theorem failure_ofLines (lines : List String) : (Outcome.ofLines lines).failure = none := by
  induction lines with
  | nil => rfl
  | cons line lines ih => exact ih

/-- A command that lists something succeeds. -/
theorem failure_runArguments_of_list {files : Files}
    (hlist : arguments.listClasses = true ∨ arguments.listForms = true) :
    (runArguments files arguments).failure = none := by
  by_cases hc : arguments.listClasses = true
  · rw [runArguments, if_pos hc]
    exact failure_ofLines _
  · rw [runArguments, if_neg hc, if_pos (hlist.resolve_left hc)]
    exact failure_ofLines _

theorem run_of_parse {files : Files} {line : List String}
    (hp : Arguments.parse? line = some arguments) :
    run files line = runArguments files arguments := by
  rw [run, hp]

/-- A command lists keywords and succeeds, or it fails at once, or it prints a word in some forms
under settings that it reads. -/
theorem run_cases (files : Files) {line : List String}
    (hp : Arguments.parse? line = some arguments) :
    ((arguments.listClasses = true ∨ arguments.listForms = true) ∧
      (run files line).failure = none) ∨
    (∃ failure, run files line = .fail failure) ∨
    (∃ chosen word forms, settings files arguments.settingsPath = .ok chosen ∧
      Prints arguments word forms ∧
      run files line =
        ⟨String.join ((forms.filterMap (word.entry? chosen.causative)).map
          (entryLine arguments chosen)), none⟩) := by
  have hq := subject_eq_none_of_parse hp
  rw [run_of_parse hp]
  by_cases hlist : arguments.listClasses = true ∨ arguments.listForms = true
  · exact .inl ⟨hlist, failure_runArguments_of_list hlist⟩
  right
  obtain ⟨hc, hl⟩ := not_or.1 hlist
  rw [Bool.not_eq_true] at hc hl
  cases hread : settings files arguments.settingsPath with
  | error failure => exact .inl ⟨failure, runArguments_of_no_settings hc hl hread⟩
  | ok chosen =>
    rw [runArguments_of_settings hc hl hread]
    obtain ⟨word, forms, hprints⟩ | hfail := runUnder_cases arguments chosen
    · exact .inr ⟨chosen, word, forms, rfl, hprints, hprints.runUnder_eq hq chosen⟩
    · exact .inl hfail

/-- **A command prints all or nothing.** A command that fails has printed nothing. One that succeeds
and lists nothing has printed at least one line of a form: the line of the form that is asked for,
or else a line for every form that the word has. -/
theorem run_allOrNothing {files : Files} {line : List String} {arguments : Arguments}
    (hp : Arguments.parse? line = some arguments) :
    ((run files line).failure ≠ none → (run files line).output = "") ∧
    (arguments.listClasses = false → arguments.listForms = false →
      (run files line).failure = none →
      ∃ chosen word printed,
        settings files arguments.settingsPath = .ok chosen ∧
        wordOf arguments = .ok word ∧
        (run files line).output = String.join (printed.map (entryLine arguments chosen)) ∧
        printed ≠ [] ∧
        (∀ entry ∈ printed, ∃ made,
          ((Conjugator.ofSettings chosen).word word entry.1).value = .ok made ∧
            made.text = entry.2) ∧
        (∀ keyword, arguments.form = some keyword →
          ∃ entry, printed = [entry] ∧ entry.1.keyword = keyword) ∧
        (arguments.form = none → printed.map Prod.fst = word.forms.filter fun form =>
          ((Conjugator.ofSettings chosen).word word form).value.isOk)) := by
  obtain ⟨hlist, hdone⟩ | ⟨failure, hfail⟩ | ⟨chosen, word, forms, hread, hprints, hdone⟩ :=
    run_cases files hp
  · refine ⟨fun h => absurd hdone h, fun hc hl => ?_⟩
    simp [hc, hl] at hlist
  · rw [hfail]
    exact ⟨fun _ => rfl, fun _ _ h => nomatch h⟩
  · rw [hdone]
    refine ⟨fun h => absurd rfl h, fun _ _ _ => ?_⟩
    exact ⟨chosen, word, forms.filterMap (word.entry? chosen.causative), hread, hprints.word_eq,
      rfl, hprints.entries_ne_nil chosen, fun entry hentry => exists_made_of_mem_entries hentry,
      fun keyword hform => hprints.exists_entry hform chosen,
      fun hform => hprints.map_fst_of_no_form hform chosen⟩

/-- All forms of an adjective that has no te-form are printed but that one, and a question with an
empty subject prints nothing. -/
theorem run_allOrNothing_of_adjective :
    let files : Files := ⟨fun _ => none, "config.toml", .absent⟩
    let line : List String := ["-ci-adjective", "いい"]
    let arguments : Arguments := { wordClass := "i-adjective", dictionary := some "いい" }
    let question : List String := ["--question", "どうして", "--subject=", "-ci-adjective", "いい"]
    let asking : Arguments :=
      { arguments with question := some "どうして", subject := some "" }
    Arguments.parse? line = some arguments ∧ (run files line).failure = none ∧
      (∃ (chosen : Settings) (word : Word) (printed : List (Form × String)),
        wordOf arguments = .ok word ∧
        (run files line).output = String.join (printed.map (entryLine arguments chosen)) ∧
        printed.map Prod.fst = word.forms.filter fun form =>
          ((Conjugator.ofSettings chosen).word word form).value.isOk) ∧
      Arguments.parse? question = some asking ∧ (run files question).failure ≠ none ∧
      (run files question).output = "" := by
  intro files line arguments question asking
  have hp : Arguments.parse? line = some arguments := by decide +kernel
  have hs : (run files line).failure = none := by decide +kernel
  have hasking : Arguments.parse? question = some asking := by decide +kernel
  have hfails : (run files question).failure ≠ none := by decide +kernel
  obtain ⟨chosen, word, printed, -, hword, houtput, -, -, -, hforms⟩ :=
    (run_allOrNothing hp).2 rfl rfl hs
  exact ⟨hp, hs, ⟨chosen, word, printed, hword, houtput, hforms rfl⟩, hasking, hfails,
    (run_allOrNothing hasking).1 hfails⟩

end JapaneseInflection.CommandLine

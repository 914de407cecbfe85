import JapaneseInflection.Proofs.CommandLine.AllOrNothing
import JapaneseInflection.Proofs.CommandLine.Requirement

/-!
# The first failure of a command

A command fails by the first thing that it needs and does not have, so that nothing it would have
looked at later has any influence.

* `runArguments_of_failsBy`: a command fails by a requirement that is not met, if all earlier ones
  are.
* `failure_runArguments_of_met`: it succeeds if all are met.
* `runArguments_of_sameFor`: what is looked at for later requirements has no influence.
* `run_requirements` is the whole account.
-/

namespace JapaneseInflection.CommandLine

/-! ### What met requirements give -/

section Running

variable {files other : Files} {arguments others : Arguments} {word : Word} {forms : List Form}
  {requirement : Requirement} {failure : Failure}

theorem wordOf_of_no_class {text : String} (hgiven : arguments.dictionary = some text)
    (hnone : ∀ named : WordClass, named.keyword ≠ arguments.wordClass) :
    wordOf arguments = .error (.unknownClass arguments.wordClass) := by
  have hk : WordClass.ofKeyword? arguments.wordClass = none :=
    Option.eq_none_iff_forall_ne_some.2 fun named h =>
      hnone named (WordClass.keyword_of_ofKeyword? h)
  simp only [wordOf, hgiven, hk]

/-- With the keyword of a class and a text, the word is the one that is read. -/
theorem wordOf_eq {named : WordClass} {text : String} (hnamed : named.keyword = arguments.wordClass)
    (hgiven : arguments.dictionary = some text) :
    wordOf arguments = (Word.ofDictionary? named text).mapError .refused := by
  simp only [wordOf, hgiven, ← hnamed, WordClass.ofKeyword?_keyword]

theorem exists_word (hdictionary : Requirement.dictionary.Met files arguments)
    (hclass : Requirement.wordClass.Met files arguments)
    (hword : Requirement.word.Met files arguments) :
    ∃ word, wordOf arguments = .ok word ∧ word.wordClass.keyword = arguments.wordClass := by
  obtain ⟨text, hgiven⟩ := hdictionary
  obtain ⟨named, hnamed⟩ := hclass
  obtain ⟨word, hread⟩ := hword named text hnamed hgiven
  refine ⟨word, ?_, ?_⟩
  · rw [wordOf_eq hnamed hgiven, hread]
    rfl
  · rw [(Word.ofDictionary?_eq_ok_iff.1 hread).wordClass_eq, hnamed]

theorem exists_forms (hclass : word.wordClass.keyword = arguments.wordClass)
    (hform : Requirement.form.Met files arguments) :
    ∃ forms, formsOf arguments word = .ok forms := by
  cases hasked : arguments.form with
  | none => exact ⟨word.forms, by rw [formsOf, hasked]⟩
  | some keyword =>
    obtain ⟨form, hkind, hkeyword⟩ := hform _ keyword hclass hasked
    have hk : Form.ofKeyword? word.wordClass keyword = some form :=
      Form.ofKeyword?_eq_some_iff_isVerbal.2 ⟨hkind, hkeyword⟩
    exact ⟨[form], by simp only [formsOf, hasked, hk]⟩

theorem formsOf_of_no_form {keyword : String} (hasked : arguments.form = some keyword)
    (hnone : ∀ form : Form, form.isVerbal = word.wordClass.isVerb → form.keyword ≠ keyword) :
    formsOf arguments word = .error (.unknownForm keyword word.wordClass) := by
  have hk : Form.ofKeyword? word.wordClass keyword = none := by
    refine Option.eq_none_iff_forall_ne_some.2 fun form h => ?_
    obtain ⟨hkind, hkeyword⟩ := Form.ofKeyword?_eq_some_iff_isVerbal.1 h
    exact hnone form hkind hkeyword
  simp only [formsOf, hasked, hk]

/-- The only form that can be asked for and that the class of a word does not have is the te of
i-adjectives. -/
theorem hasForm_of_support (hclass : word.wordClass.keyword = arguments.wordClass)
    (hsupport : Requirement.support.Met files arguments)
    (hforms : formsOf arguments word = .ok forms) :
    ∀ form ∈ forms, arguments.form = none ∨ word.wordClass.HasForm form := by
  obtain ⟨hnone, -⟩ | ⟨keyword, form, hasked, hk, rfl⟩ := formsOf_cases hforms
  · exact fun _ _ => .inl hnone
  · intro other hother
    obtain rfl := List.mem_singleton.1 hother
    obtain ⟨hkind, hkeyword⟩ := Form.ofKeyword?_eq_some_iff_isVerbal.1 hk
    refine .inr ⟨hkind, fun h => hsupport ⟨?_, ?_⟩⟩
    · rw [← hclass, h.1]
    · rw [hasked, ← hkeyword, h.2]
      rfl

/-- The te of an i-adjective is refused. -/
theorem printForms_of_te (hclass : word.wordClass = .iAdjective)
    (hasked : arguments.form = some AdjectiveForm.te.keyword)
    (hforms : formsOf arguments word = .ok forms) (chosen : Settings) :
    printForms arguments chosen word forms =
      .fail (.refused (.unsupportedForm .iAdjective AdjectiveForm.te.keyword)) := by
  have hk : Form.ofKeyword? word.wordClass AdjectiveForm.te.keyword = some (.adjective .te) := by
    rw [hclass]
    decide
  have ht : word.text? chosen.causative (.adjective .te) = none := by
    rw [← Option.not_isSome_iff_eq_none, word.text?_isSome_iff, hclass]
    exact fun h => h.2 ⟨rfl, rfl⟩
  obtain rfl : [.adjective .te] = forms := by
    simp only [formsOf, hasked, hk] at hforms
    exact Except.ok.inj hforms
  rw [printForms_cons_of_no_text ht, hasked, hclass]
  rfl

/-! ### The run of a command -/

theorem exists_runUnder (hc : arguments.listClasses = false) (hl : arguments.listForms = false)
    (hmet : Requirement.settings.Met files arguments) :
    ∃ chosen, runArguments files arguments = runUnder chosen arguments := by
  obtain ⟨chosen, hloads⟩ := hmet
  exact ⟨chosen, runArguments_of_settings hc hl hloads.settings_eq⟩

/-- With settings, a word and forms to print, what is left is to print them. -/
theorem exists_printForms (hc : arguments.listClasses = false) (hl : arguments.listForms = false)
    (hmet : ∀ earlier : Requirement, earlier.index < Requirement.support.index →
      earlier.Met files arguments) :
    ∃ chosen word forms, wordOf arguments = .ok word ∧ formsOf arguments word = .ok forms ∧
      word.wordClass.keyword = arguments.wordClass ∧
      runArguments files arguments = runUnder chosen arguments ∧
      runArguments files arguments = printForms arguments chosen word forms := by
  obtain ⟨chosen, hrun⟩ := exists_runUnder hc hl (hmet .settings (by decide))
  obtain ⟨word, hfound, hclass⟩ := exists_word (hmet .dictionary (by decide))
    (hmet .wordClass (by decide)) (hmet .word (by decide))
  obtain ⟨forms, hforms⟩ := exists_forms hclass (hmet .form (by decide))
  exact ⟨chosen, word, forms, hfound, hforms, hclass, hrun,
    hrun.trans (runUnder_of_forms hfound hforms chosen)⟩

/-- A command fails by a requirement that is not met, if all earlier ones are. -/
theorem runArguments_of_failsBy (hc : arguments.listClasses = false)
    (hl : arguments.listForms = false)
    (hmet : ∀ earlier : Requirement, earlier.index < requirement.index →
      earlier.Met files arguments)
    (hfails : requirement.FailsBy files arguments failure) :
    runArguments files arguments = .fail failure := by
  cases hfails with
  | settings hfails => exact runArguments_of_no_settings hc hl hfails.settings_eq
  | dictionary hnone =>
    obtain ⟨chosen, hrun⟩ := exists_runUnder hc hl (hmet .settings (by decide))
    have hfound : wordOf arguments = .error .missingWord := by
      simp only [wordOf, hnone]
    rw [hrun, runUnder_of_no_word hfound]
  | wordClass hnone =>
    obtain ⟨chosen, hrun⟩ := exists_runUnder hc hl (hmet .settings (by decide))
    obtain ⟨text, hgiven⟩ := hmet .dictionary (by decide)
    rw [hrun, runUnder_of_no_word (wordOf_of_no_class hgiven hnone)]
  | word hnamed hgiven hrefused =>
    obtain ⟨chosen, hrun⟩ := exists_runUnder hc hl (hmet .settings (by decide))
    rw [hrun, runUnder_of_no_word]
    rw [wordOf_eq hnamed hgiven, hrefused]
    rfl
  | form hnamed hasked hnone =>
    obtain ⟨chosen, hrun⟩ := exists_runUnder hc hl (hmet .settings (by decide))
    obtain ⟨word, hfound, hclass⟩ := exists_word (hmet .dictionary (by decide))
      (hmet .wordClass (by decide)) (hmet .word (by decide))
    obtain rfl := WordClass.keyword_injective (hnamed.trans hclass.symm)
    rw [hrun, runUnder_of_no_forms hfound (formsOf_of_no_form hasked hnone)]
  | support hnamed hasked =>
    obtain ⟨chosen, word, forms, -, hforms, hclass, -, hrun⟩ := exists_printForms hc hl hmet
    rw [hrun]
    exact printForms_of_te (WordClass.keyword_injective (hclass.trans hnamed)) hasked hforms chosen
  | subject hquestion hempty =>
    obtain ⟨chosen, word, forms, -, hforms, hclass, -, hrun⟩ := exists_printForms hc hl
      fun earlier hbefore => hmet earlier (Nat.lt_trans hbefore (by decide))
    have hhas := hasForm_of_support hclass (hmet .support (by decide)) hforms
    rw [hrun]
    exact printForms_of_emptySubject (not_not_intro ⟨hquestion, hempty⟩) hhas hforms chosen

/-- A command succeeds if all requirements are met. -/
theorem failure_runArguments_of_met (hc : arguments.listClasses = false)
    (hl : arguments.listForms = false) (hq : arguments.question = none → arguments.subject = none)
    (hmet : ∀ requirement : Requirement, requirement.Met files arguments) :
    (runArguments files arguments).failure = none := by
  obtain ⟨chosen, word, forms, hfound, hforms, hclass, hrun, -⟩ :=
    exists_printForms hc hl fun earlier _ => hmet earlier
  have hprints : Prints arguments word forms :=
    ⟨hfound, hforms, hmet .subject, hasForm_of_support hclass (hmet .support) hforms⟩
  rw [hrun, hprints.runUnder_eq hq]

/-- A command that lists something reads no files. -/
theorem runArguments_of_list
    (hlist : arguments.listClasses = true ∨ arguments.listForms = true) :
    runArguments other arguments = runArguments files arguments := by
  by_cases hc : arguments.listClasses = true
  · rw [runArguments, runArguments, if_pos hc, if_pos hc]
  · have hl := hlist.resolve_left hc
    rw [runArguments, runArguments, if_neg hc, if_neg hc, if_pos hl, if_pos hl]

/-- With a path to settings, only the file with this path is read. -/
theorem runArguments_of_path {path : String} (hpath : arguments.settingsPath = some path)
    (hread : other.contents? path = files.contents? path) :
    runArguments other arguments = runArguments files arguments := by
  have hsettings : settings other arguments.settingsPath =
      settings files arguments.settingsPath := by
    simp only [hpath, settings, hread]
  simp only [runArguments, prepare, hsettings]

/-- A command that lists nothing either has all that it requires and succeeds, or it fails by the
first requirement that is not met. -/
theorem runArguments_cases (files : Files) (hc : arguments.listClasses = false)
    (hl : arguments.listForms = false) (hq : arguments.question = none → arguments.subject = none) :
    ((∀ requirement : Requirement, requirement.Met files arguments) ∧
      (runArguments files arguments).failure = none) ∨
    (∃ requirement failure, Requirement.IsFirstUnmet files arguments requirement ∧
      requirement.FailsBy files arguments failure ∧
      runArguments files arguments = .fail failure) := by
  by_cases hmet : ∀ requirement : Requirement, requirement.Met files arguments
  · exact .inl ⟨hmet, failure_runArguments_of_met hc hl hq hmet⟩
  · simp only [Classical.not_forall] at hmet
    obtain ⟨requirement, hunmet⟩ := hmet
    obtain ⟨first, hfirst⟩ := Requirement.exists_isFirstUnmet hunmet
    obtain ⟨failure, hfails⟩ := Requirement.exists_failsBy hfirst.unmet
    exact .inr ⟨first, failure, hfirst, hfails,
      runArguments_of_failsBy hc hl hfirst.earlier_met hfails⟩

/-- A command that agrees with another in all that this one looks at until it fails, fails alike. -/
theorem runArguments_of_sameFor (hc : arguments.listClasses = false)
    (hl : arguments.listForms = false) (hoc : others.listClasses = false)
    (hol : others.listForms = false)
    (hfirst : Requirement.IsFirstUnmet files arguments requirement)
    (hsame : ∀ earlier : Requirement, earlier.index ≤ requirement.index →
      earlier.SameFor files other arguments others) :
    runArguments other others = runArguments files arguments := by
  obtain ⟨failure, hfails⟩ := Requirement.exists_failsBy hfirst.unmet
  rw [runArguments_of_failsBy hc hl hfirst.earlier_met hfails]
  refine runArguments_of_failsBy hoc hol (fun earlier hbefore => ?_)
    (hfails.congr (hsame requirement (Nat.le_refl _)))
  exact (hfirst.earlier_met earlier hbefore).congr (hsame earlier (Nat.le_of_lt hbefore))

theorem failure_eq_none_iff (hq : arguments.question = none → arguments.subject = none) :
    (runArguments files arguments).failure = none ↔
      arguments.listClasses = true ∨ arguments.listForms = true ∨
        ∀ requirement : Requirement, requirement.Met files arguments := by
  by_cases hlist : arguments.listClasses = true ∨ arguments.listForms = true
  · rw [← or_assoc]
    exact iff_of_true (failure_runArguments_of_list hlist) (.inl hlist)
  · obtain ⟨hc, hl⟩ := not_or.1 hlist
    rw [Bool.not_eq_true] at hc hl
    simp only [hc, hl, Bool.false_eq_true, false_or]
    obtain ⟨hmet, hdone⟩ | ⟨requirement, failure, hfirst, -, hfail⟩ :=
      runArguments_cases files hc hl hq
    · exact iff_of_true hdone hmet
    · rw [hfail]
      exact iff_of_false nofun fun hmet => hfirst.unmet (hmet requirement)

theorem failure_eq_some_iff (hq : arguments.question = none → arguments.subject = none) :
    (runArguments files arguments).failure = some failure ↔
      arguments.listClasses = false ∧ arguments.listForms = false ∧
        ∃ requirement, Requirement.IsFirstUnmet files arguments requirement ∧
          requirement.FailsBy files arguments failure := by
  constructor
  · intro hfailure
    have hlist : ¬(arguments.listClasses = true ∨ arguments.listForms = true) := by
      intro h
      rw [failure_runArguments_of_list h] at hfailure
      cases hfailure
    obtain ⟨hc, hl⟩ := not_or.1 hlist
    rw [Bool.not_eq_true] at hc hl
    obtain ⟨-, hdone⟩ | ⟨requirement, first, hfirst, hfails, hfail⟩ :=
      runArguments_cases files hc hl hq
    · rw [hdone] at hfailure
      cases hfailure
    · rw [hfail] at hfailure
      obtain rfl := Option.some.inj hfailure
      exact ⟨hc, hl, requirement, hfirst, hfails⟩
  · rintro ⟨hc, hl, requirement, hfirst, hfails⟩
    rw [runArguments_of_failsBy hc hl hfirst.earlier_met hfails]
    rfl

end Running

/-- **What a command requires, and in which order.** A command succeeds exactly if it lists
something or all requirements are met, and fails exactly by the first requirement that is not met.
What is looked at for later requirements has no influence then: every command that agrees in what
is looked at until there ends in the same way. Where a file with settings is named, no other one
has any influence, and none at all has where something is listed. -/
theorem run_requirements {files : Files} {line : List String} {arguments : Arguments}
    (hp : Arguments.parse? line = some arguments) :
    ((run files line).failure = none ↔
      arguments.listClasses = true ∨ arguments.listForms = true ∨
        ∀ requirement : Requirement, requirement.Met files arguments) ∧
    (∀ failure, (run files line).failure = some failure ↔
      arguments.listClasses = false ∧ arguments.listForms = false ∧
        ∃ requirement, Requirement.IsFirstUnmet files arguments requirement ∧
          requirement.FailsBy files arguments failure) ∧
    (∀ requirement, arguments.listClasses = false → arguments.listForms = false →
      Requirement.IsFirstUnmet files arguments requirement →
      ∀ other anotherLine others, Arguments.parse? anotherLine = some others →
        others.listClasses = false → others.listForms = false →
        (∀ earlier : Requirement, earlier.index ≤ requirement.index →
          earlier.SameFor files other arguments others) →
        run other anotherLine = run files line) ∧
    (∀ path other, arguments.settingsPath = some path →
      other.contents? path = files.contents? path → run other line = run files line) ∧
    (∀ other, arguments.listClasses = true ∨ arguments.listForms = true →
      run other line = run files line) := by
  have hq := subject_eq_none_of_parse hp
  simp only [run_of_parse hp]
  refine ⟨failure_eq_none_iff hq, fun failure => failure_eq_some_iff hq, ?_,
    fun path other => runArguments_of_path, fun other => runArguments_of_list⟩
  intro requirement hc hl hfirst other anotherLine others ho hoc hol hsame
  rw [run_of_parse ho]
  exact runArguments_of_sameFor hc hl hoc hol hfirst hsame

/-- The te of an i-adjective is refused before the empty subject of the question about it, whatever
stands at the standard place of settings. -/
theorem run_requirements_of_te :
    let files : Files := ⟨fun _ => some "", "config.toml", .unreadable⟩
    let line := ["--config", "a.toml", "-ci-adjective", "-fte", "--question", "どうして",
      "--subject=", "いい"]
    let arguments : Arguments := {
      wordClass := "i-adjective", form := some "te", question := some "どうして"
      subject := some "", settingsPath := some "a.toml", dictionary := some "いい" }
    Arguments.parse? line = some arguments ∧
      (run files line).failure = some (.refused (.unsupportedForm .iAdjective "te")) ∧
      (∃ requirement, Requirement.IsFirstUnmet files arguments requirement) ∧
      ∀ standard : StandardFile, run { files with standard } line = run files line := by
  intro files line arguments
  have hp : Arguments.parse? line = some arguments := by decide +kernel
  have hfails : (run files line).failure = some (.refused (.unsupportedForm .iAdjective "te")) := by
    decide +kernel
  obtain ⟨-, hfirst, -, hpath, -⟩ := @run_requirements files line arguments hp
  obtain ⟨-, -, requirement, hunmet, -⟩ := (hfirst _).1 hfails
  exact ⟨hp, hfails, ⟨requirement, hunmet⟩, fun standard => hpath "a.toml" _ rfl rfl⟩

end JapaneseInflection.CommandLine

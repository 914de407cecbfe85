import JapaneseInflection.Proofs.CommandLine.AllOrNothing
import JapaneseInflection.Proofs.Inflection.CausativeChoice
import JapaneseInflection.Proofs.Text.Concatenation

/-!
# What settings change in the output

Settings reach the output in two places: a question ends in the particle that they name, and the
causative of an ichidan verb is spelled as they say. Two commands that differ in their settings
alone print the same text exactly where the settings agree in these places. That differences do
not cancel out in the output is a matter of lengths: both ways to spell a causative are equally
long, so equally long outputs have particles of one length, and are equal line by line.

* `join_lines_eq_iff`: when the lines of some forms make the same text.
* `output_ne_iff`: when the outputs of two commands differ.
-/

namespace JapaneseInflection.CommandLine

/-! ### Lines -/

variable {arguments : Arguments} {first second : Settings} {form : Form} {word : Word}
  {forms : List Form}

/-- What a line starts with before the text of its form. -/
def opening (arguments : Arguments) (form : Form) : String :=
  form.keyword ++ " - " ++ arguments.question.getD "" ++ arguments.subject.getD ""

/-- What settings put at the end of a line. -/
def closing (arguments : Arguments) (chosen : Settings) : String :=
  if arguments.question.isSome then chosen.questionParticle else ""

theorem entryLine_eq (arguments : Arguments) (chosen : Settings) (form : Form) (text : String) :
    entryLine arguments chosen (form, text) =
      opening arguments form ++
        (text ++ (arguments.particle.getD "" ++ (closing arguments chosen ++ "\n"))) := by
  simp only [entryLine, opening, closing, String.append_assoc]

/-- The length of what a line has without the end that settings put to it. -/
def bodyLength (arguments : Arguments) (form : Form) (text : String) : Nat :=
  (opening arguments form).length + text.length + (arguments.particle.getD "").length + 1

theorem length_entryLine (arguments : Arguments) (chosen : Settings) (form : Form)
    (text : String) :
    (entryLine arguments chosen (form, text)).length =
      bodyLength arguments form text + (closing arguments chosen).length := by
  have hnewline : "\n".length = 1 := by decide
  rw [entryLine_eq]
  simp only [bodyLength, String.length_append, hnewline]
  omega

/-- Equal lines of one form have equal texts and equal ends, if the texts are equally long. -/
theorem entryLine_inj {t u : String} (hl : t.length = u.length)
    (h : entryLine arguments first (form, t) = entryLine arguments second (form, u)) :
    t = u ∧ closing arguments first = closing arguments second := by
  rw [entryLine_eq, entryLine_eq, String.append_right_inj] at h
  obtain ⟨htext, hend⟩ := append_inj_of_length hl h
  rw [String.append_right_inj, String.append_left_inj] at hend
  exact ⟨htext, hend⟩

/-- The lines of some forms make the same text under two settings exactly when their ends agree,
and the texts of each form. -/
theorem join_lines_eq_iff (arguments : Arguments) (first second : Settings) (hne : forms ≠ [])
    {t u : Form → String} (hl : ∀ form, (t form).length = (u form).length) :
    String.join (forms.map fun form => entryLine arguments first (form, t form)) =
        String.join (forms.map fun form => entryLine arguments second (form, u form)) ↔
      closing arguments first = closing arguments second ∧ ∀ form ∈ forms, t form = u form := by
  constructor
  · intro h
    have hfirst (form : Form) : (entryLine arguments first (form, t form)).length =
        bodyLength arguments form (u form) + (closing arguments first).length := by
      rw [length_entryLine, bodyLength, bodyLength, hl]
    have htotal := length_join_map_add forms hfirst
      fun form => length_entryLine arguments second form (u form)
    rw [h] at htotal
    -- there is a line, so the ends of the lines take part in the total
    have hclosing : (closing arguments second).length = (closing arguments first).length :=
      Nat.eq_of_mul_eq_mul_left (List.length_pos_iff.2 hne) (Nat.add_left_cancel htotal)
    have hlines := eq_of_join_map_eq (fun form _ => by
      rw [hfirst, length_entryLine, hclosing]) h
    obtain ⟨form, hform⟩ := List.exists_mem_of_ne_nil forms hne
    exact ⟨(entryLine_inj (hl form) (hlines form hform)).2,
      fun form hform => (entryLine_inj (hl form) (hlines form hform)).1⟩
  · intro h
    congr 1
    refine List.map_congr_left fun form hform => ?_
    rw [entryLine_eq, entryLine_eq, h.1, h.2 form hform]

theorem closing_eq_iff :
    closing arguments first = closing arguments second ↔
      (arguments.question.isSome = true → first.questionParticle = second.questionParticle) := by
  by_cases hq : arguments.question.isSome = true
  · rw [closing, closing, if_pos hq, if_pos hq]
    exact ⟨fun h _ => h, fun h => h hq⟩
  · rw [closing, closing, if_neg hq, if_neg hq]
    exact iff_of_true rfl fun h => absurd h hq

/-! ### Which words and forms show the choice of the causative -/

/-- The word of a command has the class that the arguments name. -/
theorem keyword_of_wordOf (hw : wordOf arguments = .ok word) :
    word.wordClass.keyword = arguments.wordClass := by
  cases hd : arguments.dictionary with
  | none =>
    simp only [wordOf, hd] at hw
    cases hw
  | some dictionary =>
    cases hk : WordClass.ofKeyword? arguments.wordClass with
    | none =>
      simp only [wordOf, hd, hk] at hw
      cases hw
    | some wordClass =>
      simp only [wordOf, hd, hk] at hw
      cases hread : Word.ofDictionary? wordClass dictionary with
      | error cause =>
        rw [hread] at hw
        cases hw
      | ok found =>
        rw [hread] at hw
        obtain rfl : found = word := Except.ok.inj hw
        rw [(Word.ofDictionary?_eq_ok_iff.1 hread).wordClass_eq]
        exact WordClass.keyword_of_ofKeyword? hk

/-- An ichidan verb is printed in the causative exactly when no other form is asked for. -/
theorem Prints.mem_causative_iff (hp : Prints arguments word forms)
    (hclass : word.wordClass = .ichidan) :
    Form.verb .causative ∈ forms ↔
      arguments.form = none ∨ arguments.form = some VerbForm.causative.keyword := by
  have hmem : Form.verb .causative ∈ word.forms := by
    rcases word with v | a
    · exact List.mem_map_of_mem (VerbForm.mem_all .causative)
    · have hkind := a.wordClass_isVerb
      rw [show a.wordClass = .ichidan from hclass] at hkind
      cases hkind
  obtain ⟨hform, rfl⟩ | ⟨keyword, form, hform, hk, rfl⟩ := formsOf_cases hp.forms_eq
  · exact iff_of_true hmem (.inl hform)
  · rw [List.mem_singleton, hform]
    constructor
    · intro h
      obtain ⟨-, rfl⟩ := Form.ofKeyword?_eq_some_iff.1 hk
      rw [← h]
      exact .inr rfl
    · intro h
      obtain rfl : keyword = VerbForm.causative.keyword := by
        rcases h with h | h
        · cases h
        · exact Option.some.inj h
      have hc : Form.ofKeyword? word.wordClass VerbForm.causative.keyword =
          some (.verb .causative) := Form.ofKeyword?_eq_some_iff.2 ⟨hmem, rfl⟩
      exact Option.some.inj (hc.symm.trans hk)

/-- The texts of the printed forms are the same under two settings, unless the causative of an
ichidan verb is printed and the settings differ in it. -/
theorem Prints.entries_eq_iff (hp : Prints arguments word forms) :
    (∀ form ∈ forms.filter fun form => word.wordClass.HasForm form,
        (word.entryIn first.causative form).2 = (word.entryIn second.causative form).2) ↔
      (arguments.wordClass = WordClass.ichidan.keyword ∧
        (arguments.form = none ∨ arguments.form = some VerbForm.causative.keyword) →
        first.causative = second.causative) := by
  have hclass : word.wordClass = .ichidan ↔ arguments.wordClass = WordClass.ichidan.keyword := by
    rw [← keyword_of_wordOf hp.word_eq]
    exact ⟨fun h => congrArg WordClass.keyword h, WordClass.keyword_injective⟩
  constructor
  · intro h hshown
    have hichidan := hclass.2 hshown.1
    have hhas : word.wordClass.HasForm (.verb .causative) := by
      rw [hichidan]
      decide
    have hmem := (hp.mem_causative_iff hichidan).2 hshown.2
    exact (Word.entryIn_eq_iff hhas).1
      (h _ (List.mem_filter.2 ⟨hmem, decide_eq_true hhas⟩)) ⟨hichidan, rfl⟩
  · intro h form hform
    obtain ⟨hmem, hhas⟩ := List.mem_filter.1 hform
    rw [Word.entryIn_eq_iff (of_decide_eq_true hhas)]
    rintro ⟨hichidan, rfl⟩
    exact h ⟨hclass.1 hichidan, (hp.mem_causative_iff hichidan).1 hmem⟩

/-- Two outputs are the same where the settings agree in what they put into the printed lines. -/
theorem Prints.output_eq_iff (hp : Prints arguments word forms)
    (hq : arguments.question = none → arguments.subject = none) (first second : Settings) :
    (runUnder first arguments).output = (runUnder second arguments).output ↔
      (arguments.question.isSome = true → first.questionParticle = second.questionParticle) ∧
      (arguments.wordClass = WordClass.ichidan.keyword ∧
        (arguments.form = none ∨ arguments.form = some VerbForm.causative.keyword) →
        first.causative = second.causative) := by
  have hne := hp.entries_ne_nil first
  rw [Word.filterMap_eq_map_entryIn, Ne, List.map_eq_nil_iff] at hne
  rw [hp.runUnder_eq hq, hp.runUnder_eq hq, Word.filterMap_eq_map_entryIn,
    Word.filterMap_eq_map_entryIn, List.map_map, List.map_map, ← closing_eq_iff,
    ← hp.entries_eq_iff]
  exact join_lines_eq_iff arguments first second hne
    (word.length_entryIn first.causative second.causative)

/-- **What settings change in the output.** A command that lists nothing runs under the settings
that it reads. If it succeeds under some settings, it succeeds under all, and two outputs differ
exactly where the settings differ in the particle of a question that is asked, or in the causative
of an ichidan verb that is printed in this form. -/
theorem output_ne_iff {line : List String} {arguments : Arguments}
    (hp : Arguments.parse? line = some arguments) (hc : arguments.listClasses = false)
    (hl : arguments.listForms = false) (first second : Settings)
    (hs : (runUnder first arguments).failure = none) :
    (∀ files chosen, settings files arguments.settingsPath = .ok chosen →
      run files line = runUnder chosen arguments) ∧
    (runUnder second arguments).failure = none ∧
    ((runUnder first arguments).output ≠ (runUnder second arguments).output ↔
      (arguments.question.isSome = true ∧
        first.questionParticle ≠ second.questionParticle) ∨
      (arguments.wordClass = WordClass.ichidan.keyword ∧
        (arguments.form = none ∨ arguments.form = some VerbForm.causative.keyword) ∧
        first.causative ≠ second.causative)) := by
  have hq := subject_eq_none_of_parse hp
  obtain ⟨word, forms, hprints⟩ | ⟨failure, hfail⟩ := runUnder_cases arguments first
  · refine ⟨fun files chosen hread => ?_, ?_, ?_⟩
    · rw [run_of_parse hp]
      exact runArguments_of_settings hc hl hread
    · rw [hprints.runUnder_eq hq]
    · rw [Ne, hprints.output_eq_iff hq, Classical.not_and_iff_not_or_not, Classical.not_imp,
        Classical.not_imp, and_assoc]
  · rw [hfail] at hs
    cases hs

/-- A question about all forms of an ichidan verb, under settings that differ in both places: the
particle of the second is the causative exponent that the first has in its place. -/
theorem output_ne_of_question :
    let line : List String := ["--question", "どうして", "-cichidan", "食べる"]
    let arguments : Arguments := {
      wordClass := "ichidan", question := some "どうして", dictionary := some "食べる" }
    let second : Settings := { causative := .split, questionParticle := "られ" }
    Arguments.parse? line = some arguments ∧
      (runUnder .standard arguments).failure = none ∧
      (runUnder second arguments).failure = none ∧
      (runUnder .standard arguments).output ≠ (runUnder second arguments).output := by
  intro line arguments second
  have hp : Arguments.parse? line = some arguments := by decide +kernel
  have hs : (runUnder .standard arguments).failure = none := by decide +kernel
  obtain ⟨-, hsecond, hdiffer⟩ := output_ne_iff hp rfl rfl .standard second hs
  exact ⟨hp, hs, hsecond, hdiffer.2 (.inl ⟨rfl, by decide⟩)⟩

end JapaneseInflection.CommandLine

import JapaneseInflection.CommandLine.Run

/-!
# What a command requires

A command that lists nothing needs settings, a word and a form before it prints, and looks at what
it needs in a fixed order.

* `Loads` and `LoadFails` say which settings a path names, or how it fails to name any.
* `Requirement` lists what a command needs, in order. `Requirement.Met` says what each requirement
  asks of the files and the arguments, `Requirement.FailsBy` with which failure it is not met, and
  `Requirement.SameFor` what it looks at.
* `Requirement.exists_isFirstUnmet`: where some requirement is not met, there is a first one.
* `Requirement.Met.congr` and `Requirement.FailsBy.congr`: what a requirement looks at settles it.
-/

namespace JapaneseInflection.CommandLine

/-! ### Settings that are named -/

/-- The settings that a path names: those in the file with this path; without a path, those in the
file at the standard place if there is one, else the standard ones. -/
inductive Loads (files : Files) : Option String → Settings → Prop
  | named {path text : String} {chosen : Settings} (hread : files.contents? path = some text)
      (hvalid : Settings.ofToml? text = some chosen) : Loads files (some path) chosen
  | unnamed {text : String} {chosen : Settings} (hread : files.standard = .contents text)
      (hvalid : Settings.ofToml? text = some chosen) : Loads files none chosen
  | absent (hnone : files.standard = .absent) : Loads files none .standard

/-- The failures where a path names no settings: the file cannot be read, or it does not hold
settings. -/
inductive LoadFails (files : Files) : Option String → Failure → Prop
  | unreadable {path : String} (hread : files.contents? path = none) :
      LoadFails files (some path) (.unreadableSettings path)
  | invalid {path text : String} (hread : files.contents? path = some text)
      (hinvalid : Settings.ofToml? text = none) :
      LoadFails files (some path) (.invalidSettings path .invalidSettings)
  | unreadableStandard (hread : files.standard = .unreadable) :
      LoadFails files none (.unreadableSettings files.standardPath)
  | invalidStandard {text : String} (hread : files.standard = .contents text)
      (hinvalid : Settings.ofToml? text = none) :
      LoadFails files none (.invalidSettings files.standardPath .invalidSettings)

/-- Two commands agree in what is read for the settings that a path names. The file at the standard
place is read only without a path. -/
def SameFile (files other : Files) : Option String → Prop
  | some path => other.contents? path = files.contents? path
  | none => other.standard = files.standard ∧ other.standardPath = files.standardPath

/-! ### Requirements -/

/-- What a command needs before it prints the forms of a word. -/
inductive Requirement where
  | settings
  | dictionary
  | wordClass
  | word
  | form
  | support
  | subject
  deriving DecidableEq

namespace Requirement

/-- All requirements, in the order in which a command looks at them. -/
def all : List Requirement :=
  [settings, dictionary, wordClass, word, form, support, subject]

/-- The position of a requirement in this order. -/
def index (requirement : Requirement) : Nat :=
  all.idxOf requirement

/-- What a requirement asks. Where it depends on an earlier one that is not met, it asks nothing. -/
def Met (files : Files) (arguments : Arguments) : Requirement → Prop
  | settings => ∃ chosen, Loads files arguments.settingsPath chosen
  | dictionary => ∃ text, arguments.dictionary = some text
  | wordClass => ∃ named : WordClass, named.keyword = arguments.wordClass
  | word => ∀ (named : WordClass) (text : String), named.keyword = arguments.wordClass →
      arguments.dictionary = some text → ∃ word, Word.ofDictionary? named text = .ok word
  | form => ∀ (named : WordClass) (keyword : String), named.keyword = arguments.wordClass →
      arguments.form = some keyword →
        ∃ form : Form, form.isVerbal = named.isVerb ∧ form.keyword = keyword
  | support => ¬(arguments.wordClass = WordClass.iAdjective.keyword ∧
      arguments.form = some AdjectiveForm.te.keyword)
  | subject => ¬(arguments.question.isSome = true ∧ arguments.subject = some "")

/-- The failure of a requirement that is not met. -/
inductive FailsBy (files : Files) (arguments : Arguments) : Requirement → Failure → Prop
  | settings {failure : Failure} (hfails : LoadFails files arguments.settingsPath failure) :
      FailsBy files arguments settings failure
  | dictionary (hnone : arguments.dictionary = none) :
      FailsBy files arguments dictionary .missingWord
  | wordClass (hnone : ∀ named : WordClass, named.keyword ≠ arguments.wordClass) :
      FailsBy files arguments wordClass (.unknownClass arguments.wordClass)
  | word {named : WordClass} {text : String} {cause : Error}
      (hnamed : named.keyword = arguments.wordClass) (hgiven : arguments.dictionary = some text)
      (hrefused : Word.ofDictionary? named text = .error cause) :
      FailsBy files arguments word (.refused cause)
  | form {named : WordClass} {keyword : String} (hnamed : named.keyword = arguments.wordClass)
      (hasked : arguments.form = some keyword)
      (hnone : ∀ form : Form, form.isVerbal = named.isVerb → form.keyword ≠ keyword) :
      FailsBy files arguments form (.unknownForm keyword named)
  | support (hnamed : arguments.wordClass = WordClass.iAdjective.keyword)
      (hasked : arguments.form = some AdjectiveForm.te.keyword) :
      FailsBy files arguments support
        (.refused (.unsupportedForm .iAdjective AdjectiveForm.te.keyword))
  | subject (hquestion : arguments.question.isSome = true)
      (hempty : arguments.subject = some "") :
      FailsBy files arguments subject (.refused (.invalidLexeme .noun "" .emptyNoun))

/-- Two commands agree in what a requirement looks at. -/
def SameFor (files other : Files) (arguments others : Arguments) : Requirement → Prop
  | settings => others.settingsPath = arguments.settingsPath ∧
      SameFile files other arguments.settingsPath
  | dictionary => others.dictionary = arguments.dictionary
  | wordClass => others.wordClass = arguments.wordClass
  | word => others.wordClass = arguments.wordClass ∧ others.dictionary = arguments.dictionary
  | form => others.wordClass = arguments.wordClass ∧ others.form = arguments.form
  | support => others.wordClass = arguments.wordClass ∧ others.form = arguments.form
  | subject => others.question.isSome = arguments.question.isSome ∧
      others.subject = arguments.subject

/-- The requirement is the first one that is not met. -/
structure IsFirstUnmet (files : Files) (arguments : Arguments) (requirement : Requirement) :
    Prop where
  unmet : ¬ requirement.Met files arguments
  earlier_met : ∀ earlier : Requirement, earlier.index < requirement.index →
    earlier.Met files arguments

end Requirement

/-! ### Loading settings -/

section Loading

variable {files other : Files} {path : Option String} {chosen : Settings} {failure : Failure}

theorem settingsIn_of_some {text : String} (hvalid : Settings.ofToml? text = some chosen)
    (place : String) : settingsIn place text = .ok chosen := by
  rw [settingsIn, Settings.ofToml, hvalid]
  rfl

theorem settingsIn_of_none {text : String} (hinvalid : Settings.ofToml? text = none)
    (place : String) :
    settingsIn place text = .error (.invalidSettings place .invalidSettings) := by
  rw [settingsIn, Settings.ofToml, hinvalid]
  rfl

theorem Loads.settings_eq (hloads : Loads files path chosen) :
    settings files path = .ok chosen := by
  cases hloads with
  | named hread hvalid => simp only [settings, hread, settingsIn_of_some hvalid]
  | unnamed hread hvalid => simp only [settings, hread, settingsIn_of_some hvalid]
  | absent hnone => simp only [settings, hnone]

theorem LoadFails.settings_eq (hfails : LoadFails files path failure) :
    settings files path = .error failure := by
  cases hfails with
  | unreadable hread => simp only [settings, hread]
  | invalid hread hinvalid => simp only [settings, hread, settingsIn_of_none hinvalid]
  | unreadableStandard hread => simp only [settings, hread]
  | invalidStandard hread hinvalid => simp only [settings, hread, settingsIn_of_none hinvalid]

/-- A path names settings, or there is a failure. -/
theorem loads_or_loadFails (files : Files) (path : Option String) :
    (∃ chosen, Loads files path chosen) ∨ ∃ failure, LoadFails files path failure := by
  cases path with
  | some place =>
    cases hread : files.contents? place with
    | none => exact .inr ⟨_, .unreadable hread⟩
    | some text =>
      cases hvalid : Settings.ofToml? text with
      | some chosen => exact .inl ⟨chosen, .named hread hvalid⟩
      | none => exact .inr ⟨_, .invalid hread hvalid⟩
  | none =>
    cases hread : files.standard with
    | absent => exact .inl ⟨_, .absent hread⟩
    | unreadable => exact .inr ⟨_, .unreadableStandard hread⟩
    | contents text =>
      cases hvalid : Settings.ofToml? text with
      | some chosen => exact .inl ⟨chosen, .unnamed hread hvalid⟩
      | none => exact .inr ⟨_, .invalidStandard hread hvalid⟩

theorem Loads.congr (hloads : Loads files path chosen) (hsame : SameFile files other path) :
    Loads other path chosen := by
  cases hloads with
  | named hread hvalid => exact .named (Eq.trans hsame hread) hvalid
  | unnamed hread hvalid => exact .unnamed (hsame.1.trans hread) hvalid
  | absent hnone => exact .absent (hsame.1.trans hnone)

theorem LoadFails.congr (hfails : LoadFails files path failure)
    (hsame : SameFile files other path) : LoadFails other path failure := by
  cases hfails with
  | unreadable hread => exact .unreadable (Eq.trans hsame hread)
  | invalid hread hinvalid => exact .invalid (Eq.trans hsame hread) hinvalid
  | unreadableStandard hread => exact hsame.2 ▸ .unreadableStandard (hsame.1.trans hread)
  | invalidStandard hread hinvalid =>
    exact hsame.2 ▸ .invalidStandard (hsame.1.trans hread) hinvalid

end Loading

/-! ### Requirements that are not met -/

namespace Requirement

variable {files other : Files} {arguments others : Arguments} {requirement : Requirement}
  {failure : Failure}

/-- A requirement that is not met has a failure. -/
theorem exists_failsBy (hunmet : ¬ requirement.Met files arguments) :
    ∃ failure, requirement.FailsBy files arguments failure := by
  cases requirement with
  | settings =>
    obtain ⟨failure, hfails⟩ := (loads_or_loadFails files _).resolve_left hunmet
    exact ⟨failure, .settings hfails⟩
  | dictionary =>
    exact ⟨_, .dictionary (Option.eq_none_iff_forall_ne_some.2 fun text h => hunmet ⟨text, h⟩)⟩
  | wordClass => exact ⟨_, .wordClass fun named h => hunmet ⟨named, h⟩⟩
  | word =>
    simp only [Met, Classical.not_forall, not_exists] at hunmet
    obtain ⟨named, text, hnamed, hgiven, hnone⟩ := hunmet
    cases hread : Word.ofDictionary? named text with
    | ok word => exact absurd hread (hnone word)
    | error cause => exact ⟨_, .word hnamed hgiven hread⟩
  | form =>
    simp only [Met, Classical.not_forall, not_exists, not_and] at hunmet
    obtain ⟨named, keyword, hnamed, hasked, hnone⟩ := hunmet
    exact ⟨_, .form hnamed hasked hnone⟩
  | support =>
    obtain ⟨hnamed, hasked⟩ := Decidable.not_not.1 hunmet
    exact ⟨_, .support hnamed hasked⟩
  | subject =>
    obtain ⟨hquestion, hempty⟩ := Decidable.not_not.1 hunmet
    exact ⟨_, .subject hquestion hempty⟩

/-- Where some requirement is not met, there is a first one. -/
theorem exists_isFirstUnmet (hunmet : ¬ requirement.Met files arguments) :
    ∃ first, IsFirstUnmet files arguments first := by
  induction hn : requirement.index using Nat.strongRecOn generalizing requirement with
  | ind n ih =>
    by_cases hall : ∀ earlier : Requirement, earlier.index < requirement.index →
        earlier.Met files arguments
    · exact ⟨requirement, hunmet, hall⟩
    · simp only [Classical.not_forall] at hall
      obtain ⟨earlier, hbefore, hearlier⟩ := hall
      exact ih earlier.index (hn ▸ hbefore) hearlier rfl

/-! What a requirement looks at decides if it is met, and by which failure it is not. -/

theorem Met.congr (hmet : requirement.Met files arguments)
    (hsame : requirement.SameFor files other arguments others) : requirement.Met other others := by
  cases requirement with
  | settings =>
    obtain ⟨chosen, hloads⟩ := hmet
    exact ⟨chosen, hsame.1 ▸ hloads.congr hsame.2⟩
  | dictionary =>
    obtain ⟨text, hgiven⟩ := hmet
    exact ⟨text, Eq.trans hsame hgiven⟩
  | wordClass =>
    obtain ⟨named, hnamed⟩ := hmet
    exact ⟨named, hnamed.trans (Eq.symm hsame)⟩
  | word =>
    intro named text hnamed hgiven
    exact hmet named text (hnamed.trans hsame.1) (hsame.2.symm.trans hgiven)
  | form =>
    intro named keyword hnamed hasked
    exact hmet named keyword (hnamed.trans hsame.1) (hsame.2.symm.trans hasked)
  | support =>
    intro h
    exact hmet ⟨hsame.1.symm.trans h.1, hsame.2.symm.trans h.2⟩
  | subject =>
    intro h
    exact hmet ⟨hsame.1.symm.trans h.1, hsame.2.symm.trans h.2⟩

theorem FailsBy.congr (hfails : requirement.FailsBy files arguments failure)
    (hsame : requirement.SameFor files other arguments others) :
    requirement.FailsBy other others failure := by
  cases hfails with
  | settings hfails => exact .settings (hsame.1 ▸ hfails.congr hsame.2)
  | dictionary hnone => exact .dictionary (Eq.trans hsame hnone)
  | wordClass hnone =>
    have hclass : others.wordClass = arguments.wordClass := hsame
    rw [← hclass] at hnone ⊢
    exact .wordClass hnone
  | word hnamed hgiven hrefused =>
    exact .word (hnamed.trans hsame.1.symm) (hsame.2.trans hgiven) hrefused
  | form hnamed hasked hnone =>
    exact .form (hnamed.trans hsame.1.symm) (hsame.2.trans hasked) hnone
  | support hnamed hasked => exact .support (hsame.1.trans hnamed) (hsame.2.trans hasked)
  | subject hquestion hempty => exact .subject (hsame.1.trans hquestion) (hsame.2.trans hempty)

end Requirement

end JapaneseInflection.CommandLine

import JapaneseInflection.Log

/-!
# Conjugation

A conjugator puts words into forms and logs each attempt. What it makes are fragments: the stem,
or an irregular form in full, and at most two exponents.

* `Conjugator.verb`, `Conjugator.adjective` and `Conjugator.word` conjugate, and fail where the
  word has no such form.
* `Verb.inTheForm`, `Adjective.inTheForm` and `Word.inTheForm` give the text made by the standard
  conjugator.
-/

namespace JapaneseInflection

/-- A conjugated word: the stem or an irregular form, and at most two exponents. -/
abbrev Inflected := Fragments 3

/-- The choices that conjugation depends on. -/
structure Conjugator where
  causative : Causative := .collapsed
  deriving DecidableEq

namespace Conjugator

/-- The conjugator of the standard settings. -/
def standard : Conjugator := {}

/-- The conjugator of the given settings. -/
def ofSettings (settings : Settings) : Conjugator where
  causative := settings.causative

/-- The fragments that store a spelling: its root, and the exponents pushed behind it. -/
def store (spelling : Spelling) : Except Error Inflected :=
  ((Fragments.single spelling.root).bind (·.pushAll spelling.exponents)).mapError .storage

/-- A verb in a form. -/
def verb (conjugator : Conjugator) (verb : Verb) (form : VerbForm) :
    Recorded (Except Error Inflected) := do
  Recorded.event (.conjugating verb.wordClass (.verb form))
  match verb.spelling? conjugator.causative form with
  | some spelling => return store spelling
  | none => return .error (.unsupportedForm verb.wordClass form.keyword)

/-- An adjective in a form, if it has the form. -/
def adjective (_ : Conjugator) (adjective : Adjective) (form : AdjectiveForm) :
    Recorded (Except Error Inflected) := do
  Recorded.event (.conjugating adjective.wordClass (.adjective form))
  match adjective.spelling? form with
  | some spelling => return store spelling
  | none => return .error (.unsupportedForm adjective.wordClass form.keyword)

/-- A word in a form. A form of the other kind of words is refused without an attempt. -/
def word (conjugator : Conjugator) (word : Word) (form : Form) :
    Recorded (Except Error Inflected) :=
  match word, form with
  | .verb v, .verb f => conjugator.verb v f
  | .adjective a, .adjective f => conjugator.adjective a f
  | word, form => return .error (.unsupportedForm word.wordClass form.keyword)

theorem value_verb (conjugator : Conjugator) (verb : Verb) (form : VerbForm) :
    (conjugator.verb verb form).value =
      match verb.spelling? conjugator.causative form with
      | some spelling => store spelling
      | none => .error (.unsupportedForm verb.wordClass form.keyword) := by
  unfold Conjugator.verb
  cases verb.spelling? conjugator.causative form <;> rfl

theorem log_verb (conjugator : Conjugator) (verb : Verb) (form : VerbForm) :
    (conjugator.verb verb form).log = [.conjugating verb.wordClass (.verb form)] := by
  unfold Conjugator.verb
  cases verb.spelling? conjugator.causative form <;> rfl

theorem value_adjective (conjugator : Conjugator) (adjective : Adjective) (form : AdjectiveForm) :
    (conjugator.adjective adjective form).value =
      match adjective.spelling? form with
      | some spelling => store spelling
      | none => .error (.unsupportedForm adjective.wordClass form.keyword) := by
  unfold Conjugator.adjective
  cases adjective.spelling? form <;> rfl

theorem log_adjective (conjugator : Conjugator) (adjective : Adjective) (form : AdjectiveForm) :
    (conjugator.adjective adjective form).log =
      [.conjugating adjective.wordClass (.adjective form)] := by
  unfold Conjugator.adjective
  cases adjective.spelling? form <;> rfl

end Conjugator

/-! ### Texts of the standard conjugator -/

/-- The text of conjugated fragments, under the failure and the log of their making. -/
def Recorded.text (made : Recorded (Except Error Inflected)) : Recorded (Except Error String) :=
  return (← made).map Fragments.text

/-- The text of a verb in a form. -/
def Verb.inTheForm (verb : Verb) (form : VerbForm) : Recorded (Except Error String) :=
  (Conjugator.standard.verb verb form).text

/-- The text of an adjective in a form. -/
def Adjective.inTheForm (adjective : Adjective) (form : AdjectiveForm) :
    Recorded (Except Error String) :=
  (Conjugator.standard.adjective adjective form).text

/-- The text of a word in a form. -/
def Word.inTheForm (word : Word) (form : Form) : Recorded (Except Error String) :=
  (Conjugator.standard.word word form).text

end JapaneseInflection

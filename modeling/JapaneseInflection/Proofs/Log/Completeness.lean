import JapaneseInflection.Proofs.Inflection.Resolution
import JapaneseInflection.Proofs.Lexicon.RoundTrip
import JapaneseInflection.Settings.Read

/-!
# What the log tells

Whatever is done with words and settings, the log tells each attempt at a form and each reading of
settings that succeeded, in order, and nothing else. An attempt is told by class and form alone:
before it is known whether the word has the form, and without a look at stem, ending or settings.

* `Paradigm.log_fill`: filling a paradigm leaves the events of its attempts, those that are passed
  over included.
* `Program` is anything done by calls, each of which may depend on the answers to those before it.
* `Call.topic` keeps of a call its classes and forms, and `Topic.events` is what they decide.
* `log_complete` is the whole account.
-/

namespace JapaneseInflection

/-! ### Attempts -/

namespace Conjugator

variable {word : Word} {form : Form}

/-- An attempt at a form of the kind of the word leaves one event, whatever comes of it. -/
theorem log_word_of_matches (conjugator : Conjugator) (hm : word.Matches form) :
    (conjugator.word word form).log = [.conjugating word.wordClass form] := by
  cases hm with
  | verb v f => exact conjugator.log_verb v f
  | adjective a f => exact conjugator.log_adjective a f

/-- A form of the other kind is refused without an event. -/
theorem log_word_of_not_matches (conjugator : Conjugator) (hm : ¬ word.Matches form) :
    (conjugator.word word form).log = [] := by
  rcases word with v | a <;> rcases form with f | f
  · exact absurd (.verb v f) hm
  · rfl
  · rfl
  · exact absurd (.adjective a f) hm

end Conjugator

/-! ### Paradigms -/

/-- **Filling a paradigm leaves the events of its attempts.** If the failures among the attempts may
be passed over, the log of the filling is that of the attempts at all given forms, in order. -/
theorem Paradigm.log_fill {F : Type} [DecidableEq F]
    {attempt : F → Recorded (Except Error Inflected)} {passOver : Error → Bool}
    (hpassed : ∀ form cause, (attempt form).value = .error cause → passOver cause = true)
    (forms : List F) (paradigm : Paradigm F) :
    (fill attempt passOver forms paradigm).log = forms.flatMap fun form => (attempt form).log := by
  -- the log does not depend on the paradigm filled so far, but the recursion changes it
  induction forms generalizing paradigm with
  | nil => rfl
  | cons form forms ih =>
    rw [fill, Recorded.log_bind, List.flatMap_cons]
    congr 1
    cases hv : (attempt form).value with
    | ok made => exact ih (paradigm.insert form made.text)
    | error cause =>
      simp only [hpassed form cause hv, if_true]
      exact ih paradigm

namespace Conjugator

/-- A verb is refused no form of verbs. -/
theorem exists_made_verb (conjugator : Conjugator) (verb : Verb) (form : VerbForm) :
    ∃ made, (conjugator.verb verb form).value = .ok made := by
  have hform : (Word.verb verb).wordClass.HasForm (.verb form) := by
    refine ⟨verb.wordClass_isVerb.symm, ?_⟩
    intro h
    cases h.2
  exact exists_made_iff.2 hform

/-- The paradigm of a verb leaves one event for each form of verbs, in order of declaration. -/
theorem log_verbParadigm (conjugator : Conjugator) (verb : Verb) :
    (conjugator.verbParadigm verb).log =
      VerbForm.all.map fun form => .conjugating verb.wordClass (.verb form) := by
  -- a failure would end the filling, and with it the log
  have hpassed : ∀ form cause, (conjugator.verb verb form).value = .error cause →
      false = true := by
    intro form cause he
    obtain ⟨made, hm⟩ := conjugator.exists_made_verb verb form
    rw [hm] at he
    cases he
  rw [verbParadigm, Paradigm.log_fill hpassed, List.map_eq_flatMap]
  simp only [log_verb]

/-- The paradigm of an adjective leaves an event for the basic form, by which it is cited, and then
one for each form of adjectives, in order of declaration. -/
theorem log_adjectiveParadigm (conjugator : Conjugator) (adjective : Adjective) :
    (conjugator.adjectiveParadigm adjective).log =
      .conjugating adjective.wordClass (.adjective .basic) ::
        AdjectiveForm.all.map fun form => .conjugating adjective.wordClass (.adjective form) := by
  have hpassed : ∀ form cause, (conjugator.adjective adjective form).value = .error cause →
      cause.isUnsupportedForm = true := by
    intro form cause he
    have herror : (conjugator.word (.adjective adjective) (.adjective form)).value =
        .error cause := he
    rw [error_of_value_word herror]
    rfl
  obtain ⟨basic, hb, -⟩ := conjugator.exists_citation (.adjective adjective)
  have hbasic : (conjugator.adjective adjective .basic).value = .ok basic := hb
  rw [adjectiveParadigm, Recorded.log_bind, hbasic, log_adjective, List.map_eq_flatMap]
  show _ :: (Paradigm.fill _ _ _ _).log = _
  rw [Paradigm.log_fill hpassed]
  simp only [log_adjective]

/-- An i-adjective has no te. It is tried all the same, and then left out. -/
example : ((standard.adjectiveParadigm Adjective.ii).value.toOption.map Paradigm.size,
    (standard.adjectiveParadigm Adjective.ii).log.length) = (some 4, 6) := by
  decide

end Conjugator

/-! ### Settings -/

/-- A reading that succeeds leaves one event with the settings that were read, and one that fails
leaves none. -/
theorem Settings.log_ofToml (document : String) :
    (ofToml document).log = ((ofToml document).value.toOption.map Event.settingsRead).toList := by
  rw [ofToml]
  cases ofToml? document <;> rfl

/-! ### Programs -/

/-- A call that may leave events. A verb or an adjective is conjugated as the word that it is. -/
inductive Call where
  | conjugate (conjugator : Conjugator) (word : Word) (form : Form)
  | inTheForm (word : Word) (form : Form)
  | verbParadigm (conjugator : Conjugator) (verb : Verb)
  | adjectiveParadigm (conjugator : Conjugator) (adjective : Adjective)
  | readSettings (document : String)

/-- What calls are about: a class and a form, a class alone, or the settings that were read. -/
inductive Topic where
  | attempt (wordClass : WordClass) (form : Form)
  | paradigm (wordClass : WordClass)
  | reading (read : Option Settings)

/-- The events of a topic. -/
def Topic.events : Topic → List Event
  | attempt wordClass form =>
    if form.isVerbal = wordClass.isVerb then [.conjugating wordClass form] else []
  | paradigm wordClass =>
    if wordClass.isVerb then
      VerbForm.all.map fun form => .conjugating wordClass (.verb form)
    else
      .conjugating wordClass (.adjective .basic) ::
        AdjectiveForm.all.map fun form => .conjugating wordClass (.adjective form)
  | reading read => (read.map Event.settingsRead).toList

namespace Call

/-- The type of the answer to a call. -/
def Answer : Call → Type
  | conjugate _ _ _ => Except Error Inflected
  | inTheForm _ _ => Except Error String
  | verbParadigm _ _ => Except Error (Paradigm VerbForm)
  | adjectiveParadigm _ _ => Except Error (Paradigm AdjectiveForm)
  | readSettings _ => Except Error Settings

/-- The answer to a call, with the events that it leaves. -/
def perform : (call : Call) → Recorded call.Answer
  | conjugate conjugator word form => conjugator.word word form
  | inTheForm word form => word.inTheForm form
  | verbParadigm conjugator verb => conjugator.verbParadigm verb
  | adjectiveParadigm conjugator adjective => conjugator.adjectiveParadigm adjective
  | readSettings document => Settings.ofToml document

/-- What a call is about. Stems, endings and the settings of the conjugator are dropped. -/
def topic : Call → Topic
  | conjugate _ word form => .attempt word.wordClass form
  | inTheForm word form => .attempt word.wordClass form
  | verbParadigm _ verb => .paradigm verb.wordClass
  | adjectiveParadigm _ adjective => .paradigm adjective.wordClass
  | readSettings document => .reading (Settings.ofToml document).value.toOption

theorem log_conjugate (conjugator : Conjugator) (word : Word) (form : Form) :
    (conjugator.word word form).log = (Topic.attempt word.wordClass form).events := by
  by_cases hm : word.Matches form
  · rw [conjugator.log_word_of_matches hm, Topic.events, if_pos (Word.matches_iff.1 hm)]
  · rw [conjugator.log_word_of_not_matches hm, Topic.events,
      if_neg fun h => hm (Word.matches_iff.2 h)]

/-- A call leaves the events of its topic. -/
theorem log_perform (call : Call) : call.perform.log = call.topic.events := by
  cases call with
  | conjugate conjugator word form => exact log_conjugate conjugator word form
  | inTheForm word form =>
    show (Conjugator.standard.word word form).log ++ [] = _
    rw [List.append_nil]
    exact log_conjugate .standard word form
  | verbParadigm conjugator verb =>
    show (conjugator.verbParadigm verb).log = _
    rw [conjugator.log_verbParadigm, topic, Topic.events, if_pos verb.wordClass_isVerb]
  | adjectiveParadigm conjugator adjective =>
    have hkind : ¬ adjective.wordClass.isVerb = true := by
      rw [adjective.wordClass_isVerb]
      exact Bool.false_ne_true
    show (conjugator.adjectiveParadigm adjective).log = _
    rw [conjugator.log_adjectiveParadigm, topic, Topic.events, if_neg hkind]
  | readSettings document => exact Settings.log_ofToml document

end Call

/-- Something done by calls: each call may depend on the answers to those before it. What leaves no
events, such as reading a word or composing a phrase, is done between the calls. -/
inductive Program (α : Type) where
  | done (result : α)
  | after (call : Call) (next : call.Answer → Program α)

namespace Program

variable {α : Type}

/-- The result of a program, with the events that it leaves. -/
def run : Program α → Recorded α
  | done result => return result
  | after call next => do (next (← call.perform)).run

/-- The calls that a program makes, in order. -/
def calls : Program α → List Call
  | done _ => []
  | after call next => call :: (next call.perform.value).calls

/-- **A program leaves the events of the topics of its calls**, in order. -/
theorem log_run (program : Program α) :
    program.run.log = (program.calls.map Call.topic).flatMap Topic.events := by
  induction program with
  | done result => rfl
  | after call next ih =>
    rw [run, Recorded.log_bind, calls, List.map_cons, List.flatMap_cons, call.log_perform, ih]

end Program

/-- **The log is complete.** An attempt at a form of the kind of the word leaves one trace, with the
class of the word and the keyword of the form, whether or not the word has the form; a form of the
other kind leaves none. The paradigm of a verb leaves one for each form, in order of declaration,
and that of an adjective one for the basic form before those. A reading of settings leaves one
event, with the settings, exactly if it succeeds. A program leaves the events of its calls, in
order, and classes, forms and the settings that were read decide which these are: words that differ
in stem or ending and conjugators that differ in their settings leave the same log. -/
theorem log_complete :
    (∀ (settings : Settings) (word : Word) (form : Form),
      (word.Matches form → ((Conjugator.ofSettings settings).word word form).log =
        [.conjugating word.wordClass form]) ∧
      (¬ word.Matches form → ((Conjugator.ofSettings settings).word word form).log = [])) ∧
    (∀ (settings : Settings) (verb : Verb),
      ((Conjugator.ofSettings settings).verbParadigm verb).log =
        VerbForm.all.map fun form => .conjugating verb.wordClass (.verb form)) ∧
    (∀ (settings : Settings) (adjective : Adjective),
      ((Conjugator.ofSettings settings).adjectiveParadigm adjective).log =
        .conjugating adjective.wordClass (.adjective .basic) ::
          AdjectiveForm.all.map fun form => .conjugating adjective.wordClass (.adjective form)) ∧
    (∀ document : String,
      (∃ settings, (Settings.ofToml document).value = .ok settings ∧
        (Settings.ofToml document).log = [.settingsRead settings]) ∨
      (∃ cause, (Settings.ofToml document).value = .error cause ∧
        (Settings.ofToml document).log = [])) ∧
    (∀ (wordClass : WordClass) (form : Form),
      (Event.conjugating wordClass form).level = "TRACE" ∧
      (Event.conjugating wordClass form).fields =
        [("class", wordClass.keyword), ("form", form.keyword)]) ∧
    (∀ settings : Settings,
      (Event.settingsRead settings).level = "DEBUG" ∧
      (Event.settingsRead settings).fields = [("config", settings.describe)]) ∧
    (∀ (α : Type) (program : Program α),
      program.run.log = (program.calls.map Call.topic).flatMap Topic.events) ∧
    (∀ (α β : Type) (program : Program α) (other : Program β),
      program.calls.map Call.topic = other.calls.map Call.topic →
        program.run.log = other.run.log) := by
  refine ⟨fun settings word form => ⟨?_, ?_⟩, fun settings => ?_, fun settings => ?_,
    fun document => ?_, fun wordClass form => ⟨rfl, rfl⟩, fun settings => ⟨rfl, rfl⟩,
    fun α program => program.log_run, fun α β program other hsame => ?_⟩
  · exact Conjugator.log_word_of_matches _
  · exact Conjugator.log_word_of_not_matches _
  · exact Conjugator.log_verbParadigm _
  · exact Conjugator.log_adjectiveParadigm _
  · have hlog := Settings.log_ofToml document
    cases hv : (Settings.ofToml document).value with
    | ok settings =>
      rw [hv] at hlog
      exact Or.inl ⟨settings, rfl, hlog⟩
    | error cause =>
      rw [hv] at hlog
      exact Or.inr ⟨cause, rfl, hlog⟩
  · rw [program.log_run, other.log_run, hsame]

end JapaneseInflection

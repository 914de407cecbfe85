import JapaneseInflection.CommandLine.Arguments
import JapaneseInflection.Inflection.Conjugator
import JapaneseInflection.Phrase.Template
import JapaneseInflection.Settings.Read

/-!
# Running the command

The command lists classes or forms, or prints a word in one or all of its forms, each on a line.

* `run` is the outcome of a command line over the files it may read; `runArguments` is that of
  arguments already read.
* `printForms` prints form after form, and what was printed before a failure stays printed.
* `Failure.messages` words a failure and what caused it.

The outcome is that of a command whose log shows nothing. The events that `Settings.ofToml` and
`Conjugator.word` leave are dropped here, and those of the command itself, which tell that there is
no settings file and that a form is passed over, are left out: all of them are of the levels DEBUG
and TRACE, which the filter of the log lets through only where the environment asks for them. They
would then stand among the printed lines.
-/

namespace JapaneseInflection.CommandLine

/-- Why a command fails. -/
inductive Failure where
  | usage
  | unreadableSettings (path : String)
  | invalidSettings (path : String) (cause : Error)
  | missingWord
  | unknownClass (keyword : String)
  | unknownForm (keyword : String) (wordClass : WordClass)
  | refused (cause : Error)
  deriving DecidableEq

/-- The wording of a failure, followed by that of its cause if it has one. -/
def Failure.messages : Failure → List String
  | usage => ["usage"]
  | unreadableSettings path => [path]
  | invalidSettings path cause => [path, cause.message]
  | missingWord => ["Missing word to conjugate, try `--help`"]
  | unknownClass keyword => ["Invalid word class `" ++ keyword ++ "`"]
  | unknownForm keyword wordClass =>
    ["Invalid form `" ++ keyword ++ "` for " ++ wordClass.keyword ++ " words"]
  | refused cause => [cause.message]

/-- What a command leaves: its output, and the failure that ended it if one did. -/
structure Outcome where
  output : String
  failure : Option Failure
  deriving DecidableEq

namespace Outcome

/-- The end of a command that succeeds. -/
def done : Outcome := ⟨"", none⟩

/-- The end of a command that fails. -/
def fail (failure : Failure) : Outcome := ⟨"", some failure⟩

/-- An outcome with a line printed before it. -/
def afterLine (line : String) (outcome : Outcome) : Outcome :=
  { outcome with output := line ++ "\n" ++ outcome.output }

/-- A command that prints the given lines and succeeds. -/
def ofLines (lines : List String) : Outcome :=
  lines.foldr afterLine done

end Outcome

/-! ### Lists of keywords -/

/-- The lines of the list of classes. -/
def classLines : List String :=
  "Available `--class` arguments:" ::
    WordClass.all.map fun wordClass => wordClass.keyword ++ " - " ++ wordClass.help

/-- The lines on the forms of one system. -/
def formSystemLines (F : Type) [DecidableEq F] [FormSystem F] : List String :=
  (FormSystem.all : List F).map fun form =>
    FormSystem.keyword form ++ " - " ++ FormSystem.label form ++ " / " ++ FormSystem.title form

/-- The lines of the list of forms. -/
def formLines : List String :=
  "Available `--form` arguments for verbs:" :: formSystemLines VerbForm ++
    "" :: "Available `--form` arguments for adjectives:" :: formSystemLines AdjectiveForm

/-! ### Settings -/

/-- The state of the settings file at its standard place. -/
inductive StandardFile where
  | absent
  | unreadable
  | contents (text : String)

/-- The files that a command may read. -/
structure Files where
  contents? : String → Option String
  standardPath : String
  standard : StandardFile

/-- The settings in the text of the file with the given path. -/
def settingsIn (path text : String) : Except Failure Settings :=
  (Settings.ofToml text).value.mapError (.invalidSettings path)

/-- The settings of a command: those of the file it names, else those of the file at the standard
place, else the standard ones. -/
def settings (files : Files) : Option String → Except Failure Settings
  | some path =>
    match files.contents? path with
    | some text => settingsIn path text
    | none => .error (.unreadableSettings path)
  | none =>
    match files.standard with
    | .absent => .ok .standard
    | .unreadable => .error (.unreadableSettings files.standardPath)
    | .contents text => settingsIn files.standardPath text

/-! ### Lines of forms -/

/-- A conjugated word as part of a phrase. -/
def conjugatedPart : Word → String → Part
  | .verb _, text => .verb text
  | .adjective _, text => .adjective text

/-- The subject of a question. Without one, nothing stands in its place. -/
def subjectPart : Option String → Except Error Part
  | some text => do return .ofNoun (← Noun.ofText? text)
  | none => return Phrase.empty.toPart

/-- The phrase around a conjugated word: with a particle behind it, and inside a question, where
the arguments ask for them. -/
def phraseAround (arguments : Arguments) (settings : Settings) (part : Part) :
    Except Error Phrase :=
  let statement := match arguments.particle with
    | some particle => Phrase.attach part ⟨particle⟩
    | none => Phrase.empty.push part
  match arguments.question with
  | none => return statement
  | some adverb => do
    let subject ← subjectPart arguments.subject
    let question : Question := { adverb, subject, verb := statement.toPart }
    return (question.endedBy ⟨settings.questionParticle⟩).phrase

/-- The line of a form. -/
def lineOf (form : Form) (phrase : Phrase) : String :=
  form.keyword ++ " - " ++ phrase.text

/-- Print a word in the given forms. A form that the word does not have is passed over unless it
was asked for. -/
def printForms (arguments : Arguments) (settings : Settings) (word : Word) :
    List Form → Outcome
  | [] => .done
  | form :: forms =>
    match ((Conjugator.ofSettings settings).word word form).value with
    | .error cause =>
      if arguments.form.isNone && cause.isUnsupportedForm then
        printForms arguments settings word forms
      else .fail (.refused cause)
    | .ok made =>
      match phraseAround arguments settings (conjugatedPart word made.text) with
      | .error cause => .fail (.refused cause)
      | .ok phrase =>
        (printForms arguments settings word forms).afterLine (lineOf form phrase)

/-! ### The command -/

/-- The word that the arguments name. -/
def wordOf (arguments : Arguments) : Except Failure Word := do
  let some dictionary := arguments.dictionary | .error .missingWord
  let some wordClass := WordClass.ofKeyword? arguments.wordClass
    | .error (.unknownClass arguments.wordClass)
  (Word.ofDictionary? wordClass dictionary).mapError .refused

/-- The forms that the arguments ask for: one of them, or all that words of the kind can have. -/
def formsOf (arguments : Arguments) (word : Word) : Except Failure (List Form) :=
  match arguments.form with
  | none => .ok word.forms
  | some keyword =>
    match Form.ofKeyword? word.wordClass keyword with
    | some form => .ok [form]
    | none => .error (.unknownForm keyword word.wordClass)

/-- What is needed to print forms: the settings, the word and the forms, looked up in this
order. -/
def prepare (files : Files) (arguments : Arguments) :
    Except Failure (Settings × Word × List Form) := do
  let chosen ← settings files arguments.settingsPath
  let word ← wordOf arguments
  let forms ← formsOf arguments word
  return (chosen, word, forms)

/-- The outcome of a command with the given arguments. -/
def runArguments (files : Files) (arguments : Arguments) : Outcome :=
  if arguments.listClasses then .ofLines classLines
  else if arguments.listForms then .ofLines formLines
  else
    match prepare files arguments with
    | .error failure => .fail failure
    | .ok (chosen, word, forms) => printForms arguments chosen word forms

/-- The outcome of a command line. -/
def run (files : Files) (line : List String) : Outcome :=
  match Arguments.parse? line with
  | none => .fail .usage
  | some arguments => runArguments files arguments

end JapaneseInflection.CommandLine

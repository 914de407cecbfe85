/-!
# Command line arguments

* `Arguments.parse?` reads the arguments of a command line. It has no result where the arguments
  break the usage of the command or ask for help on it.
* `scan` splits a command line into occurrences of options, flags and words.
-/

namespace JapaneseInflection.CommandLine

/-- The options that take a value. -/
inductive ValueOption where
  | wordClass
  | form
  | particle
  | question
  | subject
  | settings
  deriving DecidableEq

/-- The options that take no value. -/
inductive Flag where
  | listClasses
  | listForms
  deriving DecidableEq

/-- The long name of an option that takes a value. -/
def ValueOption.name : ValueOption → String
  | wordClass => "class"
  | form => "form"
  | particle => "particle"
  | question => "question"
  | subject => "subject"
  | settings => "config"

/-- The option that takes a value and has the given long name. -/
def ValueOption.ofName? (name : String) : Option ValueOption :=
  [wordClass, form, particle, question, subject, settings].find? (·.name == name)

/-- The option that takes a value and has the given letter. -/
def ValueOption.ofLetter? : Char → Option ValueOption
  | 'c' => some wordClass
  | 'f' => some form
  | _ => none

/-- The flag with the given long name. -/
def Flag.ofName? : String → Option Flag
  | "list-classes" => some listClasses
  | "list-forms" => some listForms
  | _ => none

/-- What a single argument is: a word, a flag, an option with its value, an option whose value is
the next argument, or the mark behind which all arguments are words. -/
inductive Argument where
  | word (text : String)
  | flag (flag : Flag)
  | valued (option : ValueOption) (value : String)
  | awaiting (option : ValueOption)
  | wordsFollow

/-- The name before the first equals sign, and the value behind it if there is one. -/
def splitValue (text : List Char) : String × Option String :=
  match text.dropWhile (· != '=') with
  | [] => (String.ofList text, none)
  | _ :: value => (String.ofList (text.takeWhile (· != '=')), some (String.ofList value))

/-- An argument that starts with two hyphens. -/
def longArgument? (text : List Char) : Option Argument :=
  match splitValue text with
  | (name, some value) => (ValueOption.ofName? name).map fun option => .valued option value
  | (name, none) =>
    ((ValueOption.ofName? name).map .awaiting) <|> ((Flag.ofName? name).map .flag)

/-- An argument that starts with one hyphen, in front of the given letter. A value may follow the
letter at once or behind an equals sign. -/
def shortArgument? (letter : Char) (rest : List Char) : Option Argument := do
  let option ← ValueOption.ofLetter? letter
  match rest with
  | [] => return .awaiting option
  | '=' :: value => return .valued option (String.ofList value)
  | value => return .valued option (String.ofList value)

/-- What an argument is, unless its name is unknown. A lone hyphen is a word. -/
def argument? (text : String) : Option Argument :=
  match text.toList with
  | ['-', '-'] => some .wordsFollow
  | '-' :: '-' :: long => longArgument? long
  | '-' :: letter :: rest => shortArgument? letter rest
  | _ => some (.word text)

/-- Test if an argument may be the value of the option before it. -/
def isValue (text : String) : Bool :=
  match text.toList with
  | '-' :: _ :: _ => false
  | _ => true

/-- Something given on a command line. -/
inductive Occurrence where
  | word (text : String)
  | flag (flag : Flag)
  | valued (option : ValueOption) (value : String)

/-- All that is given on a command line, unless an option is unknown or lacks its value. -/
def scan : List String → Option (List Occurrence)
  | [] => some []
  | text :: rest => do
    match ← argument? text with
    | .word word => return .word word :: (← scan rest)
    | .flag flag => return .flag flag :: (← scan rest)
    | .valued option value => return .valued option value :: (← scan rest)
    | .wordsFollow => return rest.map .word
    | .awaiting option =>
      match rest with
      | [] => none
      | value :: others =>
        if isValue value then return .valued option value :: (← scan others) else none

/-- The arguments of the command. -/
structure Arguments where
  wordClass : String := "godan"
  form : Option String := none
  particle : Option String := none
  question : Option String := none
  subject : Option String := none
  listClasses : Bool := false
  listForms : Bool := false
  settingsPath : Option String := none
  dictionary : Option String := none
  deriving DecidableEq

/-- The only entry of a list, or none from an empty list. A list of more is refused. -/
def atMostOne? {α : Type} : List α → Option (Option α)
  | [] => some none
  | [a] => some (some a)
  | _ => none

/-- The values given for an option. -/
def valuesOf (option : ValueOption) (occurrences : List Occurrence) : List String :=
  occurrences.filterMap fun
    | .valued other value => if other = option then some value else none
    | _ => none

/-- The times a flag is given. -/
def timesOf (flag : Flag) (occurrences : List Occurrence) : List Unit :=
  occurrences.filterMap fun
    | .flag other => if other = flag then some () else none
    | _ => none

/-- The words given. -/
def wordsOf (occurrences : List Occurrence) : List String :=
  occurrences.filterMap fun
    | .word text => some text
    | _ => none

namespace Arguments

/-- The arguments that occurrences make. Nothing may be given twice, a path of settings is not
empty, and a subject needs a question. -/
def ofOccurrences? (occurrences : List Occurrence) : Option Arguments := do
  let wordClass ← atMostOne? (valuesOf .wordClass occurrences)
  let form ← atMostOne? (valuesOf .form occurrences)
  let particle ← atMostOne? (valuesOf .particle occurrences)
  let question ← atMostOne? (valuesOf .question occurrences)
  let subject ← atMostOne? (valuesOf .subject occurrences)
  let settingsPath ← atMostOne? (valuesOf .settings occurrences)
  let listClasses ← atMostOne? (timesOf .listClasses occurrences)
  let listForms ← atMostOne? (timesOf .listForms occurrences)
  let dictionary ← atMostOne? (wordsOf occurrences)
  if settingsPath = some "" || (subject.isSome && question.isNone) then none
  return {
    wordClass := wordClass.getD "godan"
    form, particle, question, subject, settingsPath, dictionary
    listClasses := listClasses.isSome
    listForms := listForms.isSome }

/-- The arguments of a command line. -/
def parse? (line : List String) : Option Arguments := do
  ofOccurrences? (← scan line)

end Arguments

end JapaneseInflection.CommandLine

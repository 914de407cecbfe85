import JapaneseInflection.Fragments
import JapaneseInflection.Inflection.Form

/-!
# Errors

What can go wrong when a word is built or conjugated, or when settings are read.

* `Error` names the cause; `Error.message` is its wording.
-/

namespace JapaneseInflection

/-- What a text was meant to be when it was refused. -/
inductive LexemeKind where
  | word (wordClass : WordClass)
  | noun
  deriving DecidableEq

/-- The name of a kind of lexeme. -/
def LexemeKind.name : LexemeKind → String
  | .word wordClass => wordClass.keyword
  | .noun => "noun"

/-- Why a text is not a lexeme of the kind asked for. -/
inductive Complaint where
  | emptyStem
  | emptyNoun
  | notGodanEnding
  | notIchidanEnding
  | notIAdjectiveEnding
  | notIrregular
  | otherIrregular
  | notVerbClass
  | notAdjectiveClass
  deriving DecidableEq

/-- The wording of a complaint. -/
def Complaint.text : Complaint → String
  | .emptyStem => "stem must not be empty"
  | .emptyNoun => "noun must not be empty"
  | .notGodanEnding => "ending must be one of う, く, ぐ, す, つ, ぬ, ぶ, む, る"
  | .notIchidanEnding => "ending must be る"
  | .notIAdjectiveEnding => "ending must be い"
  | .notIrregular => "only する and 来る are irregular"
  | .otherIrregular => "dictionary form belongs to another irregular verb"
  | .notVerbClass => "not a verb class"
  | .notAdjectiveClass => "not an adjective class"

/-- The causes of failure: a text is no lexeme of its kind, a form does not apply to the words of
a class, settings cannot be read, or fragments cannot be stored. -/
inductive Error where
  | invalidLexeme (kind : LexemeKind) (value : String) (complaint : Complaint)
  | unsupportedForm (wordClass : WordClass) (keyword : String)
  | invalidSettings
  | storage (fault : StorageFault)
  deriving DecidableEq

namespace Error

/-- The wording of an error. -/
def message : Error → String
  | invalidLexeme kind value complaint =>
    "Invalid " ++ kind.name ++ " `" ++ value ++ "`: " ++ complaint.text
  | unsupportedForm wordClass keyword =>
    "Form `" ++ keyword ++ "` is not supported by " ++ wordClass.keyword ++ " words"
  | invalidSettings => "Failed to parse configuration"
  | storage fault => fault.message

/-- Test for a form that does not apply to the words of a class. -/
def isUnsupportedForm : Error → Bool
  | unsupportedForm _ _ => true
  | _ => false

end Error

end JapaneseInflection

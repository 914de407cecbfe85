import JapaneseInflection.Inflection.Conjugator

/-!
# Paradigms

The paradigm of a word holds its text in every form that it has.

* `Paradigm.get?`, `Paradigm.toList` and `Paradigm.size` read a paradigm; `toList` goes through
  the forms in order of declaration.
* `Conjugator.verbParadigm` and `Conjugator.adjectiveParadigm` conjugate a word into all forms.
-/

namespace JapaneseInflection

/-- The dictionary form of a word and its text in each form that it has. -/
structure Paradigm (F : Type) where
  dictionary : String
  cell : F → Option String

namespace Paradigm

variable {F : Type}

/-- A paradigm without entries. -/
def empty (dictionary : String) : Paradigm F where
  dictionary := dictionary
  cell _ := none

/-- The text in a form, if there is one. -/
def get? (paradigm : Paradigm F) (form : F) : Option String :=
  paradigm.cell form

/-- Test if there is a text in a form. -/
def contains (paradigm : Paradigm F) (form : F) : Bool :=
  (paradigm.get? form).isSome

variable [DecidableEq F]

/-- The paradigm with the text of a form entered. -/
def insert (paradigm : Paradigm F) (form : F) (text : String) : Paradigm F where
  dictionary := paradigm.dictionary
  cell other := if other = form then some text else paradigm.cell other

theorem get?_insert (paradigm : Paradigm F) (form other : F) (text : String) :
    (paradigm.insert form text).get? other =
      if other = form then some text else paradigm.get? other := rfl

variable [FormSystem F]

/-- The entries of a paradigm, in order of declaration of the forms. -/
def toList (paradigm : Paradigm F) : List (F × String) :=
  (FormSystem.all : List F).filterMap fun form =>
    (paradigm.get? form).map fun text => (form, text)

/-- The number of entries. -/
def size (paradigm : Paradigm F) : Nat :=
  paradigm.toList.length

/-- Test if there are no entries. -/
def isEmpty (paradigm : Paradigm F) : Bool :=
  paradigm.size == 0

/-- A description of a paradigm. -/
def describe (paradigm : Paradigm F) : String :=
  let cells := paradigm.toList.map fun entry =>
    FormSystem.name entry.1 ++ ": " ++ quoted entry.2
  "Inflections \x7b dictionary: " ++ quoted paradigm.dictionary ++ ", inflections: \x7b" ++
    String.intercalate ", " cells ++ "\x7d \x7d"

end Paradigm

/-! ### Filling a paradigm -/

/-- Enter into a paradigm the text of each given form, in order. A form whose attempt fails is
left out when the failure may be passed over, and else ends the filling. -/
def Paradigm.fill {F : Type} [DecidableEq F] (attempt : F → Recorded (Except Error Inflected))
    (passOver : Error → Bool) : List F → Paradigm F → Recorded (Except Error (Paradigm F))
  | [], paradigm => return .ok paradigm
  | form :: forms, paradigm => do
    match ← attempt form with
    | .ok made => fill attempt passOver forms (paradigm.insert form made.text)
    | .error cause =>
      if passOver cause then fill attempt passOver forms paradigm else return .error cause

namespace Conjugator

/-- The paradigm of a verb. -/
def verbParadigm (conjugator : Conjugator) (verb : Verb) :
    Recorded (Except Error (Paradigm VerbForm)) :=
  Paradigm.fill (conjugator.verb verb) (fun _ => false) VerbForm.all (.empty verb.dictionary)

/-- The paradigm of an adjective. Its dictionary form is the basic form, and the forms that the
adjective does not have are left out. -/
def adjectiveParadigm (conjugator : Conjugator) (adjective : Adjective) :
    Recorded (Except Error (Paradigm AdjectiveForm)) := do
  match ← conjugator.adjective adjective .basic with
  | .error cause => return .error cause
  | .ok basic =>
    Paradigm.fill (conjugator.adjective adjective) Error.isUnsupportedForm AdjectiveForm.all
      (.empty basic.text)

end Conjugator

end JapaneseInflection

import JapaneseInflection.Lexicon.Adjective
import JapaneseInflection.Lexicon.Verb

/-!
# Words

A word that can be conjugated is a verb or an adjective. `Word.ofDictionary?` builds a word of a
given class from its dictionary form.
-/

namespace JapaneseInflection

/-- A verb or an adjective. -/
inductive Word where
  | verb (verb : Verb)
  | adjective (adjective : Adjective)
  deriving DecidableEq, Hashable

namespace Word

/-- The word of the given class with the given dictionary form. -/
def ofDictionary? (wordClass : WordClass) (dictionary : String) : Except Error Word :=
  if wordClass.isVerb then (Verb.ofDictionary? wordClass dictionary).map verb
  else (Adjective.ofDictionary? wordClass dictionary).map adjective

/-- The class of a word. -/
def wordClass : Word → WordClass
  | verb v => v.wordClass
  | adjective a => a.wordClass

/-- All forms of the system to which the forms of a word belong, in order of declaration. -/
def forms : Word → List Form
  | verb _ => VerbForm.all.map .verb
  | adjective _ => AdjectiveForm.all.map .adjective

end Word

end JapaneseInflection

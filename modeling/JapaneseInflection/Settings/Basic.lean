import JapaneseInflection.Inflection.Exponent
import JapaneseInflection.Lexicon.Particle

/-!
# Settings

The two things a user decides: how ichidan verbs form the causative, and which particle ends a
question.
-/

namespace JapaneseInflection

namespace Causative

/-- Both ways to form the causative, in order of declaration. -/
def all : List Causative := [collapsed, split]

/-- The name under which a way to form the causative stands in stored data. -/
def dataName : Causative → String
  | collapsed => "collapsed"
  | split => "split"

/-- The way to form the causative stored under the given name. -/
def ofDataName? (name : String) : Option Causative :=
  all.find? (·.dataName == name)

theorem ofDataName?_dataName (causative : Causative) :
    ofDataName? causative.dataName = some causative := by
  cases causative <;> decide

end Causative

/-- The settings of a user. -/
structure Settings where
  causative : Causative := .collapsed
  questionParticle : String := Particle.question.text
  deriving DecidableEq

namespace Settings

/-- The settings of a user who decides nothing. -/
def standard : Settings := {}

/-- A description of settings. -/
def describe (settings : Settings) : String :=
  "Config \x7b ichidan_causative: " ++ settings.causative.dataName.capitalize ++
    ", question_particle: " ++ quoted settings.questionParticle ++ " \x7d"

end Settings

end JapaneseInflection

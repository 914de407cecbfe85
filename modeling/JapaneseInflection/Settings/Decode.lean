import JapaneseInflection.Settings.Basic
import JapaneseInflection.Settings.Datum

/-!
# Settings in stored data

* `Settings.entries` is the table of keys and values under which settings are stored.
* `Settings.ofEntries?` reads settings from a table: each key that is there replaces the standard
  setting, and a value that is no setting makes the whole reading fail.
* `Settings.ofEntries?_entries`: reading what was stored gives the settings back.
-/

namespace JapaneseInflection

/-- The way to form the causative that a datum names. -/
def Causative.ofDatum? (saysNothing : Datum → Bool) (datum : Datum) : Option Causative := do
  Causative.ofDataName? (← datum.choice? saysNothing)

namespace Settings

/-- The key of the way to form the causative. -/
def causativeKey : String := "ichidan-causative"

/-- The key of the question particle. -/
def questionParticleKey : String := "question-particle"

/-- The value of a key, read as a setting, or the standard when the key is absent. -/
def setting? {α : Type} (entries : List (String × Datum)) (key : String)
    (read : Datum → Option α) (standard : α) : Option α :=
  match entries.lookup key with
  | none => some standard
  | some datum => read datum

/-- The settings in a table of keys and values. Other keys are passed over. -/
def ofEntries? (saysNothing : Datum → Bool) (entries : List (String × Datum)) :
    Option Settings := do
  let causative ←
    setting? entries causativeKey (Causative.ofDatum? saysNothing) standard.causative
  let questionParticle ←
    setting? entries questionParticleKey Datum.text? standard.questionParticle
  return { causative, questionParticle }

/-- The settings in a list of values without keys, in order of declaration. Values missing at the
end are the standard ones. -/
def ofItems? (saysNothing : Datum → Bool) : List Datum → Option Settings
  | [] => some standard
  | [causative] => do
    return { causative := ← Causative.ofDatum? saysNothing causative }
  | [causative, questionParticle] => do
    let causative ← Causative.ofDatum? saysNothing causative
    let questionParticle ← questionParticle.text?
    return { causative, questionParticle }
  | _ => none

/-- The settings in a datum, which is a table or a list. -/
def ofDatum? (saysNothing : Datum → Bool) : Datum → Option Settings
  | .table entries => ofEntries? saysNothing entries
  | .list items => ofItems? saysNothing items
  | _ => none

/-- The table of keys and values that stores settings. -/
def entries (settings : Settings) : List (String × Datum) :=
  [(causativeKey, .text settings.causative.dataName),
    (questionParticleKey, .text settings.questionParticle)]

/-- Reading what was stored gives the settings back. -/
theorem ofEntries?_entries (saysNothing : Datum → Bool) (settings : Settings) :
    ofEntries? saysNothing settings.entries = some settings := by
  have hcausative : settings.entries.lookup causativeKey =
      some (.text settings.causative.dataName) := rfl
  have hparticle : settings.entries.lookup questionParticleKey =
      some (.text settings.questionParticle) := rfl
  simp [ofEntries?, setting?, hcausative, hparticle, Causative.ofDatum?, Datum.choice?, Datum.text?,
    Causative.ofDataName?_dataName]

end Settings

end JapaneseInflection

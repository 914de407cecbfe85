import JapaneseInflection.Log
import JapaneseInflection.Settings.Decode
import JapaneseInflection.Toml.Document

/-!
# Reading settings

* `Settings.ofToml` reads settings from a document and logs them when it succeeds.
-/

namespace JapaneseInflection

namespace Settings

/-- The settings that a document holds. In a document an empty list or table says that there is
no more to tell. -/
def ofToml? (document : String) : Option Settings := do
  ofEntries? Datum.isVacant (← Toml.parse? document)

/-- The settings that a document holds, with an event when there are any. -/
def ofToml (document : String) : Recorded (Except Error Settings) := do
  match ofToml? document with
  | some settings =>
    Recorded.event (.settingsRead settings)
    return .ok settings
  | none => return .error .invalidSettings

end Settings

end JapaneseInflection

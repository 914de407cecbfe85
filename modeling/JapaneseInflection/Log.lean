import JapaneseInflection.Settings.Basic

/-!
# Log

Every attempt to conjugate and every successful reading of settings leaves an event.

* `Recorded α` is a value with the events that its computation left, in order.
* `Recorded.value_bind` and `Recorded.log_bind`: running one computation after the other keeps
  the value of the second and the events of both.
-/

namespace JapaneseInflection

/-- Something worth a line in the log: an attempt to put a word of a class into a form, or
settings that were read. -/
inductive Event where
  | conjugating (wordClass : WordClass) (form : Form)
  | settingsRead (settings : Settings)
  deriving DecidableEq

namespace Event

/-- The level at which an event is logged. -/
def level : Event → String
  | conjugating _ _ => "TRACE"
  | settingsRead _ => "DEBUG"

/-- The text with which an event is logged. -/
def message : Event → String
  | conjugating _ (.verb _) => "Conjugating verb"
  | conjugating _ (.adjective _) => "Conjugating adjective"
  | settingsRead _ => "Loaded configuration"

/-- The fields with which an event is logged, by name. -/
def fields : Event → List (String × String)
  | conjugating wordClass form => [("class", wordClass.keyword), ("form", form.keyword)]
  | settingsRead settings => [("config", settings.describe)]

end Event

/-- A value with the events that its computation left. -/
structure Recorded (α : Type) where
  value : α
  log : List Event

namespace Recorded

instance : Monad Recorded where
  pure a := ⟨a, []⟩
  bind first next := ⟨(next first.value).value, first.log ++ (next first.value).log⟩

/-- A computation that only leaves an event. -/
def event (event : Event) : Recorded Unit := ⟨(), [event]⟩

variable {α β : Type}

@[simp] theorem value_bind (first : Recorded α) (next : α → Recorded β) :
    (first >>= next).value = (next first.value).value := rfl

@[simp] theorem log_bind (first : Recorded α) (next : α → Recorded β) :
    (first >>= next).log = first.log ++ (next first.value).log := rfl

end Recorded

end JapaneseInflection

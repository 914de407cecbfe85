/-!
# Readers

A reader takes characters from the front of a text and makes a value of them, or fails.

* `Reader.repeated` runs a reader until it says that there is no more; it ends because it runs at
  most once for each character and once more.
-/

namespace JapaneseInflection.Toml

/-- A reader of values at the front of a text. -/
abbrev Reader (α : Type) := StateT (List Char) Option α

namespace Reader

/-- The first character, which stays where it is. -/
def peek? : Reader (Option Char) := fun input => some (input.head?, input)

/-- Test if the text starts with the given characters. They stay where they are. -/
def startsWith (start : String) : Reader Bool := fun input =>
  some (start.toList.isPrefixOf input, input)

/-- Test if nothing is left. -/
def atEnd : Reader Bool := fun input => some (input.isEmpty, input)

/-- One character with the given property. -/
def charWith (property : Char → Bool) : Reader Char
  | [] => none
  | c :: rest => if property c then some (c, rest) else none

/-- The given character. -/
def char (c : Char) : Reader Char := charWith (· == c)

/-- The given characters. -/
def exactly (expected : String) : Reader Unit := fun input =>
  if expected.toList.isPrefixOf input then some ((), input.drop expected.toList.length) else none

/-- The longest run of characters with the given property. -/
def charsWith (property : Char → Bool) : Reader (List Char) := fun input =>
  some (input.span property)

/-- As many characters with the given property as asked for. -/
def charsWithExactly (property : Char → Bool) : Nat → Reader (List Char)
  | 0 => return []
  | count + 1 => return (← charWith property) :: (← charsWithExactly property count)

/-- What a reader makes of the text, or nothing taken where it fails. -/
def optional {α : Type} (reader : Reader α) : Reader (Option α) := fun input =>
  match reader input with
  | some (a, rest) => some (some a, rest)
  | none => some (none, input)

/-- The value of a reader that takes nothing away. -/
def ahead {α : Type} (reader : Reader α) : Reader α := fun input =>
  (reader input).map fun result => (result.1, input)

/-- The values that a reader makes until it says that there is no more, which must happen within
the given number of runs. -/
def repeatedWithin {α : Type} (reader : Reader (Option α)) : Nat → Reader (List α)
  | 0 => failure
  | runs + 1 => do
    match ← reader with
    | none => return []
    | some a => return a :: (← repeatedWithin reader runs)

/-- The values that a reader makes until it says that there is no more. Each run but the last must
take a character. -/
def repeated {α : Type} (reader : Reader (Option α)) : Reader (List α) := fun input =>
  repeatedWithin reader (input.length + 1) input

/-- The values that a reader makes until it fails. -/
def many {α : Type} (reader : Reader α) : Reader (List α) := repeated (optional reader)

/-- The values of a reader with separators between them: none, or as many as there are. A
separator that no value follows is not taken. -/
def separated {α β : Type} (reader : Reader α) (separator : Reader β) : Reader (List α) := do
  match ← optional reader with
  | none => return []
  | some first => return first :: (← many (do let _ ← separator; reader))

/-- The value of a reader that takes all of the text. -/
def run? {α : Type} (reader : Reader α) (text : String) : Option α :=
  match reader text.toList with
  | some (a, []) => some a
  | _ => none

end Reader

end JapaneseInflection.Toml

import JapaneseInflection.Toml.Moment
import JapaneseInflection.Toml.Table

/-!
# Keys and values

* `key` reads a dotted key.
* `value` reads a value; lists and inline tables nest only so far as `nestingLimit` allows.
-/

namespace JapaneseInflection.Toml

/-- Test for a character of a key without quotes. -/
def isBareKeyChar (c : Char) : Bool :=
  c.isAlphanum || c == '-' || c == '_'

/-- One part of a dotted key. -/
def simpleKey : Reader String := do
  match ← Reader.peek? with
  | some '"' => basic
  | some '\'' => literal
  | _ =>
    let written ← Reader.charsWith isBareKeyChar
    if written.isEmpty then failure else return String.ofList written

/-- One part of a dotted key, with spaces around it. -/
def spacedKey : Reader String := do
  spaces
  let part ← simpleKey
  spaces
  return part

/-- Dotted keys have fewer parts than this, and values nest less deep. -/
def nestingLimit : Nat := 80

/-- A dotted key, with spaces around its parts. -/
def key : Reader Key := do
  let first ← spacedKey
  let others ← Reader.many (do let _ ← Reader.char '.'; spacedKey)
  let parts := first :: others
  if parts.length < nestingLimit then
    return { path := parts.dropLast, last := others.getLastD first }
  else failure

/-- The items of a list, which may run over lines and may have a comma after the last. -/
def listItems (item : Reader Datum) : Reader (List Datum) := do
  let items ← Reader.separated (do blank; let datum ← item; blank; return datum) (Reader.char ',')
  unless items.isEmpty do
    let _ ← Reader.optional (Reader.char ',')
  blank
  return items

/-- One key of an inline table with its value. -/
def inlineEntry (item : Reader Datum) : Reader (Key × Datum) := do
  let name ← key
  let _ ← Reader.char '='
  spaces
  let datum ← item
  spaces
  return (name, datum)

/-- The content of an inline table, which stands on one line. -/
def inlineEntries (item : Reader Datum) : Reader (List (String × Datum)) := do
  let written ← Reader.separated (inlineEntry item) (Reader.char ',')
  spaces
  let entries ← written.foldlM (fun entries (name, datum) =>
    Entries.assign name.path name.last datum entries) []
  return Item.toEntries entries

/-- A number, a date or a time. -/
def numberOrMoment : Reader Datum :=
  moment <|> decimal <|> special <|> integer

/-- A value in which lists and inline tables nest at most as deep as given. -/
def valueWithin : Nat → Reader Datum := fun depth => do
  match ← Reader.peek? with
  | some '"' | some '\'' => return .text (← string)
  | some '[' =>
    match depth with
    | 0 => failure
    | depth + 1 =>
      let _ ← Reader.char '['
      let items ← listItems (valueWithin depth)
      let _ ← Reader.char ']'
      return .list items
  | some '\x7b' =>
    match depth with
    | 0 => failure
    | depth + 1 =>
      let _ ← Reader.char '\x7b'
      let entries ← inlineEntries (valueWithin depth)
      let _ ← Reader.char '\x7d'
      return .table entries
  | some 't' =>
    Reader.exactly "true"
    return .boolean true
  | some 'f' =>
    Reader.exactly "false"
    return .boolean false
  | _ => numberOrMoment

/-- A value. -/
def value : Reader Datum := valueWithin (nestingLimit - 1)

end JapaneseInflection.Toml

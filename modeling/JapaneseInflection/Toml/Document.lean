import JapaneseInflection.Toml.Value

/-!
# Documents

A document is a sequence of statements, each on its own line.

* `parse?` is the table that a document spells, if it is one.
-/

namespace JapaneseInflection.Toml

/-- A key with its value. -/
def assignment : Reader Statement := do
  let name ← key
  let _ ← Reader.char '='
  spaces
  return .assignment name (← value)

/-- A header between double brackets. -/
def elementHeader : Reader Statement := do
  Reader.exactly "[["
  let name ← key
  Reader.exactly "]]"
  return .elementHeader name

/-- A header between brackets. -/
def tableHeader : Reader Statement := do
  Reader.exactly "["
  let name ← key
  Reader.exactly "]"
  return .tableHeader name

/-- A statement. Two brackets always open the header of a list of tables. -/
def statement : Reader Statement := do
  if ← Reader.startsWith "[[" then elementHeader
  else if ← Reader.startsWith "[" then tableHeader
  else assignment

/-- A line, with its statement if it has one. -/
def line : Reader (Option Statement) := do
  spaces
  match ← Reader.peek? with
  | none | some '#' | some '\n' | some '\r' =>
    trailing
    return none
  | some _ =>
    let found ← statement
    trailing
    return some found

/-- The statements on all lines. A mark of the byte order may stand at the start. -/
def statements : Reader (List Statement) := do
  let _ ← Reader.optional (Reader.char '\uFEFF')
  let lines ← Reader.repeated do
    if ← Reader.atEnd then return none else return some (← line)
  return lines.filterMap id

/-- The keys and values of the table that a document spells. -/
def parse? (text : String) : Option (List (String × Datum)) := do
  let found ← statements.run? text
  let document ← Document.ofStatements? found
  return Item.toEntries document.entries

end JapaneseInflection.Toml

import JapaneseInflection.Settings.Datum

/-!
# Tables under construction

While a document is read its tables remember how they came about, because that decides what may
still be added to them.

* `Item.assign` gives a key of a table a value, through a path of dotted keys.
* `Document.apply` does what one statement says; a statement that defines a key or a table for a
  second time has no result.
* `Item.toDatum` forgets how the tables came about.
-/

namespace JapaneseInflection.Toml

/-- How a table came about: its own header (the whole document counts as having one), the header
of a table below it, or a dotted key. -/
inductive Origin where
  | header
  | below
  | dotted
  deriving DecidableEq

/-- What a key stands for: a finished value, a table, or a list of tables, the last of which is
open. -/
inductive Item where
  | value (datum : Datum)
  | table (origin : Origin) (entries : List (String × Item))
  | tables (elements : List (List (String × Item)))

/-- Keys with what they stand for, each key once. -/
abbrev Entries := List (String × Item)

namespace Entries

/-- The entries with the key standing for the given item, in its old place if it has one. -/
def set (key : String) (item : Item) : Entries → Entries
  | [] => [(key, item)]
  | (other, old) :: rest =>
    if other == key then (key, item) :: rest else (other, old) :: set key item rest

/-- Change the table to which a path leads. Tables that are missing on the path come about; a
value on the path blocks it, and so does, where the path consists of dotted keys, a table with a
header. A list of tables is entered at its last. -/
def changeAt (dotted : Bool) (change : Origin → Entries → Option Entries) :
    List String → Origin → Entries → Option Entries
  | [], origin, entries => change origin entries
  | key :: path, _, entries =>
    let missing := if dotted then Origin.dotted else Origin.below
    match entries.lookup key with
    | none => do
      return entries.set key (.table missing (← changeAt dotted change path missing []))
    | some (.value _) => none
    | some (.table origin inner) =>
      if dotted && origin == .header then none
      else do return entries.set key (.table origin (← changeAt dotted change path origin inner))
    | some (.tables elements) => do
      let last ← elements.getLast?
      let changed ← changeAt dotted change path .header last
      return entries.set key (.tables (elements.dropLast ++ [changed]))

/-- Give a key a value in the table to which dotted keys lead. The key must be new, and dotted keys
may only add to a table that came about by dotted keys. -/
def assign (path : List String) (key : String) (datum : Datum) : Entries → Option Entries :=
  changeAt true
    (fun origin entries =>
      if (origin == .dotted) == path.isEmpty || (entries.lookup key).isSome then none
      else some (entries.set key (.value datum)))
    path .header

/-- Open the table with the given header. It must be new, or have come about by the header of a
table below it. -/
def openTable (path : List String) (key : String) : Entries → Option Entries :=
  changeAt false
    (fun _ entries =>
      match entries.lookup key with
      | none => some (entries.set key (.table .header []))
      | some (.table .below inner) => some (entries.set key (.table .header inner))
      | _ => none)
    path .header

/-- Open one more table of the list with the given header. -/
def openElement (path : List String) (key : String) : Entries → Option Entries :=
  changeAt false
    (fun _ entries =>
      match entries.lookup key with
      | none => some (entries.set key (.tables [[]]))
      | some (.tables elements) => some (entries.set key (.tables (elements ++ [[]])))
      | _ => none)
    path .header

end Entries

/-! ### Statements -/

/-- A key: the dotted path before it, and its last part. -/
structure Key where
  path : List String
  last : String

/-- The statements of a document. -/
inductive Statement where
  | assignment (key : Key) (datum : Datum)
  | tableHeader (key : Key)
  | elementHeader (key : Key)

/-- A document under construction: its entries, and the path to the table that is open. -/
structure Document where
  entries : Entries := []
  place : List String := []

namespace Document

/-- Do what a statement says. -/
def apply (document : Document) : Statement → Option Document
  | .assignment key datum => do
    let change := fun (_ : Origin) entries => Entries.assign key.path key.last datum entries
    let entries ← Entries.changeAt false change document.place .header document.entries
    return { document with entries }
  | .tableHeader key => do
    let entries ← Entries.openTable key.path key.last document.entries
    return { entries, place := key.path ++ [key.last] }
  | .elementHeader key => do
    let entries ← Entries.openElement key.path key.last document.entries
    return { entries, place := key.path ++ [key.last] }

/-- Do what the statements say, in order. -/
def ofStatements? (statements : List Statement) : Option Document :=
  statements.foldlM apply {}

end Document

/-! ### Finished data -/

mutual

/-- The datum that an item stands for. -/
def Item.toDatum : Item → Datum
  | .value datum => datum
  | .table _ entries => .table (Item.toEntries entries)
  | .tables elements => .list (Item.toTables elements)

/-- The keys and data of entries. -/
def Item.toEntries : List (String × Item) → List (String × Datum)
  | [] => []
  | (key, item) :: rest => (key, item.toDatum) :: Item.toEntries rest

/-- The tables of a list of entries. -/
def Item.toTables : List (List (String × Item)) → List Datum
  | [] => []
  | entries :: rest => .table (Item.toEntries entries) :: Item.toTables rest

end

end JapaneseInflection.Toml

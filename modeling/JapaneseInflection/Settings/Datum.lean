/-!
# Data trees

The values that a stored document is made of, whatever format it was written in.

* `Datum` is a tree of values.
* `Datum.choice?` reads the name of one of several alternatives.
-/

namespace JapaneseInflection

/-- A calendar date. -/
structure Date where
  year : Nat
  month : Nat
  day : Nat
  deriving DecidableEq

/-- A time of day; the fraction of a second is kept as its digits. -/
structure Clock where
  hour : Nat
  minute : Nat
  second : Nat
  fraction : List Char
  deriving DecidableEq

/-- A date, a time of day or both; with both there may be an offset from universal time, in
minutes. -/
structure Moment where
  date : Option Date
  clock : Option Clock
  offset : Option Int
  deriving DecidableEq

/-- A value in a document. A decimal is `mantissa * 10 ^ exponent`, exactly as written; a table
lists its keys with their values. -/
inductive Datum where
  | null
  | boolean (value : Bool)
  | integer (value : Int)
  | decimal (mantissa exponent : Int)
  | infinity (negative : Bool)
  | notANumber
  | text (value : String)
  | moment (value : Moment)
  | list (items : List Datum)
  | table (entries : List (String × Datum))

namespace Datum

/-- The text of a datum that is one. -/
def text? : Datum → Option String
  | text value => some value
  | _ => none

/-- Test for the null value. -/
def isNull : Datum → Bool
  | null => true
  | _ => false

/-- Test for a list or a table without anything in it. -/
def isVacant : Datum → Bool
  | list [] => true
  | table [] => true
  | _ => false

/-- The name of the alternative that a datum chooses: the datum is the name itself, or a table
whose only key is the name and whose value says that there is no more to tell. What counts as
saying so depends on the format. -/
def choice? (saysNothing : Datum → Bool) : Datum → Option String
  | text name => some name
  | table [(name, value)] => if saysNothing value then some name else none
  | _ => none

end Datum

end JapaneseInflection

import JapaneseInflection.Settings.Datum
import JapaneseInflection.Toml.Strings

/-!
# Numbers

* `integer` reads whole numbers in four bases, within 64 bits.
* `decimal` reads numbers with a fraction or an exponent, kept exactly as written. A positive one
  that lies beyond the doubles is refused: `roundsToInfinity` says which those are.
-/

namespace JapaneseInflection.Toml

/-- Digits with the given property, between which single underscores may stand. -/
def digits (isDigit : Char → Bool) : Reader (List Char) := do
  let first ← Reader.charWith isDigit
  let others ← Reader.many (do
    let _ ← Reader.optional (Reader.char '_')
    Reader.charWith isDigit)
  return first :: others

/-- The value of digits in the given base. -/
def valueOfDigits (base : Nat) (written : List Char) : Nat :=
  written.foldl (fun n c => base * n + (hexValue? c).getD 0) 0

/-- A sign. True means minus. -/
def sign : Reader Bool :=
  (do let _ ← Reader.char '-'; return true) <|> (do let _ ← Reader.char '+'; return false)

/-- A sign that may be missing. -/
def signOrNone : Reader Bool := sign <|> return false

/-- The digits of a whole number in base ten: a zero alone, or digits that do not start with one. -/
def wholeDigits : Reader (List Char) :=
  (do
    let _ ← Reader.ahead (Reader.charWith fun c => c.isDigit && c != '0')
    digits Char.isDigit) <|>
  (do return [← Reader.char '0'])

/-- A number with a sign. -/
def signed (negative : Bool) (magnitude : Nat) : Int :=
  if negative then -magnitude else magnitude

/-- A whole number in a base told by its first two characters, without a sign. -/
def basedInteger (opening : String) (base : Nat) : Reader Int := do
  Reader.exactly opening
  let written ← digits fun c => (hexValue? c).any (· < base)
  return valueOfDigits base written

/-- A whole number in base ten. -/
def plainInteger : Reader Int := do
  let negative ← signOrNone
  let written ← wholeDigits
  return signed negative (valueOfDigits 10 written)

/-- The greatest whole number of 64 bits, which are signed. -/
def greatestInteger : Int := 9223372036854775807

/-- A whole number, within 64 bits. -/
def integer : Reader Datum := do
  let value ← basedInteger "0x" 16 <|> basedInteger "0o" 8 <|> basedInteger "0b" 2 <|> plainInteger
  if -greatestInteger - 1 ≤ value && value ≤ greatestInteger then return .integer value else failure

/-- The least number that the doubles round to infinity: half a step above the greatest of them. -/
def leastInfinite : Nat := Nat.pow 2 1024 - Nat.pow 2 970

/-- Test if the doubles round `mantissa * 10 ^ exponent` to infinity. A number of more than 309
digits always is, and one of fewer never is. -/
def roundsToInfinity (mantissa : Nat) (exponent : Int) : Bool :=
  let size := (Nat.toDigits 10 mantissa).length + exponent
  if mantissa = 0 || size < 309 then false
  else if 309 < size then true
  else leastInfinite * Nat.pow 10 (-exponent).toNat ≤ mantissa * Nat.pow 10 exponent.toNat

/-- The exponent of a decimal. -/
def exponent : Reader Int := do
  let _ ← Reader.charWith fun c => c == 'e' || c == 'E'
  let negative ← signOrNone
  return signed negative (valueOfDigits 10 (← digits Char.isDigit))

/-- A number with a fraction, an exponent or both. -/
def decimal : Reader Datum := do
  let negative ← signOrNone
  let whole ← wholeDigits
  let fraction ← (do let _ ← Reader.char '.'; digits Char.isDigit) <|> return []
  let scale ← if fraction.isEmpty then exponent else exponent <|> return 0
  let mantissa := valueOfDigits 10 (whole ++ fraction)
  let scale := scale - fraction.length
  if !negative && roundsToInfinity mantissa scale then failure
  else return .decimal (signed negative mantissa) scale

/-- An infinity, or the datum that is not a number. -/
def special : Reader Datum := do
  let negative ← signOrNone
  (do Reader.exactly "inf"; return .infinity negative) <|>
    (do Reader.exactly "nan"; return .notANumber)

end JapaneseInflection.Toml

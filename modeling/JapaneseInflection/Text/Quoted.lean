import JapaneseInflection.Text.Combining
import JapaneseInflection.Text.Unprintable

/-!
# Quoted text

The form in which texts stand inside a description of a value: between double quotes, with all
escaped that could not be told from the quotes or would not show by itself.

* `quoted` writes a text in quotes, character by character as `escaped` says.
-/

namespace JapaneseInflection

/-- A character written as its number, in base sixteen with small letters. -/
def numbered (c : Char) : List Char :=
  ['\\', 'u', '\x7b'] ++ Nat.toDigits 16 c.toNat ++ ['\x7d']

/-- One character of a quoted text. The quote, the backslash and the most common control characters
have letters of their own; others that join the character before them, or that print nothing, are
written as numbers. -/
def escaped (c : Char) : List Char :=
  if c = '"' then ['\\', '"']
  else if c = '\\' then ['\\', '\\']
  else if c = '\n' then ['\\', 'n']
  else if c = '\r' then ['\\', 'r']
  else if c = '\t' then ['\\', 't']
  else if c = '\x00' then ['\\', '0']
  else if isCombining c || !isPrintable c then numbered c
  else [c]

/-- A text in double quotes. -/
def quoted (text : String) : String :=
  String.ofList ('"' :: text.toList.flatMap escaped ++ ['"'])

end JapaneseInflection

import JapaneseInflection.Toml.Spacing

/-!
# Strings

A string stands between quotes or apostrophes, one of them or three. Between quotes a backslash
escapes; between apostrophes all is literal. A string between three marks may run over lines, and
drops the line end right after the opening marks.

* `string` reads any of the four; `basic` and `literal` also serve as keys.
-/

namespace JapaneseInflection.Toml

/-- Test for a character that stands for itself between apostrophes. -/
def isLiteralChar (c : Char) : Bool :=
  isCommentChar c && c != '\''

/-- Test for a character that stands for itself between quotes. -/
def isBasicChar (c : Char) : Bool :=
  isCommentChar c && c != '"' && c != '\\'

/-- The value of a hexadecimal digit. -/
def hexValue? (c : Char) : Option Nat :=
  if '0' ≤ c && c ≤ '9' then some (c.toNat - '0'.toNat)
  else if 'a' ≤ c && c ≤ 'f' then some (c.toNat - 'a'.toNat + 10)
  else if 'A' ≤ c && c ≤ 'F' then some (c.toNat - 'A'.toNat + 10)
  else none

/-- The character with the given number, if the number belongs to one. -/
def charOfNat? (n : Nat) : Option Char :=
  if hvalid : n.isValidChar then some (Char.ofNatAux n hvalid) else none

/-- A character written as the given number of hexadecimal digits. -/
def numberedChar (digits : Nat) : Reader Char := do
  let written ← Reader.charsWithExactly (fun c => (hexValue? c).isSome) digits
  charOfNat? (written.foldl (fun n c => 16 * n + (hexValue? c).getD 0) 0)

/-- An escaped character. -/
def escape : Reader Char := do
  let _ ← Reader.char '\\'
  match ← Reader.charWith (fun _ => true) with
  | 'b' => return '\x08'
  | 'f' => return '\x0c'
  | 'n' => return '\n'
  | 'r' => return '\r'
  | 't' => return '\t'
  | '"' => return '"'
  | '\\' => return '\\'
  | 'u' => numberedChar 4
  | 'U' => numberedChar 8
  | _ => failure

/-- A string between quotes. -/
def basic : Reader String := do
  let _ ← Reader.char '"'
  let content ← Reader.many (Reader.charWith isBasicChar <|> escape)
  let _ ← Reader.char '"'
  return String.ofList content

/-- A string between apostrophes. -/
def literal : Reader String := do
  let _ ← Reader.char '\''
  let content ← Reader.charsWith isLiteralChar
  let _ ← Reader.char '\''
  return String.ofList content

/-- A backslash at the end of a line, with all spaces and line ends that follow. -/
def foldedLines : Reader Unit := do
  let _ ← Reader.char '\\'
  spaces
  lineEnd
  let _ ← Reader.many (lineEnd <|> do let _ ← Reader.charWith isSpace)

/-- One or two marks inside a string between three of them, with what follows them there. -/
def innerMarks (mark : Char) (next : Reader (List Char)) : Reader (List Char) := do
  let marks ← Reader.charsWith (· == mark)
  if marks.length == 1 || marks.length == 2 then return marks ++ (← next) else failure

/-- The one or two marks that belong to a string right before the three that close it, and those
three. -/
def closingMarks (mark : Char) : Reader (List Char) := do
  let marks ← Reader.charsWith (· == mark)
  if 3 ≤ marks.length && marks.length ≤ 5 then return marks.drop 3 else failure

/-- The content of a string between three marks: pieces, and lone or double marks between them. -/
def multiline (mark : Char) (piece : Reader (List Char)) : Reader String := do
  for _ in [1, 2, 3] do
    let _ ← Reader.char mark
  let _ ← Reader.optional lineEnd
  let content ← Reader.many (piece <|> innerMarks mark piece)
  let last ← closingMarks mark
  return String.ofList (content.flatten ++ last)

/-- A line end inside a string, which stands for a line feed however it is written. -/
def innerLineEnd : Reader (List Char) := do
  lineEnd
  return ['\n']

/-- A string between three quotes. -/
def multilineBasic : Reader String :=
  multiline '"' <|
    (return [← Reader.charWith isBasicChar]) <|> (do foldedLines; return []) <|>
      (return [← escape]) <|> innerLineEnd

/-- A string between three apostrophes. -/
def multilineLiteral : Reader String :=
  multiline '\'' <| (return [← Reader.charWith isLiteralChar]) <|> innerLineEnd

/-- A string of any of the four styles. Three marks always open a string over lines. -/
def string : Reader String := do
  if ← Reader.startsWith "\"\"\"" then multilineBasic
  else if ← Reader.startsWith "'''" then multilineLiteral
  else basic <|> literal

end JapaneseInflection.Toml

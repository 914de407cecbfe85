import JapaneseInflection.Toml.Reader

/-!
# Spaces, line ends and comments
-/

namespace JapaneseInflection.Toml

/-- Test for a space or a tab. -/
def isSpace (c : Char) : Bool := c == ' ' || c == '\t'

/-- Test for a character that may stand in a comment: a tab, or any but a control character of
ASCII. -/
def isCommentChar (c : Char) : Bool :=
  c == '\t' || (0x20 ≤ c.toNat && c.toNat != 0x7F)

/-- Any number of spaces and tabs. -/
def spaces : Reader Unit := do
  let _ ← Reader.charsWith isSpace

/-- The end of a line: a line feed, which may follow a carriage return. -/
def lineEnd : Reader Unit :=
  Reader.exactly "\n" <|> Reader.exactly "\r\n"

/-- The end of a line or of the text. -/
def lineOrTextEnd : Reader Unit := do
  if ← Reader.atEnd then return else lineEnd

/-- A comment, up to the end of its line. -/
def comment : Reader Unit := do
  let _ ← Reader.char '#'
  let _ ← Reader.charsWith isCommentChar

/-- What may follow on the line of a statement: spaces and a comment. -/
def trailing : Reader Unit := do
  spaces
  let _ ← Reader.optional comment
  lineOrTextEnd

/-- Any number of spaces, line ends and comments, each comment closed by the end of its line. -/
def blank : Reader Unit := do
  spaces
  let _ ← Reader.many (do
    let _ ← Reader.optional comment
    lineEnd
    spaces)

end JapaneseInflection.Toml

/-! # Places in a text

A place in a text with the text from there on, its line and its column. -/

namespace NegativeCompile.Yaml

/-- The character that stands for the end of the text. -/
def endMark : Char := '\x00'

/-- Whether a character breaks a line. -/
def isBreak (c : Char) : Bool :=
  c = '\r' || c = '\n' || c = '\u0085' || c = '\u2028' || c = '\u2029'

/-- Whether a character breaks a line or stands for the end. -/
def endsLine (c : Char) : Bool := c = endMark || isBreak c

/-- Whether a character is a blank, breaks a line or stands for the end. -/
def endsRun (c : Char) : Bool := c = ' ' || endsLine c

/-- Whether a character is a blank or a tab, breaks a line or stands for the end. -/
def endsWord (c : Char) : Bool := c = '\t' || endsRun c

/-- A place in a text. -/
structure Cursor where
  /-- The text from there on. -/
  rest : List Char
  /-- The number of characters before it. -/
  index : Nat
  /-- The line, from zero. -/
  line : Nat
  /-- The column, from zero. -/
  column : Nat
  deriving Repr

namespace Cursor

/-- The start of a text. -/
def ofText (text : List Char) : Cursor := ⟨text, 0, 0, 0⟩

/-- The character at the place. -/
def peek (cursor : Cursor) : Char := cursor.rest.headD endMark

/-- The character some characters further on. -/
def peekAt (count : Nat) (cursor : Cursor) : Char := (cursor.rest.drop count).headD endMark

/-- The next place. -/
def advance (cursor : Cursor) : Cursor :=
  match cursor.rest with
  | [] => cursor
  | c :: rest =>
    if isBreak c && !(c = '\r' && rest.head? = some '\n') then
      ⟨rest, cursor.index + 1, cursor.line + 1, 0⟩
    else
      ⟨rest, cursor.index + 1, cursor.line,
        if c = '\ufeff' then cursor.column else cursor.column + 1⟩

/-- The place some characters further on. -/
def skip : Nat → Cursor → Cursor
  | 0, cursor => cursor
  | count + 1, cursor => skip count cursor.advance

/-- The characters of a kind at the place, and the place after them. -/
def takeWhile (isTaken : Char → Bool) (cursor : Cursor) : List Char × Cursor :=
  let taken := cursor.rest.takeWhile isTaken
  (taken, cursor.skip taken.length)

/-- The place after all characters of a kind. -/
def dropWhile (isDropped : Char → Bool) (cursor : Cursor) : Cursor :=
  (cursor.takeWhile isDropped).2

/-- The place after blanks. -/
def skipBlanks (cursor : Cursor) : Cursor := cursor.dropWhile (· = ' ')

/-- Whether the place starts with some characters. -/
def startsWith (piece : String) (cursor : Cursor) : Bool := piece.toList.isPrefixOf cursor.rest

/-- The line break at the place, as it counts in a text, and the place after it. -/
def takeBreak (cursor : Cursor) : Option Char × Cursor :=
  let c := cursor.peek
  if c = '\r' || c = '\n' || c = '\u0085' then
    (some '\n', if cursor.startsWith "\r\n" then cursor.skip 2 else cursor.advance)
  else if c = '\u2028' || c = '\u2029' then (some c, cursor.advance)
  else (none, cursor)

/-- Whether three marks at the place separate documents, wherever on a line they stand. -/
def isSeparator (cursor : Cursor) : Bool :=
  (cursor.startsWith "---" || cursor.startsWith "...") && endsWord (cursor.peekAt 3)

end Cursor

end NegativeCompile.Yaml

import NegativeCompile.Text.Utf8
import NegativeCompile.Yaml.Cursor
import NegativeCompile.Yaml.Token

/-! # Marks, tags and instructions

The tokens that start with an ampersand, a star, an exclamation mark or a percent sign. -/

namespace NegativeCompile.Yaml.Mark

open Text

/-- Whether a character can be part of a name. -/
def isNameChar (c : Char) : Bool := isAsciiLetter c || isAsciiDigit c || c = '-' || c = '_'

/-- Read the name at a place, which must not be empty. -/
def name (cursor : Cursor) : Except Problem (String × Cursor) :=
  let (found, next) := cursor.takeWhile isNameChar
  if found.isEmpty then .error .malformed else .ok (String.ofList found, next)

/-- Whether a character may follow a name with a mark. -/
def endsMark (c : Char) : Bool := endsWord c || "?:,]\x7d%@\x60".toList.contains c

/-- Read the name after the mark at a place. -/
def marked (cursor : Cursor) : Except Problem (String × Cursor) := do
  let (found, next) ← name cursor.advance
  if endsMark next.peek then return (found, next) else throw .malformed

/-! ## Tags -/

/-- Whether a character can be part of a tag. -/
def isTagChar (c : Char) : Bool :=
  isAsciiLetter c || isAsciiDigit c || "-;/?:@&=+$,_.!~*'()[]".toList.contains c

/-- The bytes that percent signs with two hexadecimal digits each stand for at the start of a text,
`read` being those before, last first. -/
def percentBytes (read : List UInt8) : List Char → Except Problem (List UInt8 × List Char)
  | '%' :: first :: second :: rest =>
    if isHexDigit first && isHexDigit second then
      percentBytes (UInt8.ofNat (positional 16 [first, second]) :: read) rest
    else .error .malformed
  | '%' :: _ => .error .malformed
  | text => .ok (read.reverse, text)

/-- Read the rest of a tag from a place on, `read` being the text so far. -/
def tagTextFrom (read : List Char) : Nat → Cursor → Except Problem (String × Cursor)
  | 0, _ => .error .malformed
  | fuel + 1, cursor =>
    let (plain, next) := cursor.takeWhile isTagChar
    let text := read ++ plain
    if next.peek = '%' then do
      let (bytes, _) ← percentBytes [] next.rest
      match decodeUtf8 bytes with
      | .ok piece => tagTextFrom (text ++ piece.toList) fuel (next.skip (3 * bytes.length))
      | .error _ => throw .malformed
    else if text.isEmpty then .error .malformed
    else .ok (String.ofList text, next)

/-- Read the rest of a tag at a place; it must not be empty. -/
def tagText (cursor : Cursor) : Except Problem (String × Cursor) :=
  tagTextFrom [] (cursor.rest.length + 1) cursor

/-- Read the handle of a tag at a place: one exclamation mark, or a name between two. -/
def handle (cursor : Cursor) : Except Problem (String × Cursor) :=
  if cursor.peek ≠ '!' then .error .malformed
  else
    let next := cursor.advance
    if next.peek = ' ' then .ok ("!", next)
    else
      let (found, last) := next.takeWhile isNameChar
      if last.peek = '!' then .ok (String.ofList ('!' :: found ++ ['!']), last.advance)
      else .error .malformed

/-- Whether an exclamation mark comes before the next blank. -/
def hasHandle (text : List Char) : Bool := (text.takeWhile (!endsRun ·)).contains '!'

/-- Read the tag at a place. -/
def tag (cursor : Cursor) : Except Problem (Token × Cursor) := do
  let next := cursor.advance
  let c := next.peek
  let (token, last) ←
    if c = '<' then do
      let (text, after) ← tagText next.advance
      if after.peek ≠ '>' then throw .malformed
      pure (Token.tag none text, after.advance)
    else if endsWord c then pure (Token.tag none "!", next)
    else if hasHandle next.rest then do
      let (name, after) ← handle cursor
      let (text, last) ← tagText after
      pure (Token.tag (some name) text, last)
    else do
      let (text, after) ← tagText next
      pure (Token.tag (some "!") text, after)
  if endsRun last.peek then return (token, last) else throw .malformed

/-! ## Instructions -/

/-- Read the number at a place. -/
def number (cursor : Cursor) : Except Problem (Nat × Cursor) :=
  let (digits, next) := cursor.takeWhile isAsciiDigit
  if digits.isEmpty then .error .malformed
  else match naturalOfDigits digits with
    | .ok value => .ok (value, next)
    | .error problem => .error (.failure (.ofInteger digits problem))

/-- Read the version at a place. -/
def version (cursor : Cursor) : Except Problem (Directive × Cursor) := do
  let (major, next) ← number cursor.skipBlanks
  if next.peek ≠ '.' then throw .malformed
  let (_, last) ← number next.advance
  if endsRun last.peek then return (.version major, last) else throw .malformed

/-- Read the meaning of a handle at a place. -/
def meaning (cursor : Cursor) : Except Problem (Directive × Cursor) := do
  let (name, next) ← handle cursor.skipBlanks
  if next.peek ≠ ' ' then throw .malformed
  let (text, last) ← tagText next.skipBlanks
  if endsRun last.peek then return (.handle name text, last) else throw .malformed

/-- Skip the rest of a line, which may hold a comment only. -/
def skipLine (cursor : Cursor) : Except Problem Cursor :=
  let next := cursor.skipBlanks
  let last := if next.peek = '#' then next.dropWhile (!endsLine ·) else next
  if endsLine last.peek then .ok last.takeBreak.2 else .error .malformed

/-- Read the instruction at a place. -/
def directive (cursor : Cursor) : Except Problem (Token × Cursor) := do
  let (word, next) ← name cursor.advance
  if !endsRun next.peek then throw .malformed
  let (found, last) ←
    if word = "YAML" then version next
    else if word = "TAG" then meaning next
    else pure (Directive.reserved, next.dropWhile (!endsLine ·))
  return (.directive found, ← skipLine last)

end NegativeCompile.Yaml.Mark

import NegativeCompile.Text.Hex
import NegativeCompile.Text.Utf8
import NegativeCompile.Yaml.Cursor
import NegativeCompile.Yaml.Token

/-! # Scalars

The ways to write a scalar: plainly, between quotes, or as a block of lines. -/

namespace NegativeCompile.Yaml.Plain

/-! ## Plain scalars

Scalars without quotes. They may go on over several lines; a single line break counts as a blank. -/

/-- Whether a character has a meaning of its own between brackets or braces. -/
def isFlowMark (c : Char) : Bool := c = ',' || c = '[' || c = ']' || c = '{' || c = '}'

/-- Whether a colon before a character ends a plain scalar. -/
def endsKey (inFlow : Bool) (next : Char) : Bool := endsWord next || (inFlow && isFlowMark next)

/-- The part of a plain scalar up to the next blank or mark. -/
def run (inFlow : Bool) : List Char → List Char
  | [] => []
  | c :: rest =>
    if endsWord c then []
    else if c = ':' && endsKey inFlow (rest.headD endMark) then []
    else if inFlow && (c = '?' || isFlowMark c) then []
    else c :: run inFlow rest

/-- The line breaks and blanks at a place; a document separator ends the scalar, which is reported
as nothing. The breaks are given last first; `fuel` bounds the length of the text. -/
def breaks (read : List Char) : Nat → Cursor → Option (List Char) × Cursor
  | 0, cursor => (some read, cursor)
  | fuel + 1, cursor =>
    if cursor.peek = ' ' then breaks read fuel cursor.advance
    else match cursor.takeBreak with
      | (none, _) => (some read, cursor)
      | (some c, next) =>
        if next.isSeparator then (none, next) else breaks (c :: read) fuel next

/-- What the blanks and line breaks between two parts of a plain scalar stand for. -/
structure Gap where
  /-- The text they stand for, empty if the scalar ends here. -/
  text : List Char
  /-- Whether there was a line break. -/
  hasBreak : Bool
  /-- The place after them. -/
  next : Cursor

/-- The gap at a place. -/
def gap (cursor : Cursor) : Gap :=
  let (blanks, afterBlanks) := cursor.takeWhile (· = ' ')
  match afterBlanks.takeBreak with
  | (none, _) => ⟨blanks, false, afterBlanks⟩
  | (some first, next) =>
    if next.isSeparator then ⟨[], true, next⟩
    else match breaks [] (next.rest.length + 1) next with
      | (none, last) => ⟨[], true, last⟩
      | (some others, last) =>
        let head := if first ≠ '\n' then [first] else if others.isEmpty then [' '] else []
        ⟨head ++ others.reverse, true, last⟩

/-- A plain scalar that was read. -/
structure Outcome where
  /-- Its text. -/
  text : List Char
  /-- Whether it was followed by a line break that a key may follow. -/
  allowsKey : Bool
  /-- The place after it. -/
  next : Cursor

/-- Read on from a place, `read` being the text so far, `gapText` the gap before the place, and
`indent` the least column of further lines; `fuel` bounds the length of the text. -/
def readFrom (inFlow : Bool) (indent : Int) (read gapText : List Char) (allowsKey : Bool) :
    Nat → Cursor → Outcome
  | 0, cursor => ⟨read, allowsKey, cursor⟩
  | fuel + 1, cursor =>
    let part := if cursor.peek = '#' then [] else run inFlow cursor.rest
    if part.isEmpty then ⟨read, allowsKey, cursor⟩
    else
      let found := gap (cursor.skip part.length)
      let text := read ++ gapText ++ part
      let ended := found.text.isEmpty || found.next.peek = '#' ||
        (!inFlow && decide ((found.next.column : Int) < indent))
      if ended then ⟨text, found.hasBreak, found.next⟩
      else readFrom inFlow indent text found.text found.hasBreak fuel found.next

/-- Read the plain scalar at a place. -/
def read (inFlow : Bool) (indent : Int) (cursor : Cursor) : Outcome :=
  readFrom inFlow indent [] [] false (cursor.rest.length + 1) cursor

end NegativeCompile.Yaml.Plain

namespace NegativeCompile.Yaml.Quoted

open Text

/-! ## Quoted scalars

Scalars between single quotes, where a quote is written twice, or between double quotes, where a
backslash starts an escape. A single line break counts as a blank. -/

/-- The character that a letter after a backslash stands for. -/
def escaped? (c : Char) : Option Char :=
  match c with
  | '0' => some '\x00'
  | 'a' => some '\x07'
  | 'b' => some '\x08'
  | 't' => some '\t'
  | '\t' => some '\t'
  | 'n' => some '\n'
  | 'v' => some '\x0b'
  | 'f' => some '\x0c'
  | 'r' => some '\r'
  | 'e' => some '\x1b'
  | ' ' => some ' '
  | '"' => some '"'
  | '\\' => some '\\'
  | '/' => some '/'
  | 'N' => some '\u0085'
  | '_' => some '\u00a0'
  | 'L' => some '\u2028'
  | 'P' => some '\u2029'
  | _ => none

/-- How many hexadecimal digits follow a letter after a backslash. -/
def codeWidth? (c : Char) : Option Nat :=
  match c with
  | 'x' => some 2
  | 'u' => some 4
  | 'U' => some 8
  | _ => none

/-- The character for a code. -/
def charOf (code : Nat) : Except Problem Char :=
  if 0x7fffffff < code then
    .error (.failure (.overflow "Python int too large to convert to C int"))
  else if 0x10ffff < code then .error (.failure (.senseless "chr() arg not in range(0x110000)"))
  else .ok (charOfCode code)

/-- Whether a character is plain text between quotes. -/
def isOrdinary (c : Char) : Bool := !(c = '\'' || c = '"' || c = '\\' || endsWord c)

/-- Skip the blanks and line breaks at a place; the breaks, `read` being those before, are given
last first. A document separator is refused. -/
def breaks (read : List Char) : Nat → Cursor → Except Problem (List Char × Cursor)
  | 0, cursor => .ok (read, cursor)
  | fuel + 1, cursor =>
    if cursor.isSeparator then .error .malformed
    else
      let next := cursor.dropWhile fun c => c = ' ' || c = '\t'
      match next.takeBreak with
      | (none, _) => .ok (read, next)
      | (some c, after) => breaks (c :: read) fuel after

/-- The line breaks at a place. -/
def breaksAt (cursor : Cursor) : Except Problem (List Char × Cursor) := do
  let (found, next) ← breaks [] (cursor.rest.length + 1) cursor
  return (found.reverse, next)

/-- What an escape stands for, the place being that after the backslash. -/
def escape (cursor : Cursor) : Except Problem (List Char × Cursor) :=
  let c := cursor.peek
  match escaped? c, codeWidth? c with
  | some plain, _ => .ok ([plain], cursor.advance)
  | none, some width =>
    let digits := (cursor.rest.drop 1).take width
    if digits.length = width && digits.all isHexDigit then do
      return ([← charOf (positional 16 digits)], cursor.skip (width + 1))
    else .error .malformed
  | none, none =>
    match cursor.takeBreak with
    | (some _, next) => breaksAt next
    | (none, _) => .error .malformed

/-- What the blanks at a place stand for. -/
def blanks (cursor : Cursor) : Except Problem (List Char × Cursor) :=
  let (found, next) := cursor.takeWhile fun c => c = ' ' || c = '\t'
  match next.takeBreak with
  | (none, _) => if next.rest.isEmpty then .error .malformed else .ok (found, next)
  | (some first, after) => do
    let (others, last) ← breaksAt after
    let head := if first ≠ '\n' then [first] else if others.isEmpty then [' '] else []
    return (head ++ others, last)

/-- Read on up to the closing quote, `read` being the text so far; `fuel` bounds the length of the
text. -/
def readFrom (quote : Char) (read : List Char) : Nat → Cursor → Except Problem (List Char × Cursor)
  | 0, _ => .error .malformed
  | fuel + 1, cursor =>
    let isDouble := quote = '"'
    let (ordinary, next) := cursor.takeWhile isOrdinary
    let text := read ++ ordinary
    let c := next.peek
    if !isDouble && c = '\'' && next.peekAt 1 = '\'' then
      readFrom quote (text ++ ['\'']) fuel (next.skip 2)
    else if c = quote then .ok (text, next.advance)
    else if c = '\\' && isDouble then do
      let (piece, after) ← escape next.advance
      readFrom quote (text ++ piece) fuel after
    else if c = '\'' || c = '"' || c = '\\' then readFrom quote (text ++ [c]) fuel next.advance
    else do
      let (piece, after) ← blanks next
      readFrom quote (text ++ piece) fuel after

/-- Read the quoted scalar at a place. -/
def read (cursor : Cursor) : Except Problem (List Char × Cursor) :=
  readFrom cursor.peek [] (cursor.rest.length + 1) cursor.advance

end NegativeCompile.Yaml.Quoted

namespace NegativeCompile.Yaml.Block

open Text

/-! ## Block scalars

Scalars that take up the indented lines below a mark: literally, or folded, where a single line
break between lines that start with text counts as a blank. -/

/-- What becomes of the line breaks at the end. -/
inductive Chomping where
  /-- All are dropped. -/
  | strip
  /-- One is kept. -/
  | clip
  /-- All are kept. -/
  | keep
  deriving DecidableEq, Repr

/-- The marks after the first one: what becomes of line breaks, and the indentation if it is
given. -/
structure Header where
  /-- What becomes of the line breaks at the end. -/
  chomping : Chomping
  /-- How many columns the text is indented more than what holds it. -/
  increment : Option Nat

/-- What a sign says about line breaks. -/
def chomping? (c : Char) : Option Chomping :=
  if c = '+' then some .keep else if c = '-' then some .strip else none

/-- The indentation that a digit at a place gives; zero is refused. -/
def increment (cursor : Cursor) : Except Problem (Option Nat × Cursor) :=
  let c := cursor.peek
  if c = '0' then .error .malformed
  else if isAsciiDigit c then .ok (some (c.toNat - 48), cursor.advance)
  else .ok (none, cursor)

/-- Read the header at a place. -/
def header (cursor : Cursor) : Except Problem (Header × Cursor) := do
  let (found, next) ← match chomping? cursor.peek with
    | some chomping => do
      let (width, next) ← increment cursor.advance
      pure (Header.mk chomping width, next)
    | none => do
      let (width, next) ← increment cursor
      match width, chomping? next.peek with
      | some _, some chomping => pure (Header.mk chomping width, next.advance)
      | _, _ => pure (Header.mk .clip width, next)
  if endsRun next.peek then return (found, next) else throw .malformed

/-- Skip the rest of a line, which may hold a comment only. -/
def skipLine (cursor : Cursor) : Except Problem Cursor :=
  let next := cursor.skipBlanks
  let last := if next.peek = '#' then next.dropWhile (!endsLine ·) else next
  if endsLine last.peek then .ok last.takeBreak.2 else .error .malformed

/-- The empty lines at a place, as line breaks, and the greatest column on them; `read` holds the
breaks before, last first. -/
def firstBreaks (read : List Char) (widest : Nat) : Nat → Cursor → List Char × Nat × Cursor
  | 0, cursor => (read, widest, cursor)
  | fuel + 1, cursor =>
    if cursor.peek = ' ' then
      let next := cursor.advance
      firstBreaks read (max widest next.column) fuel next
    else match cursor.takeBreak with
      | (some c, next) => firstBreaks (c :: read) widest fuel next
      | (none, _) => (read, widest, cursor)

/-- Skip blanks up to a column. -/
def skipTo (indent : Nat) (cursor : Cursor) : Cursor :=
  let blanks := (cursor.rest.takeWhile (· = ' ')).length
  cursor.skip (min blanks (indent - cursor.column))

/-- The empty lines at a place, as line breaks, blanks up to an indentation being skipped; `read`
holds the breaks before, last first. -/
def furtherBreaks (indent : Nat) (read : List Char) : Nat → Cursor → List Char × Cursor
  | 0, cursor => (read, cursor)
  | fuel + 1, cursor =>
    match cursor.takeBreak with
    | (some c, next) => furtherBreaks indent (c :: read) fuel (skipTo indent next)
    | (none, _) => (read, cursor)

/-- The empty lines at a place, as line breaks. -/
def breaksAt (indent : Nat) (cursor : Cursor) : List Char × Cursor :=
  let (found, next) := furtherBreaks indent [] (cursor.rest.length + 1) (skipTo indent cursor)
  (found.reverse, next)

/-- Whether a character starts a line of text that may be folded. -/
def startsText (c : Char) : Bool := !(c = ' ' || c = '\t')

/-- Whether a line of text starts at a place. -/
def hasLine (indent : Nat) (cursor : Cursor) : Bool :=
  cursor.column = indent && !cursor.rest.isEmpty

/-- Read lines from a place on, `read` being the text so far and `pending` the breaks before the
place; the outcome is the text, the break after the last line and the breaks that follow. -/
def readLines (isFolded : Bool) (indent : Nat) (read pending : List Char) :
    Nat → Cursor → List Char × Option Char × List Char × Cursor
  | 0, cursor => (read, none, pending, cursor)
  | fuel + 1, cursor =>
    if !hasLine indent cursor then (read, none, pending, cursor)
    else
      let (line, afterLine) := cursor.takeWhile (!endsLine ·)
      let (lineBreak, afterBreak) := afterLine.takeBreak
      let (following, next) := breaksAt indent afterBreak
      let text := read ++ pending ++ line
      if hasLine indent next then
        let isJoined := isFolded && lineBreak = some '\n' && startsText cursor.peek &&
          startsText next.peek
        let joint :=
          if isJoined then (if following.isEmpty then [' '] else []) else lineBreak.toList
        readLines isFolded indent (text ++ joint) following fuel next
      else (text, lineBreak, following, next)

/-- Read the block scalar at a place, the enclosing indentation being given. -/
def read (enclosing : Int) (cursor : Cursor) : Except Problem (List Char × Cursor) := do
  let isFolded := cursor.peek = '>'
  let (found, afterHeader) ← header cursor.advance
  let start ← skipLine afterHeader
  let least := (max 1 (enclosing + 1)).toNat
  let fuel := start.rest.length + 1
  let (indent, pending, first) := match found.increment with
    | some width =>
      let indent := least + width - 1
      let (breaks, next) := breaksAt indent start
      (indent, breaks, next)
    | none =>
      let (breaks, widest, next) := firstBreaks [] 0 fuel start
      (max least widest, breaks.reverse, next)
  let (text, lineBreak, following, last) := readLines isFolded indent [] pending fuel first
  return match found.chomping with
    | .strip => (text, last)
    | .clip => (text ++ lineBreak.toList, last)
    | .keep => (text ++ lineBreak.toList ++ following, last)

end NegativeCompile.Yaml.Block

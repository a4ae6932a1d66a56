import NegativeCompile.Text.Blank

/-! # Wildcard patterns

Patterns for names: a star stands for any characters, a question mark for one, and brackets for one
of a set. Everything else stands for itself. -/

namespace NegativeCompile.Wildcard

open Text

/-- A part of a set of characters. -/
inductive SetPart where
  /-- One character. -/
  | char (c : Char)
  /-- All characters between two. -/
  | range (first last : Char)
  deriving DecidableEq, Repr

/-- A part of a pattern. -/
inductive Part where
  /-- One given character. -/
  | char (c : Char)
  /-- Any one character. -/
  | anyChar
  /-- Any run of characters. -/
  | anyRun
  /-- One character of a set or outside it. -/
  | set (negated : Bool) (parts : List SetPart)
  deriving DecidableEq, Repr

/-! ## Sets -/

/-- Where the bracket that closes a set is, counted from the character after the opening one; an
exclamation mark and a closing bracket may come first. -/
def closingBracket? (text : List Char) : Option Nat :=
  let lead := match text with
    | '!' :: ']' :: _ => 2
    | '!' :: _ => 1
    | ']' :: _ => 1
    | _ => 0
  (find? [']'] (text.drop lead)).map (· + lead)

/-- Split the inside of a set at the hyphens of its ranges. A hyphen needs a character before it,
and after a hyphen the next two characters are no hyphens of ranges; `skip` counts the characters
that cannot be one and `chunk` holds those of the current chunk, last first. -/
def rangeChunksFrom (skip : Nat) (chunk : List Char) : List Char → List (List Char)
  | [] => [chunk.reverse]
  | c :: rest =>
    match skip with
    | left + 1 => rangeChunksFrom left (c :: chunk) rest
    | 0 =>
      if c = '-' then chunk.reverse :: rangeChunksFrom 2 [] rest
      else rangeChunksFrom 0 (c :: chunk) rest

/-- A last chunk that is empty is a hyphen at the end of the one before it. -/
def closeLastChunk : List (List Char) → List (List Char)
  | [chunk, []] => [chunk ++ ['-']]
  | chunk :: rest => chunk :: closeLastChunk rest
  | [] => []

/-- The chunks of the inside of a set between the hyphens of its ranges. -/
def rangeChunks (inside : List Char) : List (List Char) :=
  closeLastChunk (rangeChunksFrom (if inside.head? = some '!' then 2 else 1) [] inside)

/-- Drop the ranges that hold nothing, from the last one on. -/
def dropEmptyRanges : List (List Char) → List (List Char)
  | [] => []
  | chunk :: rest =>
    match dropEmptyRanges rest with
    | [] => [chunk]
    | next :: others =>
      match chunk.getLast?, next.head? with
      | some first, some last =>
        if last < first then (chunk.dropLast ++ next.drop 1) :: others
        else chunk :: next :: others
      | _, _ => chunk :: next :: others

/-- The parts of a set, its chunks being joined by ranges; `low` is the start of a range. -/
def setPartsFrom (low : Option Char) : List (List Char) → List SetPart
  | [] => []
  | chunk :: rest =>
    let (opening, body) := match low, chunk with
      | some first, last :: after => ([SetPart.range first last], after)
      | _, _ => ([], chunk)
    match rest with
    | [] => opening ++ body.map .char
    | _ =>
      match body.getLast? with
      | some last => opening ++ body.dropLast.map .char ++ setPartsFrom (some last) rest
      | none => opening ++ .char '-' :: setPartsFrom none rest

/-- The part that the inside of a pair of brackets stands for. -/
def setOf (inside : List Char) : Part :=
  match dropEmptyRanges (rangeChunks inside) with
  | ('!' :: chunk) :: rest =>
    if chunk.isEmpty && rest.isEmpty then .anyChar
    else .set true (setPartsFrom none (chunk :: rest))
  | chunks => .set false (setPartsFrom none chunks)

/-! ## Patterns -/

/-- The parts of a pattern, at most `fuel` of them. -/
def partsFrom : Nat → List Char → List Part
  | 0, _ => []
  | _ + 1, [] => []
  | fuel + 1, c :: rest =>
    if c = '*' then .anyRun :: partsFrom fuel (rest.dropWhile (· = '*'))
    else if c = '?' then .anyChar :: partsFrom fuel rest
    else if c = '[' then
      match closingBracket? rest with
      | none => .char '[' :: partsFrom fuel rest
      | some length => setOf (rest.take length) :: partsFrom fuel (rest.drop (length + 1))
    else .char c :: partsFrom fuel rest

/-- The parts of a pattern. -/
def parts (pattern : List Char) : List Part := partsFrom pattern.length pattern

/-- Whether a part of a set stands for a character. -/
def SetPart.holds (c : Char) : SetPart → Bool
  | .char d => c = d
  | .range first last => first ≤ c && c ≤ last

/-- Whether a rest of a text matches, for some rest of a text. -/
def matchesSomeSuffix (matchesRest : List Char → Bool) : List Char → Bool
  | [] => matchesRest []
  | c :: rest => matchesRest (c :: rest) || matchesSomeSuffix matchesRest rest

/-- Whether parts of a pattern match a whole text. -/
def matchesParts : List Part → List Char → Bool
  | [], text => text.isEmpty
  | .anyRun :: parts, text => matchesSomeSuffix (matchesParts parts) text
  | .char c :: parts, text =>
    match text with
    | d :: rest => c == d && matchesParts parts rest
    | [] => false
  | .anyChar :: parts, text =>
    match text with
    | _ :: rest => matchesParts parts rest
    | [] => false
  | .set negated items :: parts, text =>
    match text with
    | d :: rest => (items.any (·.holds d) != negated) && matchesParts parts rest
    | [] => false

/-- Whether a pattern matches a whole name. -/
def matchesName (pattern name : String) : Bool := matchesParts (parts pattern.toList) name.toList

/-- Whether a text has a character that is special in patterns. -/
def hasMagic (text : String) : Bool :=
  text.toList.any fun c => c = '*' || c = '?' || c = '['

end NegativeCompile.Wildcard

import NegativeCompile.Json
import NegativeCompile.Number.Binary64.Written
import NegativeCompile.Text.Hex
import NegativeCompile.Text.Utf8

/-! # Writing documents

Documents as ASCII text, either on one line or with every item on a line of its own, indented by two
more blanks than what holds it. -/

namespace NegativeCompile.Json

open Text Number

/-- The text of a code unit of sixteen bits. -/
def unitEscape (unit : Nat) : List Char := '\\' :: 'u' :: hexPadded 4 unit

/-- One character as it stands in a string: a character beyond the basic plane takes two units. -/
def escapeChar (c : Char) : List Char :=
  if c = '"' then ['\\', '"']
  else if c = '\\' then ['\\', '\\']
  else if c = '\n' then ['\\', 'n']
  else if c = '\r' then ['\\', 'r']
  else if c = '\t' then ['\\', 't']
  else if c = '\x08' then ['\\', 'b']
  else if c = '\x0c' then ['\\', 'f']
  else
    let code := codeOf c
    if 32 ≤ code && code ≤ 126 then [c]
    else if code < 0x10000 then unitEscape code
    else unitEscape (0xd800 + (code - 0x10000) / 0x400) ++
      unitEscape (0xdc00 + (code - 0x10000) % 0x400)

/-- A string between its quotes. -/
def writeString (value : String) : String :=
  String.ofList ('"' :: value.toList.flatMap escapeChar ++ ['"'])

/-- A floating point number. -/
def writeReal : Binary64 → String
  | .notANumber => "NaN"
  | .infinite negative => if negative then "-Infinity" else "Infinity"
  | number => number.written

/-- A document that holds no others. -/
def writeLeaf : Json → String
  | .null => "null"
  | .boolean value => if value then "true" else "false"
  | .integer value => toString value
  | .real value => writeReal value
  | .string value => writeString value
  | .array _ => "[]"
  | .object _ => "\x7b\x7d"

/-- A line break and two blanks for each level. -/
def breakTo (level : Nat) : String := String.ofList ('\n' :: List.replicate (2 * level) ' ')

mutual

/-- A document with every item on a line of its own, at a level. -/
def writeAt (level : Nat) : Json → String
  | .array (first :: rest) =>
    "[" ++ breakTo (level + 1) ++
      ("," ++ breakTo (level + 1)).intercalate (writeItems (level + 1) (first :: rest)) ++
      breakTo level ++ "]"
  | .object (first :: rest) =>
    "\x7b" ++ breakTo (level + 1) ++
      ("," ++ breakTo (level + 1)).intercalate (writeMembers (level + 1) (first :: rest)) ++
      breakTo level ++ "\x7d"
  | document => writeLeaf document

/-- The items of an array. -/
def writeItems (level : Nat) : List Json → List String
  | [] => []
  | item :: rest => writeAt level item :: writeItems level rest

/-- The members of an object. -/
def writeMembers (level : Nat) : List (String × Json) → List String
  | [] => []
  | (name, value) :: rest =>
    (writeString name ++ ": " ++ writeAt level value) :: writeMembers level rest

end

/-- A document with every item on a line of its own. -/
def writeIndented (document : Json) : String := writeAt 0 document

mutual

/-- A document on one line. -/
def write : Json → String
  | .array items => "[" ++ ",".intercalate (writeEach items) ++ "]"
  | .object members => "\x7b" ++ ",".intercalate (writeEachMember members) ++ "\x7d"
  | document => writeLeaf document

/-- The items of an array. -/
def writeEach : List Json → List String
  | [] => []
  | item :: rest => write item :: writeEach rest

/-- The members of an object. -/
def writeEachMember : List (String × Json) → List String
  | [] => []
  | (name, value) :: rest => (writeString name ++ ":" ++ write value) :: writeEachMember rest

end

end NegativeCompile.Json

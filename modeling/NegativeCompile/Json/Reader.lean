import NegativeCompile.Json
import NegativeCompile.Number.Binary64.Reader
import NegativeCompile.Text.Hex

/-! # Reading documents

The document that a text is. A number with a point or an exponent is a floating point number. -/

namespace NegativeCompile.Json

open Text Number

/-- Drop the blanks between parts of a document. -/
def dropBlanks (text : List Char) : List Char :=
  text.dropWhile fun c => c = ' ' || c = '\t' || c = '\n' || c = '\r'

/-- The code unit that four hexadecimal digits at the start of a text stand for. -/
def readUnit? (text : List Char) : Option Nat :=
  let digits := text.take 4
  if digits.length = 4 && digits.all isHexDigit then some (positional 16 digits) else none

/-- The character that a letter after a backslash stands for. -/
def escaped? (c : Char) : Option Char :=
  match c with
  | 'b' => some '\x08'
  | 'f' => some '\x0c'
  | 'n' => some '\n'
  | 'r' => some '\r'
  | 't' => some '\t'
  | '"' => some '"'
  | '\\' => some '\\'
  | '/' => some '/'
  | _ => none

/-- Read the characters of a string after its opening quote, `read` being those before, last
first. -/
def readStringFrom (read : List Char) : Nat → List Char → Option (String × List Char)
  | 0, _ => none
  | _ + 1, [] => none
  | fuel + 1, c :: rest =>
    if c = '"' then some (String.ofList read.reverse, rest)
    else if c ≠ '\\' then readStringFrom (c :: read) fuel rest
    else match rest with
      | [] => none
      | letter :: after =>
        if letter = 'u' then
          match readUnit? after with
          | none => none
          | some unit =>
            let beyond := after.drop 4
            let low := match beyond with
              | '\\' :: 'u' :: more => readUnit? more
              | _ => none
            match low with
            | some second =>
              if 0xd800 ≤ unit && unit < 0xdc00 && 0xdc00 ≤ second && second < 0xe000 then
                let code := 0x10000 + (unit - 0xd800) * 0x400 + (second - 0xdc00)
                readStringFrom (Char.ofNat code :: read) fuel (beyond.drop 6)
              else readStringFrom (Char.ofNat unit :: read) fuel beyond
            | none => readStringFrom (Char.ofNat unit :: read) fuel beyond
        else match escaped? letter with
          | some d => readStringFrom (d :: read) fuel after
          | none => none

/-- Read a string after its opening quote. -/
def readString (text : List Char) : Option (String × List Char) :=
  readStringFrom [] (text.length + 1) text

/-- Whether a character can be part of a number. -/
def isNumberChar (c : Char) : Bool :=
  isAsciiDigit c || c = '-' || c = '+' || c = '.' || c = 'e' || c = 'E'

/-- The number that characters stand for. -/
def readNumber (word : List Char) : Option Json :=
  if word.any fun c => c = '.' || c = 'e' || c = 'E' then (Binary64.read word).map .real
  else
    let (negative, digits) := takeSign word
    if digits.isEmpty || !digits.all isAsciiDigit then none
    else some (.integer (signed negative (positional 10 digits)))

/-- The documents that are single words. -/
def readWord (text : List Char) : Option (Json × List Char) :=
  if startsWith "null".toList text then some (.null, text.drop 4)
  else if startsWith "true".toList text then some (.boolean true, text.drop 4)
  else if startsWith "false".toList text then some (.boolean false, text.drop 5)
  else (readNumber (text.takeWhile isNumberChar)).map (·, text.dropWhile isNumberChar)

mutual

/-- Read a document at the start of a text. -/
def readValue : Nat → List Char → Option (Json × List Char)
  | 0, _ => none
  | fuel + 1, text =>
    match dropBlanks text with
    | '"' :: rest => (readString rest).map fun (value, after) => (.string value, after)
    | '[' :: rest =>
      match dropBlanks rest with
      | ']' :: after => some (.array [], after)
      | body => (readItems fuel [] body).map fun (items, after) => (.array items, after)
    | '{' :: rest =>
      match dropBlanks rest with
      | '}' :: after => some (.object [], after)
      | body => (readMembers fuel [] body).map fun (members, after) => (.object members, after)
    | body => readWord body

/-- Read the items of an array up to its end, `read` being those before, last first. -/
def readItems : Nat → List Json → List Char → Option (List Json × List Char)
  | 0, _, _ => none
  | fuel + 1, read, text =>
    match readValue fuel text with
    | none => none
    | some (item, rest) =>
      match dropBlanks rest with
      | ',' :: after => readItems fuel (item :: read) after
      | ']' :: after => some ((item :: read).reverse, after)
      | _ => none

/-- Read the members of an object up to its end, `read` being those before, last first. -/
def readMembers : Nat → List (String × Json) → List Char →
    Option (List (String × Json) × List Char)
  | 0, _, _ => none
  | fuel + 1, read, text =>
    match dropBlanks text with
    | '"' :: rest =>
      match readString rest with
      | none => none
      | some (name, afterName) =>
        match dropBlanks afterName with
        | ':' :: afterColon =>
          match readValue fuel afterColon with
          | none => none
          | some (value, afterValue) =>
            match dropBlanks afterValue with
            | ',' :: after => readMembers fuel ((name, value) :: read) after
            | '}' :: after => some (((name, value) :: read).reverse, after)
            | _ => none
        | _ => none
    | _ => none

end

/-- The document that a text is. -/
def read (text : String) : Option Json :=
  let chars := text.toList
  match readValue (chars.length + 1) chars with
  | some (document, rest) => if (dropBlanks rest).isEmpty then some document else none
  | none => none

end NegativeCompile.Json

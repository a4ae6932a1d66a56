import NegativeCompile.Datum
import NegativeCompile.Number.Binary64.Reader
import NegativeCompile.Text.CharacterName
import NegativeCompile.Text.Identifier
import NegativeCompile.Text.Utf8

/-! # Tokens of an expectation list

The parts of an expression: brackets, operators, numbers, quoted texts and byte strings, and names.
Blanks and comments lie between them. -/

namespace NegativeCompile.Literal

open Text Number

/-- A token of an expression. -/
inductive Token where
  /-- A bracket, a separator or an operator. -/
  | mark (text : String)
  /-- Three dots. -/
  | dots
  /-- A number. -/
  | number (value : Datum)
  /-- A quoted text. -/
  | text (value : List Char)
  /-- A quoted byte string. -/
  | bytes (value : List UInt8)
  /-- A quoted text with expressions in it, and whether it is raw. -/
  | formatted (isRaw : Bool) (body : List Char)
  /-- A name or a reserved word. -/
  | name (value : String)

/-! ## Numbers -/

/-- The longest run of digits with single underscores between them; `expected` tells whether a
digit has to come next. -/
def digitsWithUnderscores (isDigit : Char → Bool) (expected : Bool) :
    List Char → Option (List Char × List Char)
  | [] => if expected then none else some ([], [])
  | c :: rest =>
    if isDigit c then
      (digitsWithUnderscores isDigit false rest).map fun (digits, after) => (c :: digits, after)
    else if expected then none
    else if c = '_' then digitsWithUnderscores isDigit true rest
    else some ([], c :: rest)

/-- A whole number in base two, eight or sixteen, after the letter of the base. -/
def radixNumber (base : Nat) (isDigit : Char → Bool) (text : List Char) :
    Option (Datum × List Char) :=
  let body := match text with
    | '_' :: rest => rest
    | _ => text
  (digitsWithUnderscores isDigit true body).map fun (digits, after) =>
    (.integer (positional base digits), after)

/-- An exponent, if one follows: the exponent and the text after it. A letter without digits after
it is no exponent. -/
def exponentPart : List Char → Option (Option Int × List Char)
  | c :: rest =>
    if c = 'e' || c = 'E' then
      let (negative, body) := takeSign rest
      if body.head?.any isAsciiDigit then
        (digitsWithUnderscores isAsciiDigit true body).map fun (digits, after) =>
          (some (signed negative (positional 10 digits)), after)
      else if body.length = rest.length then some (none, c :: rest)
      else none
    else some (none, c :: rest)
  | [] => some (none, [])

/-- A fraction, if a point follows: its digits and the text after it. -/
def fractionPart : List Char → Option (Option (List Char) × List Char)
  | '.' :: c :: rest =>
    if isAsciiDigit c then
      (digitsWithUnderscores isAsciiDigit true (c :: rest)).map fun (digits, after) =>
        (some digits, after)
    else some (some [], c :: rest)
  | ['.'] => some (some [], [])
  | text => some (none, text)

/-- Whether whole digits may stand alone: a zero may not lead other digits, and there is a limit to
their number. -/
def areWholeNumber (digits : List Char) : Bool :=
  digits.length ≤ digitLimit && (digits.head? != some '0' || digits.all (· = '0'))

/-- A decimal number that starts with a digit or with a point and a digit. -/
def decimalNumber (text : List Char) : Option (Datum × List Char) := do
  let (whole, afterWhole) ← match text with
    | '.' :: _ => some ([], text)
    | _ => digitsWithUnderscores isAsciiDigit true text
  let (fraction, afterFraction) ← fractionPart afterWhole
  let (exponent, afterExponent) ← exponentPart afterFraction
  let value := Binary64.ofDecimal false ⟨whole, fraction.getD [], exponent.getD 0⟩
  match afterExponent with
  | c :: rest =>
    if c = 'j' || c = 'J' then return (.complex .zero value, rest)
  | [] => pure ()
  if fraction.isSome || exponent.isSome then return (.real value, afterExponent)
  if areWholeNumber whole then return (.integer (positional 10 whole), afterExponent)
  none

/-- Whether a character can be part of a name. -/
def isNameChar (c : Char) : Bool :=
  isAsciiLetter c || isAsciiDigit c || c = '_' || 128 ≤ c.toNat

/-- The starts of the reserved words that may follow a number without a blank. -/
def wordsAfterNumber : List String := ["and", "else", "for", "if", "in", "is", "or", "not"]

/-- Whether a text may follow a number without a blank. -/
def mayFollowNumber (text : List Char) : Bool :=
  !text.head?.any isNameChar || wordsAfterNumber.any fun word => startsWith word.toList text

/-- A number, which must not run into a name. -/
def numberToken (text : List Char) : Option (Token × List Char) := do
  let (value, after) ← match text with
    | '0' :: c :: rest =>
      if c = 'x' || c = 'X' then radixNumber 16 isHexDigit rest
      else if c = 'o' || c = 'O' then radixNumber 8 isOctalDigit rest
      else if c = 'b' || c = 'B' then radixNumber 2 (fun d => d = '0' || d = '1') rest
      else decimalNumber text
    | _ => decimalNumber text
  if mayFollowNumber after then some (.number value, after) else none

/-! ## Quoted texts -/

/-- The text up to a quote; a backslash keeps the character after it from ending the text. -/
def untilQuote (quote : Char) : List Char → Option (List Char × List Char)
  | [] => none
  | '\\' :: c :: rest =>
    (untilQuote quote rest).map fun (body, after) => ('\\' :: c :: body, after)
  | c :: rest =>
    if c = quote then some ([], rest)
    else if c = '\n' then none
    else (untilQuote quote rest).map fun (body, after) => (c :: body, after)

/-- The text up to three quotes; a backslash keeps the character after it from ending the text. -/
def untilTripleQuote (quote : Char) : List Char → Option (List Char × List Char)
  | [] => none
  | '\\' :: c :: rest =>
    (untilTripleQuote quote rest).map fun (body, after) => ('\\' :: c :: body, after)
  | c :: rest =>
    if c = quote && startsWith [quote, quote] rest then some ([], rest.drop 2)
    else (untilTripleQuote quote rest).map fun (body, after) => (c :: body, after)

/-- The character that a backslash and one letter stand for. -/
def simpleEscape? (c : Char) : Option Nat :=
  match c with
  | '\\' => some 92
  | '\'' => some 39
  | '"' => some 34
  | 'a' => some 7
  | 'b' => some 8
  | 'f' => some 12
  | 'n' => some 10
  | 'r' => some 13
  | 't' => some 9
  | 'v' => some 11
  | _ => none

/-- The number that exactly `width` leading hexadecimal digits stand for. -/
def hexEscape? (width : Nat) (text : List Char) : Option Nat :=
  let digits := text.take width
  if digits.length = width && digits.all isHexDigit then some (positional 16 digits) else none

/-- The codes that an escaped text stands for; a byte string knows no escapes for characters beyond
one byte, and an unknown escape stands for itself. -/
def unescape (isText : Bool) : List Char → Option (List Nat)
  | [] => some []
  | '\\' :: c :: rest =>
    if c = '\n' then unescape isText rest
    else match simpleEscape? c with
      | some code => (unescape isText rest).map (code :: ·)
      | none =>
        if isOctalDigit c then
          let more := (rest.take 2).takeWhile isOctalDigit
          (unescape isText (rest.drop more.length)).map (positional 8 (c :: more) :: ·)
        else if c = 'x' then
          match hexEscape? 2 rest with
          | some code => (unescape isText (rest.drop 2)).map (code :: ·)
          | none => none
        else if isText && c = 'u' then
          match hexEscape? 4 rest with
          | some code => (unescape isText (rest.drop 4)).map (code :: ·)
          | none => none
        else if isText && c = 'U' then
          match hexEscape? 8 rest with
          | some code =>
            if code ≤ 0x10ffff then (unescape isText (rest.drop 8)).map (code :: ·) else none
          | none => none
        else if isText && c = 'N' then
          let name := (rest.drop 1).takeWhile (· ≠ '}')
          match rest.head?, characterNamed? (String.ofList name) with
          | some '{', some code =>
            (unescape isText (rest.drop (name.length + 2))).map (code :: ·)
          | _, _ => none
        else (unescape isText rest).map fun codes => 92 :: c.toNat :: codes
  | c :: rest => (unescape isText rest).map (c.toNat :: ·)
termination_by text => text.length
decreasing_by all_goals simp only [List.length_cons, List.length_drop]; omega

/-- What letters before a quote say about what it quotes. -/
inductive QuoteKind where
  /-- A text. -/
  | text
  /-- A byte string. -/
  | bytes
  /-- A text with expressions in it. -/
  | formatted
  deriving DecidableEq, Repr

/-- A quoted text or byte string, the text standing after its opening quote. -/
def quotedToken (kind : QuoteKind) (isRaw : Bool) (quote : Char) (text : List Char) :
    Option (Token × List Char) := do
  let (body, after) ←
    if startsWith [quote, quote] text then untilTripleQuote quote (text.drop 2)
    else untilQuote quote text
  match kind with
  | .formatted => some (.formatted isRaw body, after)
  | .text =>
    let codes ← if isRaw then some (body.map Char.toNat) else unescape true body
    some (.text (codes.map charOfCode), after)
  | .bytes =>
    if body.any (128 ≤ ·.toNat) then none
    let codes ← if isRaw then some (body.map Char.toNat) else unescape false body
    some (.bytes (codes.map fun code => UInt8.ofNat code), after)

/-- What the letters before a quote say: what is quoted and whether it is raw. -/
def quotePrefix? (letters : String) : Option (QuoteKind × Bool) :=
  if letters = "u" then some (.text, false)
  else if letters = "r" then some (.text, true)
  else if letters = "b" then some (.bytes, false)
  else if letters = "br" || letters = "rb" then some (.bytes, true)
  else if letters = "f" then some (.formatted, false)
  else if letters = "fr" || letters = "rf" then some (.formatted, true)
  else none

/-- The token of a word, which must be an identifier. -/
def nameToken (word after : List Char) : Option (Token × List Char) :=
  if isIdentifier word then some (.name (String.ofList word), after) else none

/-- A name, or a quoted text with letters before its quote. -/
def wordToken (text : List Char) : Option (Token × List Char) :=
  let word := text.takeWhile isNameChar
  let after := text.dropWhile isNameChar
  match after with
  | c :: rest =>
    if c = '\'' || c = '"' then
      match quotePrefix? (lowerAscii word) with
      | some (kind, isRaw) => quotedToken kind isRaw c rest
      | none => nameToken word after
    else nameToken word after
  | [] => nameToken word []
where
  /-- The ASCII letters of a text in lower case. -/
  lowerAscii (word : List Char) : String := String.ofList (word.map Char.toLower)

/-! ## All tokens -/

/-- The marks of two characters. -/
def doubleMarks : List String := ["**", "//", "<<", ">>", "<=", ">=", "==", "!=", ":=", "->"]

/-- The marks of one character. -/
def singleMarks : List Char :=
  ['[', ']', '(', ')', '{', '}', ',', ':', '+', '-', '*', '/', '%', '@', '&', '|', '^', '~', '<',
    '>', '=', '.']

/-- The mark at the start of a text. -/
def markToken (text : List Char) : Option (Token × List Char) :=
  let pair := String.ofList (text.take 2)
  if doubleMarks.contains pair then some (.mark pair, text.drop 2)
  else match text with
    | c :: rest => if singleMarks.contains c then some (.mark (String.singleton c), rest) else none
    | [] => none

/-- The first token of a text that starts with no blank and no comment. -/
def nextToken (text : List Char) : Option (Token × List Char) :=
  match text with
  | [] => none
  | c :: rest =>
    if c = '\'' || c = '"' then quotedToken .text false c rest
    else if isAsciiDigit c then numberToken text
    else if startsWith ['.', '.', '.'] text then some (.dots, text.drop 3)
    else if c = '.' && rest.head?.any isAsciiDigit then numberToken text
    else if isNameChar c then wordToken text
    else markToken text

/-- Whether a character may stand between tokens. -/
def isSpace (c : Char) : Bool := c = ' ' || c = '\t' || c = '\x0c' || c = '\n'

/-- The tokens of a text, at most `fuel` of them; a comment reaches to the end of its line. -/
def tokensFrom : Nat → List Char → Option (List Token)
  | 0, _ => none
  | fuel + 1, text =>
    match text with
    | [] => some []
    | c :: rest =>
      if isSpace c then tokensFrom fuel rest
      else if c = '#' then tokensFrom fuel (rest.dropWhile (· ≠ '\n'))
      else match nextToken text with
        | some (token, after) => (tokensFrom fuel after).map (token :: ·)
        | none => none

/-- The tokens of a text. -/
def tokens (text : List Char) : Option (List Token) := tokensFrom (text.length + 1) text

end NegativeCompile.Literal

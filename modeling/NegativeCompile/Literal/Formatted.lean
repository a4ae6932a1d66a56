import NegativeCompile.Literal.Token

/-! # Texts with expressions

Quoted texts with expressions between braces. A brace that stands for itself is written twice. After
an expression there may be an equals sign, a conversion and a format, which can have expressions in
it too. -/

namespace NegativeCompile.Literal.Formatted

open Text

/-! ## Literal parts -/

/-- Split a text behind a closing brace, if there is one. -/
def skipName : List Char → List Char × List Char
  | [] => ([], [])
  | c :: rest =>
    if c = '}' then ([c], rest)
    else
      let (name, after) := skipName rest
      (c :: name, after)

/-- Split off the part of a text up to an expression or to the closing brace of a format; `fuel`
bounds the length of the text. A brace written twice outside of formats is one brace. There is no
such part if a closing brace stands alone. -/
def literalPart (isRaw isFormat : Bool) : Nat → List Char → Option (List Char × List Char)
  | 0, text => some ([], text)
  | _ + 1, [] => some ([], [])
  | fuel + 1, c :: rest =>
    let keep (piece after : List Char) : Option (List Char × List Char) :=
      (literalPart isRaw isFormat fuel after).map fun (part, last) => (piece ++ part, last)
    match isRaw, c, rest with
    | false, '\\', 'N' :: '{' :: name =>
      let (found, after) := skipName name
      keep ('\\' :: 'N' :: '{' :: found) after
    | false, '\\', d :: after =>
      if d = '{' || d = '}' then keep [c, c] rest else keep [c, d] after
    | _, _, _ =>
      if c = '{' || c = '}' then
        if !isFormat && rest.head? = some c then keep [c] (rest.drop 1)
        else if !isFormat && c = '}' then none
        else some ([], c :: rest)
      else keep [c] rest

/-! ## Expressions -/

/-- The bracket that closes a given one. -/
def closingOf (opening : Char) : Char :=
  if opening = '(' then ')' else if opening = '[' then ']' else '}'

/-- Split off the text of an expression, which ends outside of brackets and quotes before a closing
brace, a colon, an exclamation mark or an equals sign. `brackets` are those that close what is open,
the innermost first; `quote` is that of the text that is open. -/
def expressionPart : Nat → List Char → Option (List Char) → List Char →
    Option (List Char × List Char)
  | 0, _, _, _ => none
  | _ + 1, _, _, [] => none
  | fuel + 1, brackets, quote, c :: rest =>
    let keep (count : Nat) (open_ : List Char) (inside : Option (List Char)) :
        Option (List Char × List Char) :=
      (expressionPart fuel open_ inside ((c :: rest).drop count)).map fun (part, after) =>
        ((c :: rest).take count ++ part, after)
    if c = '\\' then none
    else match quote with
      | some ending =>
        if startsWith ending (c :: rest) then keep ending.length brackets none
        else keep 1 brackets quote
      | none =>
        if c = '\'' || c = '"' then
          if startsWith [c, c] rest then keep 3 brackets (some [c, c, c])
          else keep 1 brackets (some [c])
        else if c = '(' || c = '[' || c = '{' then keep 1 (closingOf c :: brackets) none
        else if c = '#' then none
        else if brackets.isEmpty && ['!', ':', '}', '=', '<', '>'].contains c then
          if rest.head? = some '=' && ['!', '=', '<', '>'].contains c then keep 2 brackets none
          else if c = '<' || c = '>' then keep 1 brackets none
          else some ([], c :: rest)
        else if c = ')' || c = ']' || c = '}' then
          if brackets.head? = some c then keep 1 (brackets.drop 1) none else none
        else keep 1 brackets none

/-- Whether a text holds blanks only. -/
def isBlankText (text : List Char) : Bool :=
  text.all fun c => c = ' ' || c = '\t' || c = '\n' || c = '\x0c'

/-- Skip an equals sign after an expression, and blanks behind it. -/
def skipEquals : List Char → List Char
  | '=' :: rest =>
    rest.dropWhile fun c => c = ' ' || c = '\t' || c = '\n' || c = '\x0b' || c = '\x0c'
  | text => text

/-- Skip a conversion after an expression; there must be a letter for it. -/
def skipConversion : List Char → Option (List Char)
  | '!' :: c :: rest => if c = 's' || c = 'r' || c = 'a' then some rest else none
  | '!' :: [] => none
  | text => some text

/-- The texts of the expressions in what is between quotes, or in a format, and what follows;
`level` is the number of formats around, and `fuel` bounds the length of the text. -/
def expressionsFrom (isRaw : Bool) : Nat → Nat → List Char →
    Option (List (List Char) × List Char)
  | 0, _, _ => none
  | fuel + 1, level, text => do
    let (part, rest) ← literalPart isRaw (0 < level) (text.length + 1) text
    if !isRaw && (unescape true part).isNone then none
    match rest with
    | '{' :: inside => do
      if 2 ≤ level then none
      let (expression, afterExpression) ← expressionPart (inside.length + 1) [] none inside
      if isBlankText expression then none
      match ← skipConversion (skipEquals afterExpression) with
      | ':' :: format => do
        if format.isEmpty then none
        let (nested, afterFormat) ← expressionsFrom isRaw fuel (level + 1) format
        let after ← afterBrace? afterFormat
        let (others, last) ← expressionsFrom isRaw fuel level after
        return (expression :: nested ++ others, last)
      | ending => do
        let (others, last) ← expressionsFrom isRaw fuel level (← afterBrace? ending)
        return (expression :: others, last)
    | _ => return ([], rest)
where
  /-- What follows a closing brace. -/
  afterBrace? : List Char → Option (List Char)
    | '}' :: rest => some rest
    | _ => none

/-- The texts of the expressions in what is between quotes. -/
def expressions (isRaw : Bool) (body : List Char) : Option (List (List Char)) :=
  (expressionsFrom isRaw (body.length + 1) 0 body).map (·.1)

end NegativeCompile.Literal.Formatted

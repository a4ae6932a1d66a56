import NegativeCompile.Text.Alphanumeric
import NegativeCompile.Text.Blank
import NegativeCompile.Text.Casing
import NegativeCompile.Text.Identifier
import NegativeCompile.Text.Integer

/-! # Keyword expressions

Expressions of words that choose items by their names: words with `and`, `or`, `not` and
parentheses. A word holds for an item if it occurs in one of its names in any case. -/

namespace NegativeCompile.Testing

open Text

/-! ## Tokens -/

/-- A token of an expression. -/
inductive KeywordToken where
  /-- An opening parenthesis. -/
  | opening
  /-- A closing parenthesis. -/
  | closing
  /-- An equals sign. -/
  | equals
  /-- A comma. -/
  | comma
  /-- Both sides have to hold. -/
  | both
  /-- One side has to hold. -/
  | either
  /-- What follows must not hold. -/
  | negation
  /-- A word. -/
  | word (text : String)
  /-- A text between quotes. -/
  | quoted
  /-- The end of the expression. -/
  | finish
  deriving DecidableEq, Repr, Inhabited

/-- What a token is called in problems. -/
def KeywordToken.name : KeywordToken → String
  | .opening => "left parenthesis"
  | .closing => "right parenthesis"
  | .equals => "="
  | .comma => ","
  | .both => "and"
  | .either => "or"
  | .negation => "not"
  | .word _ => "identifier"
  | .quoted => "string literal"
  | .finish => "end of input"

/-- Why an expression makes no sense. -/
inductive KeywordProblem where
  /-- It breaks a rule at the character of a number. -/
  | malformed (column : Nat) (reason : String)
  /-- A parameter has a value that is no number though it is made of digits, or is given twice. -/
  | senseless
  deriving DecidableEq, Repr, Inhabited

/-- Whether a character can be part of a word. -/
def isKeywordChar (c : Char) : Bool :=
  isWordChar c || [':', '+', '-', '.', '[', ']', '\\', '/'].contains c

/-- The token of a word. -/
def KeywordToken.ofWord (text : String) : KeywordToken :=
  if text = "or" then .either
  else if text = "and" then .both
  else if text = "not" then .negation
  else .word text

/-- How far an expression has been read: up to a token, behind which nothing has been looked at. -/
structure KeywordSource where
  /-- The next token. -/
  token : KeywordToken
  /-- The number of its first character, from one. -/
  column : Nat
  /-- What follows the token. -/
  rest : List Char
  /-- The number of the first character that follows. -/
  next : Nat
  /-- The number of the first backslash of the whole expression, if there is one. -/
  backslash : Option Nat
  deriving DecidableEq, Repr

namespace KeywordSource

/-- Look at the token behind the next one. -/
def advance (source : KeywordSource) : Except KeywordProblem KeywordSource :=
  let text := source.rest.dropWhile fun c => c = ' ' || c = '\t'
  let column := source.next + (source.rest.length - text.length)
  let found (token : KeywordToken) (size : Nat) : KeywordSource :=
    { source with token := token, column := column, rest := text.drop size, next := column + size }
  match text with
  | [] => .ok (found .finish 0)
  | c :: after =>
    if c = '(' then .ok (found .opening 1)
    else if c = ')' then .ok (found .closing 1)
    else if c = '=' then .ok (found .equals 1)
    else if c = ',' then .ok (found .comma 1)
    else if c = '\'' || c = '"' then
      let inside := after.takeWhile (· ≠ c)
      if inside.length = after.length then
        .error (.malformed column s!"closing quote \"{String.singleton c}\" is missing")
      else match source.backslash with
        | some place =>
          .error (.malformed place "escaping with \"\\\" not supported in marker expression")
        | none => .ok (found .quoted (inside.length + 2))
    else
      let word := text.takeWhile isKeywordChar
      if word.isEmpty then
        .error (.malformed column s!"unexpected character \"{String.singleton c}\"")
      else .ok (found (.ofWord (String.ofList word)) word.length)

/-- The start of an expression. -/
def ofText (text : List Char) : Except KeywordProblem KeywordSource :=
  advance ⟨.finish, 1, text, 1, (text.findIdx? (· = '\\')).map (· + 1)⟩

/-- The problem of finding another token than some expected ones. -/
def unexpected (source : KeywordSource) (expected : List KeywordToken) : KeywordProblem :=
  let names := " OR ".intercalate (expected.map (·.name))
  .malformed source.column s!"expected {names}; got {source.token.name}"

/-- Go past a token that has to come next. -/
def expect (source : KeywordSource) (token : KeywordToken) : Except KeywordProblem KeywordSource :=
  if source.token = token then source.advance else .error (source.unexpected [token])

end KeywordSource

/-! ## Parameters -/

/-- The words that are no names of parameters. -/
def reservedWords : List String :=
  ["False", "None", "True", "and", "as", "assert", "async", "await", "break", "class", "continue",
    "def", "del", "elif", "else", "except", "finally", "for", "from", "global", "if", "import",
    "in", "is", "lambda", "nonlocal", "not", "or", "pass", "raise", "return", "try", "while",
    "with", "yield"]

/-- Refuse a word that cannot be the name of a parameter. -/
def checkParameterName (column : Nat) (name : String) : Except KeywordProblem Unit :=
  if !isIdentifier name.toList then
    .error (.malformed column s!"not a valid python identifier {name}")
  else if reservedWords.contains name then
    .error (.malformed column s!"unexpected reserved python keyword \x60{name}\x60")
  else .ok ()

/-- Whether a word looks like a whole number. -/
def isNumberWord (text : List Char) : Bool :=
  let digits := match text with
    | '-' :: rest => rest
    | _ => text
  !digits.isEmpty && digits.all isAnyDigit

/-- Refuse a word that cannot be the value of a parameter. -/
def checkParameterValue (column : Nat) (value : String) : Except KeywordProblem Unit :=
  if isNumberWord value.toList then
    match readInteger value.toList with
    | .ok _ => .ok ()
    | .error _ => .error .senseless
  else if ["True", "False", "None"].contains value then .ok ()
  else .error (.malformed column s!"unexpected character/s \"{value}\"")

/-- Read a parameter: a name, an equals sign and a value; the outcome has the name. -/
def readParameter (source : KeywordSource) :
    Except KeywordProblem (String × KeywordSource) := do
  match source.token with
  | .word name => do
    let afterName ← source.advance
    checkParameterName source.column name
    let afterSign ← afterName.expect .equals
    match afterSign.token with
    | .quoted => return (name, ← afterSign.advance)
    | .word value => do
      let last ← afterSign.advance
      checkParameterValue afterSign.column value
      return (name, last)
    | _ => throw (afterSign.unexpected [.word ""])
  | _ => throw (source.unexpected [.word ""])

/-- Read parameters with commas between them; `fuel` bounds their number. -/
def readParameters : Nat → KeywordSource → Except KeywordProblem (List String × KeywordSource)
  | 0, source => .error (source.unexpected [])
  | fuel + 1, source => do
    let (name, after) ← readParameter source
    if after.token = .comma then
      let (names, last) ← readParameters fuel (← after.advance)
      return (name :: names, last)
    else return ([name], after)

/-! ## Expressions -/

/-- An expression of words. -/
inductive Keyword where
  /-- It holds always. -/
  | always
  /-- A word occurs in a name. -/
  | word (text : String)
  /-- A word with parameters, about which nothing can be said. -/
  | call (parameters : List String)
  /-- Something does not hold. -/
  | negation (operand : Keyword)
  /-- Both sides hold. -/
  | both (left right : Keyword)
  /-- One side holds. -/
  | either (left right : Keyword)
  deriving DecidableEq, Repr, Inhabited

namespace Keyword

/-- How tightly a part of an expression is bound. -/
inductive Level where
  /-- A word, a negation or an expression in parentheses. -/
  | single
  /-- Parts that all have to hold. -/
  | conjunction
  /-- Parts of which one has to hold. -/
  | disjunction

/-- Read the longest expression of a level; `fuel` bounds the number of steps. -/
def readFrom : Nat → Level → KeywordSource → Except KeywordProblem (Keyword × KeywordSource)
  | 0, _, source => .error (source.unexpected [])
  | fuel + 1, .single, source => do
    match source.token with
    | .negation => do
      let (operand, after) ← readFrom fuel .single (← source.advance)
      return (.negation operand, after)
    | .opening => do
      let (inside, after) ← readFrom fuel .disjunction (← source.advance)
      return (inside, ← after.expect .closing)
    | .word text => do
      let after ← source.advance
      if after.token = .opening then
        let (parameters, last) ← readParameters fuel (← after.advance)
        return (.call parameters, ← last.expect .closing)
      else return (.word text, after)
    | _ => throw (source.unexpected [.negation, .opening, .word ""])
  | fuel + 1, .conjunction, source => do
    let (left, after) ← readFrom fuel .single source
    if after.token = .both then
      let (right, last) ← readFrom fuel .conjunction (← after.advance)
      return (.both left right, last)
    else return (left, after)
  | fuel + 1, .disjunction, source => do
    let (left, after) ← readFrom fuel .conjunction source
    if after.token = .either then
      let (right, last) ← readFrom fuel .disjunction (← after.advance)
      return (.either left right, last)
    else return (left, after)

/-- Whether a name stands twice among some names. -/
def hasRepeated : List String → Bool
  | [] => false
  | name :: rest => rest.contains name || hasRepeated rest

/-- Whether the parameters of all words can be given: each once, and none is fixed. -/
def isSensible : Keyword → Bool
  | .always => true
  | .word _ => true
  | .call parameters => !hasRepeated parameters && !parameters.contains "__debug__"
  | .negation operand => operand.isSensible
  | .both left right => left.isSensible && right.isSensible
  | .either left right => left.isSensible && right.isSensible

/-- The expression in a text; the empty text holds always. -/
def read (text : String) : Except KeywordProblem Keyword := do
  if text.isEmpty then return .always
  let source ← KeywordSource.ofText text.toList
  let (expression, rest) ← readFrom (3 * text.length + 6) .disjunction source
  if rest.token ≠ .finish then throw (rest.unexpected [.finish])
  if expression.isSensible then return expression else throw .senseless

/-- Whether an expression holds for something with some names; nothing is known if that hangs on a
word with parameters. -/
def holds? (names : List String) : Keyword → Option Bool
  | .always => some true
  | .word text =>
    some (names.any fun name => occursIn (lower text.toList) (lower name.toList))
  | .call _ => none
  | .negation operand => (operand.holds? names).map (!·)
  | .both left right => do
    if ← left.holds? names then right.holds? names else some false
  | .either left right => do
    if ← left.holds? names then some true else right.holds? names

end Keyword

end NegativeCompile.Testing

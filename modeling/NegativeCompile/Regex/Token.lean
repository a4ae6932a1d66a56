import NegativeCompile.Text.Hex

/-! # Tokens of a pattern

A pattern is read character by character, except that a backslash and the character after it are
one token. Before that it is said why a text is no pattern at all. -/

namespace NegativeCompile.Regex

open Text

/-! ## Faulty patterns -/

/-- Why a text is no pattern. -/
inductive Problem where
  /-- It breaks a rule, possibly at a known place. -/
  | invalid (rule : String) (position : Option Nat)
  /-- A number in it is out of range. -/
  | overflow (message : String)
  /-- A number in it or its options make no sense. -/
  | senseless (message : String)
  /-- It cannot be searched for. -/
  | unusable (message : String)
  deriving DecidableEq, Repr

namespace Problem

/-- How many line breaks are among characters. -/
def lineBreaks (text : List Char) : Nat := text.count '\n'

/-- The line and the column of a place in a text, both from one. -/
def lineAndColumn (text : List Char) (position : Nat) : Nat × Nat :=
  let before := text.take position
  (lineBreaks before + 1, (before.reverse.takeWhile (· ≠ '\n')).length + 1)

/-- The wording of a problem with a pattern: a broken rule names its place, with line and column if
the pattern has several lines. -/
def message (pattern : List Char) : Problem → String
  | .invalid rule none => rule
  | .invalid rule (some position) =>
    let place := s!"{rule} at position {position}"
    if pattern.contains '\n' then
      let (line, column) := lineAndColumn pattern position
      s!"{place} (line {line}, column {column})"
    else place
  | .overflow message => message
  | .senseless message => message
  | .unusable message => message

/-- Whether the pattern breaks a rule of patterns, as opposed to having an absurd number. -/
def isInvalid : Problem → Bool
  | .invalid _ _ => true
  | _ => false

end Problem

/-! ## Tokens -/

/-- A token of a pattern with its place. -/
structure Token where
  /-- Where it starts. -/
  position : Nat
  /-- Its first character. -/
  first : Char
  /-- The character after a backslash. -/
  second : Option Char
  deriving DecidableEq, Repr, Inhabited

namespace Token

/-- The characters of a token. -/
def chars (token : Token) : List Char :=
  match token.second with
  | none => [token.first]
  | some second => [token.first, second]

/-- Whether a token is one given character. -/
def isChar (token : Token) (c : Char) : Bool := token.second.isNone && token.first == c

/-- Whether a token is one of some characters. -/
def isAmong (token : Token) (chars : List Char) : Bool :=
  token.second.isNone && chars.contains token.first

/-- The number of characters of a token. -/
def size (token : Token) : Nat := if token.second.isNone then 1 else 2

end Token

/-- The tokens of a pattern from a place on, and whether it ends in a lone backslash. -/
def tokensFrom (position : Nat) : List Char → List Token × Bool
  | [] => ([], false)
  | '\\' :: c :: rest =>
    let (tokens, dangling) := tokensFrom (position + 2) rest
    (⟨position, '\\', some c⟩ :: tokens, dangling)
  | ['\\'] => ([], true)
  | c :: rest =>
    let (tokens, dangling) := tokensFrom (position + 1) rest
    (⟨position, c, none⟩ :: tokens, dangling)

end NegativeCompile.Regex

import NegativeCompile.Text.Blank

/-! # Rows of character names

The names of characters with consecutive codes. Neighbours share their first words, so each name
tells only how many of them it shares and which words follow. -/

namespace NegativeCompile.Text

/-- The names of characters in a row, separated by semicolons; a character without a name has the
empty one. A name is given by a digit, the number of words that it shares with the name before, and
the other words. -/
structure NamedRow where
  /-- The code of the first character. -/
  first : Nat
  /-- The names, in pieces. -/
  pieces : List String

namespace NamedRow

/-- The words of a name, given those of the name before. -/
def wordsAfter (before : List (List Char)) : List Char → List (List Char)
  | [] => []
  | digit :: rest => before.take (digit.toNat - 48) ++ splitAtChar ' ' rest

/-- The code of the character whose name consists of some words, `code` being that of the first of
several names and `before` the words of the name before. -/
def codeFrom? (words before : List (List Char)) (code : Nat) : List (List Char) → Option Nat
  | [] => none
  | [] :: rest => codeFrom? words before (code + 1) rest
  | name :: rest =>
    let found := wordsAfter before name
    if found = words then some code else codeFrom? words found (code + 1) rest

/-- The code of the character in a row whose name consists of some words. -/
def code? (row : NamedRow) (words : List (List Char)) : Option Nat :=
  codeFrom? words [] row.first (splitAtChar ';' (String.join row.pieces).toList)

end NamedRow

end NegativeCompile.Text

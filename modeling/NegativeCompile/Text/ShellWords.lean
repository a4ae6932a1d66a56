/-! # Shell words

Splitting a text into words as a shell does: at blanks, except inside quotes and after a
backslash. -/

namespace NegativeCompile.Text.ShellWords

/-- Why a text cannot be split. -/
inductive Problem where
  /-- A quote is not closed. -/
  | unclosedQuote
  /-- A backslash is the last character. -/
  | danglingEscape
  deriving DecidableEq, Repr

/-- The wording of a problem. -/
def Problem.message : Problem → String
  | .unclosedQuote => "No closing quotation"
  | .danglingEscape => "No escaped character"

/-- Where in a word a character stands. -/
inductive Position where
  /-- Outside quotes. -/
  | plain
  /-- Between quotes. -/
  | quoted (quote : Char)
  /-- After a backslash, outside quotes. -/
  | escaped
  /-- After a backslash, between double quotes. -/
  | escapedInQuotes
  deriving DecidableEq, Repr

/-- Whether a character separates words. -/
def isSeparator (c : Char) : Bool := c = ' ' || c = '\t' || c = '\r' || c = '\n'

/-- Whether a character is a quote. -/
def isQuote (c : Char) : Bool := c = '\'' || c = '"'

/-- Split from a position on; `word` holds the current word, last character first, if one has been
begun. -/
def splitFrom (position : Position) (word : Option (List Char)) :
    List Char → Except Problem (List String)
  | [] =>
    match position with
    | .plain => .ok (word.map fun chars => String.ofList chars.reverse).toList
    | .quoted _ => .error .unclosedQuote
    | .escaped => .error .danglingEscape
    | .escapedInQuotes => .error .danglingEscape
  | c :: rest =>
    let begun := word.getD []
    match position with
    | .plain =>
      if isSeparator c then
        match word with
        | none => splitFrom .plain none rest
        | some chars =>
          (splitFrom .plain none rest).map (String.ofList chars.reverse :: ·)
      else if isQuote c then splitFrom (.quoted c) (some begun) rest
      else if c = '\\' then splitFrom .escaped (some begun) rest
      else splitFrom .plain (some (c :: begun)) rest
    | .quoted quote =>
      if c = quote then splitFrom .plain (some begun) rest
      else if c = '\\' && quote = '"' then splitFrom .escapedInQuotes (some begun) rest
      else splitFrom position (some (c :: begun)) rest
    | .escaped => splitFrom .plain (some (c :: begun)) rest
    | .escapedInQuotes =>
      let kept := if c = '\\' || c = '"' then begun else '\\' :: begun
      splitFrom (.quoted '"') (some (c :: kept)) rest

/-- The words of a text. -/
def split (text : String) : Except Problem (List String) := splitFrom .plain none text.toList

end NegativeCompile.Text.ShellWords

import NegativeCompile.Datum.Written
import NegativeCompile.Dialect
import NegativeCompile.Text.Alphanumeric

/-! # Guarded fragments

Fragments whose cases are branches of preprocessor conditionals. A branch starts with a line that
tests whether the symbol of the case is defined and lists, in a comment, the patterns that the
compiler's output must match. A case may be disabled by the name of its symbol. -/

namespace NegativeCompile.Guarded

open Files Text

/-- What the name of a case starts with. -/
def casePrefix : String := "NCTEST_"

/-- What the symbol of a disabled case starts with. -/
def disabledPrefix : String := "DISABLED_"

/-! ## Lines -/

/-- Whether a word is the symbol of a case: there must be more than the fixed parts. -/
def isSymbol (word : List Char) : Bool :=
  let body :=
    if startsWith disabledPrefix.toList word then word.drop disabledPrefix.length else word
  startsWith casePrefix.toList body && casePrefix.length < body.length

/-- The word of a directive and what follows it: blanks, a hash sign, blanks and a word. -/
def directive? (text : List Char) : Option (List Char × List Char) :=
  match trimLeft text with
  | '#' :: rest =>
    let body := trimLeft rest
    some (body.takeWhile isWordChar, body.dropWhile isWordChar)
  | _ => none

/-- A line that tests the symbol of a case, up to the closing parenthesis. -/
structure Head where
  /-- Whether it continues a conditional. -/
  isElif : Bool
  /-- The symbol. -/
  symbol : List Char
  deriving DecidableEq, Repr

/-- Read the test of a case's symbol from the start of a text, and what follows it. -/
def head? (text : List Char) : Option (Head × List Char) :=
  match directive? text with
  | none => none
  | some (word, afterWord) =>
    let isElif := word == "elif".toList
    let body := trimLeft afterWord
    if !(isElif || word == "if".toList) || body.length = afterWord.length then none
    else if !startsWith "defined".toList body then none
    else match trimLeft (body.drop 7) with
      | '(' :: rest =>
        let inside := trimLeft rest
        let symbol := inside.takeWhile isWordChar
        match trimLeft (inside.dropWhile isWordChar) with
        | ')' :: after => if isSymbol symbol then some (⟨isElif, symbol⟩, after) else none
        | _ => none
      | _ => none

/-- A line that opens a branch of a case. -/
structure Guard where
  /-- Whether it continues a conditional. -/
  isElif : Bool
  /-- The symbol. -/
  symbol : List Char
  /-- The comment after the test, if there is one. -/
  comment : Option (List Char)
  deriving DecidableEq, Repr

/-- Read a line that tests the symbol of a case and holds nothing else but a comment. -/
def guard? (line : List Char) : Option Guard :=
  match head? line with
  | none => none
  | some (head, after) =>
    match trimLeft after with
    | [] => some ⟨head.isElif, head.symbol, none⟩
    | '/' :: '/' :: comment => some ⟨head.isElif, head.symbol, some comment⟩
    | _ => none

/-- What a line means for the nesting of conditionals. -/
inductive Nesting where
  /-- It opens a conditional. -/
  | opening
  /-- It starts another branch. -/
  | branch
  /-- It closes a conditional. -/
  | closing
  /-- Nothing. -/
  | plain
  deriving DecidableEq, Repr

/-- What a line means for the nesting of conditionals. -/
def nesting (line : List Char) : Nesting :=
  match directive? line with
  | none => .plain
  | some (word, _) =>
    if [("if".toList), "ifdef".toList, "ifndef".toList].contains word then .opening
    else if word == "else".toList || word == "elif".toList then .branch
    else if word == "endif".toList then .closing
    else .plain

/-! ## Detection -/

/-- Whether the test of a case's symbol starts at the start of a line; only line feeds end lines
here, and blanks in the test may be line feeds. -/
def detectsFrom (atLineStart : Bool) : List Char → Bool
  | [] => false
  | c :: rest =>
    (atLineStart && (head? (c :: rest)).isSome) || detectsFrom (c == '\n') rest

/-- Whether a text is a guarded fragment. -/
def detects (text : String) : Bool := detectsFrom true text.toList

/-! ## Expectation lists -/

/-- The list literal that a comment holds between blanks. -/
def listLiteral? (comment : List Char) : Option (List Char) :=
  let body := trim comment
  match body, body.getLast? with
  | '[' :: _ :: _, some ']' => some body
  | _, _ => none

/-- The pattern that an entry of a list is. -/
def readPattern (path : Path) (line : Nat) (symbol : String) (entry : Datum) :
    Except Failure String :=
  match entry with
  | .text pattern =>
    match Regex.read pattern.toList with
    | .ok _ => .ok pattern
    | .error problem =>
      if problem.isInvalid then
        .error (.annotations path (some line)
          (s!"invalid regular expression {quotedString pattern} for '{symbol}': " ++
            problem.message pattern.toList))
      else .error (.ofPattern pattern.toList problem)
  | other =>
    match other.written? with
    | none => .error (.senseless longNumberMessage)
    | some shown =>
      .error (.annotations path (some line)
        s!"expectation entries for '{symbol}' must be strings, got {shown}")

/-- The patterns that the comment after a test lists. -/
def readPatterns (path : Path) (line : Nat) (symbol : String) (comment : Option (List Char)) :
    Except Failure (List String) :=
  let refuse (reason : String) : Except Failure (List String) :=
    .error (.annotations path (some line) reason)
  match comment with
  | none => refuse s!"guard '{symbol}' has no expectation comment (// [r\"regex\", ...])"
  | some text =>
    match listLiteral? text with
    | none =>
      refuse (s!"expectation for '{symbol}' must be a list literal, got " ++
        String.ofList (quoted (trim text)))
    | some literal =>
      match Literal.read literal with
      | .error .malformed => refuse s!"unparseable expectation list for '{symbol}': <detail>"
      | .error (.unhashable kind) => .error (.kind s!"unhashable type: '{kind}'")
      | .error .tooLarge => .error (.overflow "int too large to convert to float")
      | .ok (.list (first :: rest)) => (first :: rest).mapM (readPattern path line symbol)
      | .ok _ =>
        refuse s!"expectation for '{symbol}' must list at least one regular expression"

/-! ## Cases -/

/-- A case whose end has not been read yet. -/
structure OpenCase where
  /-- The symbol. -/
  symbol : String
  /-- The line of its test. -/
  start : Nat
  /-- The patterns. -/
  patterns : List String
  deriving DecidableEq, Repr

/-- Whether a symbol is that of a disabled case. -/
def isDisabled (symbol : String) : Bool := startsWith disabledPrefix.toList symbol.toList

/-- The name of the case of a symbol. -/
def caseName (symbol : String) : String :=
  if isDisabled symbol then String.ofList (symbol.toList.drop disabledPrefix.length) else symbol

/-- The case that ends at a line. -/
def OpenCase.finish (opened : OpenCase) (last : Nat) : TestCase :=
  let name := caseName opened.symbol
  { name := name
    span := ⟨opened.start, max opened.start last⟩
    expectations := opened.patterns.map fun pattern => ⟨name, pattern, true, none, .error⟩
    enabled := !isDisabled opened.symbol
    guard := some name }

/-- How far a fragment has been read. -/
structure Progress where
  /-- How many conditionals inside the current branch are open. -/
  depth : Nat
  /-- Whether a chain of branches of cases is open. -/
  inChain : Bool
  /-- The case whose branch is open. -/
  current : Option OpenCase
  /-- The cases read, the last one first. -/
  cases : List TestCase
  deriving Repr

namespace Progress

/-- The start of a fragment. -/
def start : Progress := ⟨0, false, none, []⟩

/-- End the branch of the current case. -/
def close (progress : Progress) (last : Nat) : Progress :=
  match progress.current with
  | none => progress
  | some opened =>
    { progress with current := none, cases := opened.finish last :: progress.cases }

/-- Read a line that opens a branch of a case. -/
def openBranch (progress : Progress) (path : Path) (line : Nat) (guard : Guard) :
    Except Failure Progress := do
  let symbol := String.ofList guard.symbol
  if guard.isElif && !progress.inChain then
    throw (.annotations path (some line)
      s!"'#elif defined({symbol})' outside of a test case chain")
  let patterns ← readPatterns path line symbol guard.comment
  return { progress.close (line - 1) with
    inChain := true, current := some ⟨symbol, line, patterns⟩ }

/-- Read a line that opens no branch of a case. -/
def pass (progress : Progress) (line : Nat) : Nesting → Progress
  | .opening => { progress with depth := progress.depth + 1 }
  | .branch =>
    if progress.depth = 0 && progress.inChain then progress.close (line - 1) else progress
  | .closing =>
    if 0 < progress.depth then { progress with depth := progress.depth - 1 }
    else if progress.inChain then { progress.close (line - 1) with inChain := false }
    else progress
  | .plain => progress

/-- Read one line. Tests of symbols count only outside of other conditionals. -/
def step (progress : Progress) (path : Path) (number : Nat) (line : List Char) :
    Except Failure Progress :=
  match (if progress.depth = 0 then guard? line else none) with
  | some guard => progress.openBranch path number guard
  | none => .ok (progress.pass number (nesting line))

end Progress

/-- Read lines from a number on. -/
def readLines (path : Path) (number : Nat) (progress : Progress) :
    List (List Char) → Except Failure Progress
  | [] => .ok progress
  | line :: rest => do
    readLines path (number + 1) (← progress.step path number line) rest

/-- The cases of a guarded fragment. -/
def parse (path : Path) (text : String) : Except Failure (List TestCase) := do
  let progress ← readLines path 1 .start (lines text.toList)
  match progress.current with
  | some opened =>
    throw (.annotations path (some opened.start)
      s!"guard '{opened.symbol}' is never closed with #endif")
  | none => return progress.cases.reverse

/-- The dialect of guarded fragments. -/
def dialect : Dialect where
  name := "guarded"
  priority := 100
  detects := fun text => .ok (detects text)
  parse := parse

end NegativeCompile.Guarded

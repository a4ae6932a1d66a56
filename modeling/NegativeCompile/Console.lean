import NegativeCompile.Text.Blank
import NegativeCompile.Text.Integer
import NegativeCompile.Text.Hex

/-! # Consoles

The two streams that a program prints on. Where a stream is no terminal, codes for colours and
window titles are taken out of what is printed. -/

namespace NegativeCompile

open Text

/-- What a program has printed, and how its streams treat codes. -/
structure Console where
  /-- Whether the output stream is a terminal. -/
  isTerminal : Bool
  /-- Whether streams that are no terminals also take out titles and marked codes. -/
  isFiltered : Bool
  /-- What was printed on the output stream. -/
  output : String
  /-- What was printed on the error stream. -/
  errors : String
  deriving DecidableEq, Repr, Inhabited

namespace Console

/-- The console on which nothing has been printed. -/
def blank (isTerminal : Bool) : Console := ⟨isTerminal, false, "", ""⟩

/-! ## Codes -/

/-- The character that starts a code. -/
def escape : Char := '\x1b'

/-- What follows a code of parameters and a letter, after its opening. -/
def afterCode? (isParameter : Char → Bool) (text : List Char) : Option (List Char) :=
  match text.dropWhile isParameter with
  | c :: rest => if isAsciiLetter c then some rest else none
  | [] => none

/-- Whether a character can be a parameter of a plain code. -/
def isParameter (c : Char) : Bool := isAsciiDigit c || c = ';' || c = '?'

/-- Whether a character can be a parameter of a marked code. -/
def isMarkedParameter (c : Char) : Bool := isDigit c || c = ';'

/-- A text after one character, if it starts with that. -/
def after? (first : Char) : List Char → Option (List Char)
  | c :: rest => if c = first then some rest else none
  | [] => none

/-- A text after one character that may be missing. -/
def afterOptional (first : Char) (text : List Char) : List Char := (after? first text).getD text

/-- What follows a plain code at the start of a text. -/
def afterPlainCode? (text : List Char) : Option (List Char) := do
  let opened ← after? '[' (← after? escape text)
  afterCode? isParameter opened

/-- What follows a code at the start of a text that may stand between markers. -/
def afterMarkedCode? (text : List Char) : Option (List Char) := do
  let opened ← after? '[' (← after? escape (afterOptional '\x01' text))
  let rest ← afterCode? isMarkedParameter opened
  return afterOptional '\x02' rest

/-- A title: where it starts and ends in a text, and its parameters. -/
structure Title where
  /-- The index of its first character. -/
  start : Nat
  /-- The index of the first character after it. -/
  finish : Nat
  /-- Its parameters. -/
  parameters : List Char
  deriving DecidableEq, Repr

/-- The title at the start of a text, which may stand between markers, and what follows it. -/
def titleAt? (start : Nat) (text : List Char) : Option (Title × List Char) := do
  let opened ← after? ']' (← after? escape (afterOptional '\x01' text))
  let parameters := opened.takeWhile (· ≠ '\x07')
  let rest := afterOptional '\x02' (← after? '\x07' (opened.drop parameters.length))
  return (⟨start, start + (text.length - rest.length), parameters⟩, rest)

/-- The titles in a text that starts at an index; `fuel` bounds the length of the text. -/
def titlesFrom (start : Nat) : Nat → List Char → List Title
  | 0, _ => []
  | _ + 1, [] => []
  | fuel + 1, c :: rest =>
    match titleAt? start (c :: rest) with
    | some (title, others) => title :: titlesFrom title.finish fuel others
    | none => titlesFrom (start + 1) fuel rest

/-- Whether a title names the window, by one parameter before its text: none, zero or two. -/
def Title.namesWindow (title : Title) : Bool :=
  title.parameters.count ';' = 1 &&
    [[], ['0'], ['2'], ['0', '2']].contains (title.parameters.takeWhile (· ≠ ';'))

/-- A text without its titles, unless one of them names the window. Each title is cut at the place
where it was before the others were cut. -/
def withoutTitles? (text : List Char) : Option (List Char) :=
  let titles := titlesFrom 0 text.length text
  if titles.any (·.namesWindow) then none
  else some (titles.foldl (fun left title => left.take title.start ++ left.drop title.finish) text)

/-- A text without the pieces that a test finds; `fuel` bounds the length of the text. -/
def withoutFrom (after : List Char → Option (List Char)) : Nat → List Char → List Char
  | 0, text => text
  | _ + 1, [] => []
  | fuel + 1, c :: rest =>
    match after (c :: rest) with
    | some others => withoutFrom after fuel others
    | none => c :: withoutFrom after fuel rest

/-- A text without the pieces that a test finds. -/
def without (after : List Char → Option (List Char)) (text : List Char) : List Char :=
  withoutFrom after text.length text

/-! ## Printing -/

/-- A text without titles and marked codes, if they are to be taken out; there is none if a window
is to be named. -/
def filtered? (console : Console) (text : List Char) : Option (List Char) :=
  if console.isFiltered then (withoutTitles? text).map (without afterMarkedCode?) else some text

/-- What a stream makes of a text, depending on whether it is a terminal. -/
def shown? (console : Console) (isTerminal : Bool) (text : String) : Option String :=
  if isTerminal then some text
  else (console.filtered? (without afterPlainCode? text.toList)).map String.ofList

/-- Print a line on the output stream; this is not possible if a window is to be named. -/
def print? (line : String) (console : Console) : Option Console :=
  (console.shown? console.isTerminal (line ++ "\n")).map fun text =>
    { console with output := console.output ++ text }

/-- Print a line on the error stream, which is no terminal; this is not possible if a window is to
be named. -/
def printError? (line : String) (console : Console) : Option Console :=
  (console.shown? false (line ++ "\n")).map fun text =>
    { console with errors := console.errors ++ text }

/-- Print a line on the error stream, its plain codes being left in it. -/
def printRecord (line : String) (console : Console) : Console :=
  { console with
    errors := console.errors ++
      String.ofList ((console.filtered? (line ++ "\n").toList).getD []) }

/-- Print a line on the error stream as it is. -/
def printPlain (line : String) (console : Console) : Console :=
  { console with errors := console.errors ++ line ++ "\n" }

end Console

end NegativeCompile

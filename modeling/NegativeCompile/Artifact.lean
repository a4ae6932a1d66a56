import NegativeCompile.Outcome
import NegativeCompile.Text.Hex
import NegativeCompile.Version

/-! # Generated tests

The source file that stands for a fragment in a test program: for a fragment that passed one empty
test per case, otherwise error directives that break the build and say why. -/

namespace NegativeCompile.Artifact

open Files Text

/-! ## Suites -/

/-- Whether a character is an ASCII letter or digit. -/
def isPlain (c : Char) : Bool := isAsciiLetter c || isAsciiDigit c

/-- The runs of ASCII letters and digits in a text; `word` holds the current run, last first. -/
def plainWordsFrom (word : List Char) : List Char → List (List Char)
  | [] => if word.isEmpty then [] else [word.reverse]
  | c :: rest =>
    if isPlain c then plainWordsFrom (c :: word) rest
    else if word.isEmpty then plainWordsFrom [] rest
    else word.reverse :: plainWordsFrom [] rest

/-- The runs of ASCII letters and digits in a text. -/
def plainWords (text : List Char) : List (List Char) := plainWordsFrom [] text

/-- A word with its first letter in upper case. -/
def capitalize : List Char → List Char
  | [] => []
  | c :: rest => c.toUpper :: rest

/-- A key without the suffix of the file it names. -/
def stemOf (key : String) : String :=
  let suffix := (Path.ofString key).suffix
  if suffix.isEmpty then key else String.ofList (key.toList.take (key.length - suffix.length))

/-- The suite of a fragment: the words of its key without the suffix, or a name that is given. -/
def suiteName (key : String) (override : Option String) : String :=
  match override with
  | some name => if name.isEmpty then ofKey else name
  | none => ofKey
where
  /-- The suite of a key. -/
  ofKey : String :=
    let joined := ((plainWords (stemOf key).toList).map capitalize).flatten
    let name := if joined.isEmpty then "Fragment".toList else joined
    let start := if name.head?.any isAsciiDigit then "Nc".toList else []
    String.ofList (start ++ name ++ "NoCompileTest".toList)

/-! ## Lines -/

/-- A character as it stands in a string literal. -/
def literalChar (c : Char) : List Char :=
  if c = '\\' || c = '"' then ['\\', c]
  else if 32 ≤ c.toNat && c.toNat < 127 then [c]
  else ['?']

/-- A text as a string literal on one line: its words with single blanks between them. -/
def stringLiteral (text : String) : String :=
  let body := [' '].intercalate (words text.toList)
  String.ofList ('"' :: body.flatMap literalChar ++ ['"'])

/-- A directive that breaks the build with a message. -/
def errorLine (message : String) : String := "#error " ++ stringLiteral message

/-- A line of output inside a comment: it must not end in a backslash. -/
def commentLine (line : List Char) : String :=
  let body := ((trimRight line).reverse.dropWhile (· = '\\')).reverse
  String.ofList (trimRight ("//   ".toList ++ body))

/-- A comment with a title and the lines of a text. -/
def commentBlock (title text : String) : List String :=
  ("// " ++ title) :: (lines text.toList).map commentLine

/-- The test of a case that passed or was skipped. -/
def testLine (suite : String) (result : CaseResult) : String :=
  let name := if result.skipped then "DISABLED_" ++ result.testCase.name else result.testCase.name
  "TEST(" ++ suite ++ ", " ++ name ++ ") \x7b\x7d"

/-- The lines for failed cases; `shown` holds the compiler runs whose output has been shown. -/
def failureLines (name : String) (shown : List Nat) : List CaseResult → List String
  | [] => []
  | result :: rest =>
    if !result.failed then failureLines name shown rest
    else
      let message := s!"{name}: {result.testCase.name} [{result.status.name}]: {result.reason}"
      match result.compilation with
      | none => errorLine message :: failureLines name shown rest
      | some compilation =>
        if shown.contains compilation.serial then
          errorLine message :: failureLines name shown rest
        else
          errorLine message ::
            (commentBlock s!"compiler output for {result.testCase.name}:"
                compilation.output.output ++
              failureLines name (compilation.serial :: shown) rest)

/-- The lines that every generated file starts with. -/
def bannerLines (result : FragmentResult) : List String :=
  [s!"// Generated by {programName} {version} from {result.path}.", "// Do not edit.", ""]

/-- The lines that include a header, if there is one. -/
def includeLines (header : String) : List String :=
  if header.isEmpty then [] else ["#include \"" ++ header ++ "\"", ""]

/-- The lines of the file generated for a fragment. -/
def renderLines (result : FragmentResult) (header : String) (suite : Option String) :
    List String :=
  if result.passed then
    bannerLines result ++ includeLines header ++
      result.cases.map (testLine (suiteName result.key suite))
  else
    let errorLines := match result.error with
      | some message => [errorLine s!"{result.name}: {message}"]
      | none => []
    bannerLines result ++ errorLines ++ failureLines result.name [] result.cases

/-- The text of some lines, each of which is ended. -/
def ofLines (lines : List String) : String := "\n".intercalate lines ++ "\n"

/-- The file generated for a fragment. -/
def render (result : FragmentResult) (header : String) (suite : Option String) : String :=
  ofLines (renderLines result header suite)

end NegativeCompile.Artifact

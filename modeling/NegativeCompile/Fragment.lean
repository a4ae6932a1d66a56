import NegativeCompile.Diagnostic
import NegativeCompile.Failure
import NegativeCompile.Regex.Search
import NegativeCompile.Text.Quoted

/-! # Fragments

Source fragments and the test cases that they declare. -/

namespace NegativeCompile

open Files Text

/-! ## Expectations

What a test case expects a compiler to say: a text or a pattern, a severity, and possibly the line
it has to be about. -/

/-- A message that a test case expects. -/
structure Expectation where
  /-- The name of the case. -/
  caseName : String
  /-- The text that a message has to hold, or the pattern that has to match in it. -/
  text : String
  /-- Whether the text is a pattern. -/
  isRegex : Bool
  /-- The line that a message has to be about, if it matters. -/
  line : Option Int
  /-- The severity that a message has to have. -/
  severity : Severity
  deriving DecidableEq, Repr, Inhabited

namespace Expectation

/-- The failure of a search that finds a group which ends before it starts. -/
def crossedGroup : Failure :=
  .fault "The span of capturing group is wrong, please report a bug for the re module."

/-- Whether a text is what is expected; a pattern that is none fails. -/
def matchesText (expectation : Expectation) (message : String) : Except Failure Bool :=
  if expectation.isRegex then
    match Regex.read expectation.text.toList with
    | .ok pattern =>
      match pattern.findIn message.toList with
      | .absent => .ok false
      | .present => .ok true
      | .crossed => .error crossedGroup
    | .error problem => .error (.ofPattern expectation.text.toList problem)
  else .ok (containsString message expectation.text)

/-- Whether a diagnostic is about the expected line, if it matters. -/
def acceptsLine (expectation : Expectation) (diagnostic : Diagnostic) : Bool :=
  match expectation.line with
  | none => true
  | some line => (diagnostic.line : Int) == line

/-- Whether a diagnostic is what is expected: by line, by severity and by text. -/
def accepts (expectation : Expectation) (diagnostic : Diagnostic) : Except Failure Bool :=
  if !expectation.acceptsLine diagnostic then .ok false
  else if diagnostic.severity ≠ expectation.severity then .ok false
  else expectation.matchesText diagnostic.message

/-- How an expectation is shown. -/
def describe (expectation : Expectation) : String :=
  let kind := if expectation.isRegex then "regex" else "text"
  let place := match expectation.line with
    | some line => s!" at line {line}"
    | none => ""
  s!"{expectation.severity.name} {kind} {quotedString expectation.text}{place}"

end Expectation

/-! ## Fragments with their cases -/

/-- A range of lines, both ends included. -/
structure Span where
  /-- The first line. -/
  first : Int
  /-- The last line. -/
  last : Int
  deriving DecidableEq, Repr, Inhabited

/-- Whether a line lies in a span. -/
def Span.contains (span : Span) (line : Int) : Bool := span.first ≤ line && line ≤ span.last

/-- A test case: code that must not compile, and what the compiler must say about it. -/
structure TestCase where
  /-- The name, unique in its fragment. -/
  name : String
  /-- The lines it covers. -/
  span : Span
  /-- What the compiler must say. -/
  expectations : List Expectation
  /-- Whether it is compiled at all. -/
  enabled : Bool
  /-- The symbol to define when compiling it alone, if it is compiled alone. -/
  guard : Option String
  deriving DecidableEq, Repr, Inhabited

/-- A source fragment with its test cases. -/
structure Fragment where
  /-- Where it is. -/
  path : Path
  /-- The source text. -/
  text : String
  /-- The name of the dialect of its annotations. -/
  dialect : String
  /-- The test cases in source order. -/
  cases : List TestCase
  deriving DecidableEq, Repr, Inhabited

namespace Fragment

/-- The name of the file. -/
def name (fragment : Fragment) : String := fragment.path.name

/-- The cases that are compiled. -/
def enabledCases (fragment : Fragment) : List TestCase := fragment.cases.filter (·.enabled)

/-- The cases that are not compiled. -/
def disabledCases (fragment : Fragment) : List TestCase := fragment.cases.filter (!·.enabled)

/-- Whether the cases are compiled one by one: some case has a symbol to define. -/
def isGuarded (fragment : Fragment) : Bool :=
  fragment.cases.any fun testCase => testCase.guard.any (· != "")

end Fragment

end NegativeCompile

import NegativeCompile.Dialect

/-! # Fragments with a header of patterns

Fragments that start with comment lines, each giving a pattern that some error of the compiler must
match. The header may hold blank lines and ends at the first other line. -/

namespace NegativeCompile.Header

open Files Text

/-- The pattern that a line of a header gives. -/
def pattern? (line : List Char) : Option (List Char) :=
  match trimLeft line with
  | '/' :: '/' :: rest =>
    let body := trimLeft rest
    let word := "NOCOMPILE:".toList
    if startsWith word body then some (trim (body.drop word.length)) else none
  | _ => none

/-- Whether the first line that is not blank gives a pattern. -/
def detects (text : String) : Bool :=
  match (lines text.toList).find? (!isBlankLine ·) with
  | some line => (pattern? line).isSome
  | none => false

/-- The case of a pattern, when there are `earlier` cases before it. -/
def caseOf (line earlier : Nat) (pattern : List Char) : TestCase :=
  let name := s!"expect_{earlier + 1}"
  { name := name
    span := ⟨line, line⟩
    expectations := [⟨name, String.ofList pattern, true, none, .error⟩]
    enabled := true
    guard := none }

/-- The cases of a header from a line on, when there are `earlier` cases before. -/
def readLines (path : Path) (number earlier : Nat) :
    List (List Char) → Except Failure (List TestCase)
  | [] => .ok []
  | line :: rest =>
    match pattern? line with
    | none => if isBlankLine line then readLines path (number + 1) earlier rest else .ok []
    | some pattern =>
      match Regex.read pattern with
      | .ok _ => do
        let cases ← readLines path (number + 1) (earlier + 1) rest
        return caseOf number earlier pattern :: cases
      | .error problem =>
        if problem.isInvalid then
          .error (.annotations path (some number)
            s!"invalid regular expression {String.ofList (quoted pattern)}")
        else .error (.ofPattern pattern problem)

/-- The cases of a fragment with a header. -/
def parse (path : Path) (text : String) : Except Failure (List TestCase) :=
  readLines path 1 0 (lines text.toList)

/-- The dialect of headers. -/
def dialect : Dialect where
  name := "header"
  priority := 50
  detects := fun text => .ok (detects text)
  parse := parse

end NegativeCompile.Header

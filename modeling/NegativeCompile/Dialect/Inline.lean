import NegativeCompile.Dialect
import NegativeCompile.Text.Alphanumeric

/-! # Fragments with inline markers

Fragments whose comments hold markers, each naming a severity and a message that the compiler must
give for the line of the marker or for a line counted from it. Every marker is a case of its own,
and the fragment is compiled once. -/

namespace NegativeCompile.Inline

open Files Text

/-! ## Markers -/

/-- What every marker starts with. -/
def markerStart : List Char := "expected-".toList

/-- The severity at the start of a text and what follows it. -/
def takeSeverity? (text : List Char) : Option (Severity × List Char) :=
  Severity.all.findSome? fun severity =>
    let word := severity.name.toList
    if startsWith word text then some (severity, text.drop word.length) else none

/-- The severity of the marker that starts a text, and what follows it: no letter may. -/
def markerHead? (text : List Char) : Option (Severity × List Char) :=
  if startsWith markerStart text then
    match takeSeverity? (text.drop markerStart.length) with
    | some (severity, rest) => if rest.head?.any isWordChar then none else some (severity, rest)
    | none => none
  else none

/-- A marker. -/
structure Marker where
  /-- The severity. -/
  severity : Severity
  /-- Whether the message is a pattern. -/
  isRegex : Bool
  /-- The line as the marker gives it, if it does. -/
  offset : Option (List Char)
  /-- The text between the braces. -/
  message : List Char
  deriving DecidableEq, Repr

/-- Take the line that a marker gives, if it does: a number with or without sign. -/
def takeOffset (text : List Char) : Option (List Char) × List Char :=
  match text with
  | '@' :: rest =>
    let (sign, body) := match rest with
      | '+' :: after => (['+'], after)
      | '-' :: after => (['-'], after)
      | _ => ([], rest)
    let digits := body.takeWhile isDigit
    if digits.isEmpty then (none, text) else (some (sign ++ digits), body.dropWhile isDigit)
  | _ => (none, text)

/-- The text up to two closing braces. -/
def untilBraces? : List Char → Option (List Char)
  | [] => none
  | '}' :: '}' :: _ => some []
  | c :: rest => (untilBraces? rest).map (c :: ·)

/-- Read the rest of a marker after its severity. -/
def readMarker (severity : Severity) (text : List Char) : Option Marker :=
  let isRegex := startsWith "-re".toList text
  let (offset, afterOffset) := takeOffset (if isRegex then text.drop 3 else text)
  match trimLeft afterOffset with
  | '{' :: '{' :: rest => (untilBraces? rest).map (⟨severity, isRegex, offset, ·⟩)
  | _ => none

/-- The places where markers start in a text: for each what is read of it, if it is well formed,
and the text from it on. -/
def markersIn : List Char → List (Option Marker × List Char)
  | [] => []
  | c :: rest =>
    match markerHead? (c :: rest) with
    | some (severity, after) => (readMarker severity after, c :: rest) :: markersIn rest
    | none => markersIn rest

/-- A line from its first comment on. -/
def commentOf : List Char → List Char
  | [] => []
  | '/' :: '/' :: rest => '/' :: '/' :: rest
  | '/' :: '*' :: rest => '/' :: '*' :: rest
  | _ :: rest => commentOf rest

/-! ## Cases -/

/-- The line that a marker is about, as it is given. -/
def targetOf (line : Nat) (offset : List Char) : Except IntegerProblem Int :=
  let (negative, digits) := takeSign offset
  (naturalOfDigits digits).map fun (distance : Nat) =>
    if digits.length = offset.length then (distance : Int)
    else (line : Int) + signed negative distance

/-- The line that a marker is about, which must be a line of the fragment. -/
def readTarget (path : Path) (line total : Nat) (offset : Option (List Char)) :
    Except Failure Nat :=
  match offset with
  | none => .ok line
  | some text =>
    match targetOf line text with
    | .error problem => .error (.ofInteger text problem)
    | .ok target =>
      if target < 1 || (total : Int) < target then
        .error (.annotations path (some line)
          s!"marker offset @{String.ofList text} points outside the fragment")
      else .ok target.toNat

/-- The name of the case that is about a line, when `earlier` cases are; a number in it may be too
long to be shown. -/
def caseName (target earlier : Nat) : Except Failure String :=
  if isLong target || isLong (earlier + 1) then .error (.senseless longNumberMessage)
  else .ok (if earlier = 0 then s!"line_{target}" else s!"line_{target}_{earlier + 1}")

/-- How many of some cases are about a line. -/
def countAbout (target : Nat) (cases : List TestCase) : Nat :=
  cases.countP (·.span.first = (target : Int))

/-- Refuse a text that is no pattern. -/
def checkPattern (path : Path) (line : Nat) (pattern : List Char) : Except Failure Unit :=
  match Regex.read pattern with
  | .ok _ => .ok ()
  | .error problem =>
    if problem.isInvalid then
      .error (.annotations path (some line)
        (s!"invalid regular expression {String.ofList (quoted pattern)}: " ++
          problem.message pattern))
    else .error (.ofPattern pattern problem)

/-- The case of a marker, when `cases` are those before it. -/
def readCase (path : Path) (line total : Nat) (cases : List TestCase) (marker : Marker) :
    Except Failure TestCase := do
  let target ← readTarget path line total marker.offset
  let message := trim marker.message
  if message.isEmpty then
    throw (.annotations path (some line) "marker has an empty message")
  if marker.isRegex then checkPattern path line message
  let name ← caseName target (countAbout target cases)
  return {
    name := name
    span := ⟨target, target⟩
    expectations :=
      [⟨name, String.ofList message, marker.isRegex, some target, marker.severity⟩]
    enabled := true
    guard := none }

/-- Add the cases of markers on one line to those before them. -/
def readMarkers (path : Path) (line total : Nat) (cases : List TestCase) :
    List (Option Marker × List Char) → Except Failure (List TestCase)
  | [] => .ok cases
  | (none, text) :: _ =>
    .error (.annotations path (some line)
      s!"malformed marker near {String.ofList (quoted (trim text))}")
  | (some marker, _) :: rest => do
    let testCase ← readCase path line total cases marker
    readMarkers path line total (cases ++ [testCase]) rest

/-- Add the cases of lines from a number on to those before them. -/
def readLines (path : Path) (total number : Nat) (cases : List TestCase) :
    List (List Char) → Except Failure (List TestCase)
  | [] => .ok cases
  | line :: rest => do
    let more ← readMarkers path number total cases (markersIn (commentOf line))
    readLines path total (number + 1) more rest

/-- The cases of a fragment with inline markers. -/
def parse (path : Path) (text : String) : Except Failure (List TestCase) :=
  let found := lines text.toList
  readLines path found.length 1 [] found

/-- The dialect of inline markers, which takes every fragment. -/
def dialect : Dialect where
  name := "inline"
  priority := 0
  detects := fun _ => .ok true
  parse := parse

end NegativeCompile.Inline

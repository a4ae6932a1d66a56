import NegativeCompile.Json.Writer
import NegativeCompile.Outcome
import NegativeCompile.Report.Terminal
import NegativeCompile.Schema

/-! # Reports as documents

The document that gives all results of a run, and the schema that it follows. -/

namespace NegativeCompile.Report

open Number

/-! ## Documents -/

/-- The version of the schema of reports. -/
def schemaVersion : String := "1.0.0"

/-- A text that may be missing. -/
def optionalString (text : Option String) : Json :=
  match text with
  | some value => .string value
  | none => .null

/-- A number that may be missing. -/
def optionalInteger (number : Option Int) : Json :=
  match number with
  | some value => .integer value
  | none => .null

/-- The document of an expectation. -/
def ofExpectation (expectation : Expectation) : Json :=
  .object [("text", .string expectation.text), ("regex", .boolean expectation.isRegex),
    ("severity", .string expectation.severity.name),
    ("line", optionalInteger expectation.line)]

/-- The members that tell why a case did not pass. -/
def reasonMembers (result : CaseResult) : List (String × Json) :=
  if result.reason.isEmpty then [] else [("reason", .string result.reason)]

/-- The members that list unexpected errors. -/
def unexpectedMembers (result : CaseResult) : List (String × Json) :=
  match result.verdict with
  | none => []
  | some verdict =>
    if verdict.unexpected.isEmpty then []
    else [("unexpected", .array (verdict.unexpected.map fun diagnostic =>
      .string diagnostic.render))]

/-- The members that show what the compiler did for a failed case. -/
def outputMembers (result : CaseResult) : List (String × Json) :=
  match result.compilation with
  | none => []
  | some compilation =>
    if result.failed then
      [("exit_code", optionalInteger compilation.output.returnCode),
        ("output", .string compilation.output.output)]
    else []

/-- The document of a case. -/
def ofCase (result : CaseResult) : Json :=
  let testCase := result.testCase
  .object ([("name", .string testCase.name), ("status", .string result.status.name),
      ("duration_ms", result.duration.milliseconds.toJson),
      ("start_line", .integer testCase.span.first), ("end_line", .integer testCase.span.last),
      ("expected", .array (testCase.expectations.map ofExpectation))] ++
    reasonMembers result ++ unexpectedMembers result ++ outputMembers result)

/-- The document of a fragment. -/
def ofFragment (result : FragmentResult) : Json :=
  .object ([("path", .string result.path.toString), ("key", .string result.key),
      ("dialect", optionalString (result.fragment.map (·.dialect))),
      ("passed", .boolean result.passed),
      ("artifact", optionalString (result.artifact.map (·.toString))),
      ("cases", .array (result.cases.map ofCase))] ++
    match result.error with
    | some message => [("error", .string message)]
    | none => [])

/-- The document that sums up a run. -/
def summaryOf (run : RunResult) : Json :=
  let counts := run.counts
  .object [("fragments", .integer run.fragments.length), ("total", .integer counts.total),
    ("passed", .integer counts.passed), ("failed", .integer counts.failed),
    ("skipped", .integer counts.skipped), ("errors", .integer run.errors),
    ("duration_s", run.duration.toJson)]

/-- The document of a run, written at some time. -/
def ofRun (now : String) (run : RunResult) : Json :=
  .object [("schema_version", .string schemaVersion), ("generated_at", .string now),
    ("summary", summaryOf run), ("fragments", .array (run.fragments.map ofFragment))]

/-! ## Schema -/

open Schema in
/-- The schema of an expectation. -/
def expectationSchema : Schema :=
  record ["text", "regex", "severity"]
    [("text", ofKind .string), ("regex", ofKind .boolean), ("severity", ofKind .string),
      ("line", ofKinds [.integer, .null])]

/-- The schema of a line number. -/
def lineSchema : Schema := .ofRules [.kind [.integer], .least 1]

open Schema in
/-- The schema of a case. -/
def caseSchema : Schema :=
  record ["name", "status", "duration_ms", "start_line", "end_line", "expected"]
    [("name", ofKind .string), ("status", .ofRules [.oneText (Status.all.map (·.name))]),
      ("duration_ms", ofKind .number), ("start_line", lineSchema), ("end_line", lineSchema),
      ("reason", ofKind .string), ("expected", listOf expectationSchema),
      ("unexpected", listOf (ofKind .string)), ("exit_code", ofKinds [.integer, .null]),
      ("output", ofKind .string)]

open Schema in
/-- The schema of a fragment. -/
def fragmentSchema : Schema :=
  record ["path", "key", "passed", "cases"]
    [("path", ofKind .string), ("key", ofKind .string), ("dialect", ofKinds [.string, .null]),
      ("passed", ofKind .boolean), ("error", ofKind .string),
      ("artifact", ofKinds [.string, .null]), ("cases", listOf caseSchema)]

open Schema in
/-- The schema of what sums up a run. -/
def summarySchema : Schema :=
  record ["fragments", "total", "passed", "failed", "skipped", "errors", "duration_s"]
    [("fragments", ofKind .integer), ("total", ofKind .integer), ("passed", ofKind .integer),
      ("failed", ofKind .integer), ("skipped", ofKind .integer), ("errors", ofKind .integer),
      ("duration_s", ofKind .number)]

open Schema in
/-- The schema of a report. -/
def schema : Schema :=
  record ["schema_version", "generated_at", "summary", "fragments"]
    [("schema_version", ofKind .string), ("generated_at", ofKind .string),
      ("summary", summarySchema), ("fragments", listOf fragmentSchema)]

/-- The failure of showing a number that is too long. -/
def longNumber : Failure := .senseless Text.longNumberMessage

/-- The document of a run, if it follows the schema and can be shown. -/
def checked (now : String) (run : RunResult) : Except Failure Json :=
  let document := ofRun now run
  let datum := document.toDatum
  match schema.violations [] datum with
  | none => .error longNumber
  | some [] => if datum.hasLongNumber then .error longNumber else .ok document
  | some (violation :: _) =>
    match violation.describe? with
    | none => .error longNumber
    | some message => .error (.invalidReport message)

end NegativeCompile.Report

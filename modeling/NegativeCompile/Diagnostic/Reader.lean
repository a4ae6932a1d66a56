import NegativeCompile.Diagnostic
import NegativeCompile.Number.Binary64
import NegativeCompile.Text.Hex
import NegativeCompile.Text.Integer

/-! # Reading diagnostics

The diagnostics in the output of a compiler. A line is a diagnostic if it has one of two shapes,
`file:line:column: severity: message` or `file(line,column): severity code: message`; the column
and the code may be missing. -/

namespace NegativeCompile.Diagnostic

open Text

/-- The parts of a line that is a diagnostic, the numbers still being digits. -/
structure Shape where
  /-- The file. -/
  file : List Char
  /-- The digits of the line. -/
  line : List Char
  /-- The digits of the column. -/
  column : Option (List Char)
  /-- The severity. -/
  severity : Severity
  /-- The message. -/
  message : List Char
  deriving DecidableEq, Repr

/-! ## Parts of a line -/

/-- Take a fixed text from the start of a text. -/
def take? (piece text : List Char) : Option (List Char) :=
  if startsWith piece text then some (text.drop piece.length) else none

/-- Take digits, at least one. -/
def takeDigits? (text : List Char) : Option (List Char × List Char) :=
  let digits := text.takeWhile isDigit
  if digits.isEmpty then none else some (digits, text.dropWhile isDigit)

/-- The words for severities: a fatal error is an error. -/
def severityWords : List (String × Severity) :=
  [("fatal error", .error), ("error", .error), ("warning", .warning), ("note", .note)]

/-- The words for severities in lines that start with a file and a colon. -/
def colonSeverityWords : List (String × Severity) := severityWords ++ [("remark", .remark)]

/-- Take the first word of a list that a text starts with. -/
def takeSeverity? (words : List (String × Severity)) (text : List Char) :
    Option (Severity × List Char) :=
  words.findSome? fun (word, severity) => (take? word.toList text).map (severity, ·)

/-! ## Files before a colon -/

/-- The column, if digits and a colon follow. -/
def takeColumn (text : List Char) : Option (List Char) × List Char :=
  match takeDigits? text with
  | some (digits, ':' :: rest) => (some digits, rest)
  | _ => (none, text)

/-- Read what follows a file and its colon. -/
def readAfterFile (file text : List Char) : Option Shape := do
  let (line, afterLine) ← takeDigits? text
  let afterColon ← take? [':'] afterLine
  let (column, afterColumn) := takeColumn afterColon
  let (severity, afterSeverity) ← takeSeverity? colonSeverityWords (trimLeft afterColumn)
  let message ← take? [':'] afterSeverity
  return ⟨file, line, column, severity, message⟩

/-- Read a file that holds no colon except in what was taken before, and what follows it. -/
def readFrom (before text : List Char) : Option Shape :=
  let file := text.takeWhile (· ≠ ':')
  match text.dropWhile (· ≠ ':') with
  | ':' :: rest => if file.isEmpty then none else readAfterFile (before ++ file) rest
  | _ => none

/-- Read a line of the shape `file:line:column: severity: message`. A letter and a colon at the
start may name a drive. -/
def readColonShape (line : List Char) : Option Shape :=
  let withDrive := match line with
    | letter :: ':' :: rest => if isAsciiLetter letter then readFrom [letter, ':'] rest else none
    | _ => none
  withDrive.or (readFrom [] line)

/-! ## Files before a parenthesis -/

/-- Take the column after a comma, if there is one, and the closing parenthesis. -/
def takeParenthesizedColumn? (text : List Char) : Option (Option (List Char) × List Char) :=
  match text with
  | ')' :: rest => some (none, rest)
  | ',' :: rest =>
    match takeDigits? rest with
    | some (digits, ')' :: after) => some (some digits, after)
    | _ => none
  | _ => none

/-- Whether a character is an ASCII upper-case letter. -/
def isUpperLetter (c : Char) : Bool := 65 ≤ c.toNat && c.toNat ≤ 90

/-- Drop the code of a message, which is blanks, upper-case letters and digits, if there is one. -/
def dropCode (text : List Char) : List Char :=
  let word := trimLeft text
  if word.length = text.length then text
  else
    let afterLetters := word.dropWhile isUpperLetter
    if afterLetters.length = word.length then text
    else match takeDigits? afterLetters with
      | some (_, rest) => rest
      | none => text

/-- Read what follows a file and its parenthesis. -/
def readAfterParenthesis (file text : List Char) : Option Shape := do
  let (line, afterLine) ← takeDigits? text
  let (column, afterColumn) ← takeParenthesizedColumn? afterLine
  let afterColon ← take? [':'] (trimLeft afterColumn)
  let (severity, afterSeverity) ← takeSeverity? severityWords (trimLeft afterColon)
  let message ← take? [':'] (trimLeft (dropCode afterSeverity))
  return ⟨file, line, column, severity, message⟩

/-- Try every parenthesis of a text as the one after the file; `before` holds the characters before
the text, last first. -/
def readParenthesisFrom (before : List Char) : List Char → Option Shape
  | [] => none
  | c :: rest =>
    let here :=
      if c = '(' && !before.isEmpty then readAfterParenthesis before.reverse rest else none
    here.or (readParenthesisFrom (c :: before) rest)

/-- Read a line of the shape `file(line,column): severity code: message`. -/
def readParenthesisShape (line : List Char) : Option Shape := readParenthesisFrom [] line

/-! ## Whole outputs -/

/-- The shape of a line that is a diagnostic. -/
def readShape (line : List Char) : Option Shape :=
  (readColonShape line).or (readParenthesisShape line)

/-- The diagnostic of a shape. -/
def ofShape (shape : Shape) : Except IntegerProblem Diagnostic := do
  let line ← naturalOfDigits shape.line
  let column ← match shape.column with
    | some digits => (naturalOfDigits digits).map some
    | none => pure none
  return ⟨String.ofList (trim shape.file), line, column, shape.severity,
    String.ofList (trim shape.message)⟩

/-- The diagnostics among the lines of a text, in order. -/
def ofLines : List (List Char) → Except IntegerProblem (List Diagnostic)
  | [] => .ok []
  | line :: rest =>
    match readShape (trimRight line) with
    | none => ofLines rest
    | some shape => do
      let diagnostic ← ofShape shape
      return diagnostic :: (← ofLines rest)

/-- The diagnostics in the output of a compiler, in order. -/
def readAll (output : String) : Except IntegerProblem (List Diagnostic) :=
  ofLines (lines output.toList)

/-! ## Crashes -/

/-- What a compiler prints when it breaks down itself. -/
def crashMarkers : List String :=
  ["internal compiler error", "PLEASE submit a bug report",
    "clang frontend command failed due to signal", "fatal error C1001"]

/-- Whether a compiler broke down: a signal ended it, or it says so. -/
def looksLikeCrash (returnCode : Option Int) (output : String) : Bool :=
  returnCode.any (· < 0) || crashMarkers.any (containsString output)

end NegativeCompile.Diagnostic

namespace NegativeCompile

open Number

/-! ## Compiler outputs

All that is known of one run of the compiler. -/

/-- What a run of the compiler gave. -/
structure CompileOutput where
  /-- The program and its arguments. -/
  arguments : List String
  /-- The number it ended with, if it ended; a negative one is a signal. -/
  returnCode : Option Int
  /-- What it printed. -/
  output : String
  /-- How many seconds it took. -/
  duration : Binary64
  /-- The diagnostics in what it printed. -/
  diagnostics : List Diagnostic
  /-- Whether it had to be stopped. -/
  timedOut : Bool
  /-- Whether it broke down. -/
  crashed : Bool
  deriving DecidableEq, Repr, Inhabited

namespace CompileOutput

/-- What is known of a run of the compiler from what it printed: its diagnostics, and whether it
broke down. -/
def ofText (arguments : List String) (returnCode : Option Int) (text : String)
    (duration : Binary64) (timedOut : Bool) : Except Text.IntegerProblem CompileOutput := do
  let diagnostics ← Diagnostic.readAll text
  return {
    arguments := arguments
    returnCode := returnCode
    output := text
    duration := duration
    diagnostics := diagnostics
    timedOut := timedOut
    crashed := !timedOut && Diagnostic.looksLikeCrash returnCode text }

/-- Whether the code was accepted. -/
def succeeded (output : CompileOutput) : Bool :=
  output.returnCode == some 0 && !output.timedOut && !output.crashed

/-- The diagnostics that are errors. -/
def errors (output : CompileOutput) : List Diagnostic :=
  output.diagnostics.filter (·.severity = .error)

end CompileOutput

end NegativeCompile

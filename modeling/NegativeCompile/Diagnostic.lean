/-! # Diagnostics

Single messages of a compiler, and how serious they are. -/

namespace NegativeCompile

/-- How serious a compiler message is. -/
inductive Severity where
  /-- The code is rejected. -/
  | error
  /-- The code is doubtful. -/
  | warning
  /-- More on an earlier message. -/
  | note
  /-- A hint of the compiler. -/
  | remark
  /-- A severity that no compiler message has. -/
  | other (name : String)
  deriving DecidableEq, Repr, Inhabited

namespace Severity

/-- The word for a severity. -/
def name : Severity → String
  | .error => "error"
  | .warning => "warning"
  | .note => "note"
  | .remark => "remark"
  | .other name => name

/-- The severities that compiler messages have. -/
def all : List Severity := [.error, .warning, .note, .remark]

/-- The severity of a word. -/
def ofName (word : String) : Severity := (all.find? (·.name = word)).getD (.other word)

end Severity

/-- A message that a compiler gave. -/
structure Diagnostic where
  /-- The file it is about, as the compiler names it. -/
  file : String
  /-- The line it is about. -/
  line : Nat
  /-- The column it is about, if given. -/
  column : Option Nat
  /-- How serious it is. -/
  severity : Severity
  /-- What it says. -/
  message : String
  deriving DecidableEq, Repr, Inhabited

/-- The line that shows a diagnostic. -/
def Diagnostic.render (diagnostic : Diagnostic) : String :=
  let column := match diagnostic.column with
    | some column => s!":{column}"
    | none => ""
  s!"{diagnostic.file}:{diagnostic.line}{column}: {diagnostic.severity.name}: " ++
    diagnostic.message

end NegativeCompile

import NegativeCompile.Report.Document
import NegativeCompile.Report.Terminal
import NegativeCompile.World

/-! # Reports

How the events of a run are reported: line by line as they come, or as one document at the end,
either printed or written to a file. -/

namespace NegativeCompile

open Files Text

/-- A way to report a run. -/
inductive ReportKind where
  /-- Lines for reading. -/
  | terminal (style : Terminal.Style)
  /-- A document, printed or written to a file. -/
  | document (target : Option Path)
  deriving DecidableEq, Repr, Inhabited

namespace ReportKind

/-- The report as a document that a text asks for; the empty text asks for printing. -/
def documentTo (target : Option String) : ReportKind :=
  match target with
  | some name => .document (if name.isEmpty then none else some (.ofString name))
  | none => .document none

end ReportKind

/-- A report in the making: its kind and the failed cases so far. -/
structure Reporter where
  /-- The kind. -/
  kind : ReportKind
  /-- The failed cases so far. -/
  failures : List Terminal.FailedCase
  deriving Repr, Inhabited

namespace Reporter

/-- A report on which nothing has been said. -/
def ofKind (kind : ReportKind) : Reporter := ⟨kind, []⟩

/-- Report that a run starts. -/
def start (reporter : Reporter) (total : Nat) (jobs : Int) : Action Reporter :=
  match reporter.kind with
  | .document _ => return reporter
  | .terminal style => do
    Action.print (Terminal.startLine style total jobs)
    return { reporter with failures := [] }

/-- Report the result of a fragment. -/
def fragment (reporter : Reporter) (result : FragmentResult) (index total : Nat) :
    Action Reporter :=
  match reporter.kind with
  | .document _ => return reporter
  | .terminal style => do
    Action.printAll (Terminal.fragmentLines style result index total)
    return { reporter with failures := reporter.failures ++ Terminal.failuresOf result }

/-- Write a report to a file. -/
def writeTo (target : Path) (text : String) (start : Place) :
    ExceptT Failure (StateM Tree) Unit := do
  let filing : Filing Unit := do
    makeDirectories start target.parent
    writeBytes start target.toString (encodeUtf8 text)
  match ← filing.run with
  | .ok () => return
  | .error (.refusal refusal) =>
    throw (.runtime s!"Failed to write JSON report to {target}: {refusal.message}")
  | .error trouble => throw (.ofTrouble trouble)

/-- Report that a run is complete. -/
def complete (reporter : Reporter) (run : RunResult) : Action Unit :=
  match reporter.kind with
  | .terminal style => Action.printAll (Terminal.endLines style run reporter.failures)
  | .document target => do
    let text := (← Report.checked (← read).now run).writeIndented
    match target with
    | none => Action.print text
    | some path => do
      Action.withTree (writeTo path text)
      Action.printError s!"JSON report written to {path}"

end Reporter

namespace Reporters

/-- Report the start of a run in several ways. -/
def start (total : Nat) (jobs : Int) (reporters : List Reporter) : Action (List Reporter) :=
  reporters.mapM fun reporter => reporter.start total jobs

/-- Report the result of a fragment in several ways. -/
def fragment (result : FragmentResult) (index total : Nat) (reporters : List Reporter) :
    Action (List Reporter) :=
  reporters.mapM fun reporter => reporter.fragment result index total

/-- Report the results of fragments, counted from an index on, in several ways. -/
def fragments (index total : Nat) (reporters : List Reporter) :
    List FragmentResult → Action (List Reporter)
  | [] => return reporters
  | result :: rest => do
    fragments (index + 1) total (← fragment result index total reporters) rest

/-- Report in several ways that a run is complete. -/
def complete (run : RunResult) : List Reporter → Action Unit
  | [] => return
  | reporter :: rest => do
    reporter.complete run
    complete run rest

/-- Report a whole run in several ways. -/
def whole (run : RunResult) (jobs : Int) (reporters : List Reporter) :
    Action (List Reporter) := do
  let total := run.fragments.length
  let started ← start total jobs reporters
  let reported ← fragments 1 total started run.fragments
  complete run reported
  return reported

end Reporters

end NegativeCompile

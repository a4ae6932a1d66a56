import NegativeCompile.Files.Walk
import NegativeCompile.Literal.Expression.Reader
import NegativeCompile.Regex.Token
import NegativeCompile.Text.Integer

/-! # Failures

Why an operation on fragments, configurations or runs fails. Each cause has its own constructor and
one wording. -/

namespace NegativeCompile

open Files

/-- Why an operation fails. -/
inductive Failure where
  /-- The annotations of a fragment cannot be read, possibly at a known line. -/
  | annotations (path : Path) (line : Option Nat) (reason : String)
  /-- A setting is invalid. -/
  | configuration (message : String)
  /-- The compiler cannot be started. -/
  | infrastructure (message : String)
  /-- The run was cancelled. -/
  | cancelled (message : String)
  /-- A pattern is none. -/
  | pattern (message : String)
  /-- A value is out of the range that makes sense. -/
  | senseless (message : String)
  /-- A value is of a kind that makes no sense. -/
  | kind (message : String)
  /-- A number is too large. -/
  | overflow (message : String)
  /-- A key is not known. -/
  | unknownKey (message : String)
  /-- Nothing was found. -/
  | notFound (message : String)
  /-- Something that is needed is absent. -/
  | absent (message : String)
  /-- A place is out of range. -/
  | place (message : String)
  /-- A rule of the inner workings was broken. -/
  | fault (message : String)
  /-- An operation is not provided. -/
  | notProvided
  /-- Something went wrong on the way. -/
  | runtime (message : String)
  /-- A report does not follow its schema. -/
  | invalidReport (message : String)
  /-- Bytes are no text. -/
  | undecodable (message : String)
  /-- The file system refuses. -/
  | files (refusal : Refusal)
  deriving DecidableEq, Repr

namespace Failure

/-- Where a fragment's annotations cannot be read. -/
def location (path : Path) (line : Option Nat) : String :=
  match line with
  | some number => s!"{path}:{number}"
  | none => path.toString

/-- The wording of a failure. -/
def message : Failure → String
  | .annotations path line reason => s!"{location path line}: {reason}"
  | .configuration message => message
  | .infrastructure message => message
  | .cancelled message => message
  | .pattern message => message
  | .senseless message => message
  | .kind message => message
  | .overflow message => message
  | .unknownKey message => message
  | .notFound message => message
  | .absent message => message
  | .place message => message
  | .fault message => message
  | .notProvided => ""
  | .runtime message => message
  | .invalidReport message => message
  | .undecodable message => message
  | .files refusal => refusal.message

/-- Whether a failure is one of the expected kinds, which the command line reports in one line. -/
def isExpected : Failure → Bool
  | .annotations _ _ _ => true
  | .configuration _ => true
  | .infrastructure _ => true
  | .cancelled _ => true
  | _ => false

/-- The failure of using a path. -/
def ofTrouble : Trouble → Failure
  | .refusal refusal => .files refusal
  | .nullCharacter => .senseless "embedded null byte"

/-- The failure of resolving a path. -/
def ofResolveProblem : ResolveProblem → Failure
  | .linkLoop path => .runtime s!"Symlink loop from {Text.quotedString path}"
  | .nullCharacter => .senseless "embedded null byte"

/-- The failure of reading a pattern. -/
def ofPattern (pattern : List Char) (problem : Regex.Problem) : Failure :=
  let message := problem.message pattern
  match problem with
  | .invalid _ _ => .pattern message
  | .overflow _ => .overflow message
  | .senseless _ => .senseless message
  | .unusable _ => .runtime message

/-- The failure of reading a number. -/
def ofInteger (text : List Char) : Text.IntegerProblem → Failure
  | .malformed =>
    .senseless s!"invalid literal for int() with base 10: {String.ofList (Text.quoted text)}"
  | .tooLong digits => .senseless (Text.tooLongMessage digits)

end Failure

end NegativeCompile

import NegativeCompile.Files.Path
import NegativeCompile.Number.Binary64.Written

/-! # Settings

What a configuration settles: the compiler and its arguments, the fragments, and where results go.
-/

namespace NegativeCompile

open Files Number

/-- A number of seconds: one that is given as a whole number is written as such. -/
inductive Seconds where
  /-- A whole number. -/
  | whole (count : Int)
  /-- A floating point number. -/
  | real (value : Binary64)
  deriving DecidableEq, Repr, Inhabited

namespace Seconds

/-- The floating point number of seconds. -/
def value : Seconds → Binary64
  | .whole count => .ofInt count
  | .real value => value

/-- A number of seconds as it is shown. -/
def written : Seconds → String
  | .whole count => toString count
  | .real value => value.written

end Seconds

/-- How far the compiler goes. -/
inductive CompileMode where
  /-- It checks the code only. -/
  | syntaxOnly
  /-- It writes an object file. -/
  | compileOnly
  deriving DecidableEq, Repr, Inhabited

namespace CompileMode

/-- The word for a mode. -/
def name : CompileMode → String
  | .syntaxOnly => "syntax-only"
  | .compileOnly => "compile-only"

/-- The modes. -/
def all : List CompileMode := [.syntaxOnly, .compileOnly]

/-- The mode of a word; checking only is the rule. -/
def ofName (word : String) : CompileMode := (all.find? (·.name = word)).getD .syntaxOnly

end CompileMode

/-- The number of compilers run at a time, unless it is set. -/
def defaultJobs : Nat := 4

/-- The number of seconds a compiler may take, unless it is set. -/
def defaultTimeout : Seconds := .real (.ofInt 120)

/-- The header that a generated test includes, unless it is set. -/
def defaultHeader : String := "testing/gtest/include/gtest/gtest.h"

/-- The ending of the names of fragments, unless it is set. -/
def defaultSuffix : String := ".nc"

/-- How the compiler is run. -/
structure CompilerSettings where
  /-- The compiler, as a path or as a name to look up. -/
  binary : String
  /-- The first arguments. -/
  flags : List String
  /-- The language standard. -/
  std : Option String
  /-- The directories with headers. -/
  includeDirs : List Path
  /-- The symbols that are defined. -/
  defines : List String
  /-- Whether warnings are errors. -/
  werror : Bool
  /-- How far the compiler goes. -/
  mode : CompileMode
  /-- Whether the compiler lists the headers it has read. -/
  depfile : Bool
  /-- The number of seconds it may take. -/
  timeout : Seconds
  /-- The variables set for it. -/
  env : List (String × String)
  /-- The directory it runs in. -/
  workdir : Option Path
  deriving DecidableEq, Repr, Inhabited

/-- How results are turned into tests. -/
structure ArtifactSettings where
  /-- Whether they are. -/
  enabled : Bool
  /-- The header that the tests include. -/
  header : String
  /-- The suite of the tests. -/
  suite : Option String
  deriving DecidableEq, Repr, Inhabited

/-- All that a configuration settles. -/
structure Settings where
  /-- How the compiler is run. -/
  compiler : CompilerSettings
  /-- Where files are written. -/
  outputDir : Path
  /-- The fragments. -/
  fragments : List Path
  /-- The directory that relative paths start from. -/
  baseDir : Path
  /-- The number of compilers run at a time. -/
  jobs : Int
  /-- How results are turned into tests. -/
  artifact : ArtifactSettings
  /-- The endings of the names of fragments. -/
  suffixes : List String
  deriving DecidableEq, Repr, Inhabited

/-- What is chosen for one run. -/
structure RunOptions where
  /-- Patterns of the names of the cases to run; none means all. -/
  cases : List String := []
  /-- The number of compilers run at a time. -/
  jobs : Option Int := none
  /-- The number of seconds a compiler may take. -/
  timeout : Option Seconds := none
  /-- Whether cases are only listed. -/
  listOnly : Bool := false
  /-- Whether results are turned into tests. -/
  writeArtifacts : Option Bool := none
  deriving DecidableEq, Repr, Inhabited

end NegativeCompile

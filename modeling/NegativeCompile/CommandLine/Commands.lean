import NegativeCompile.CommandLine.Command
import NegativeCompile.Settings
import NegativeCompile.Version

/-! # The commands of the program

The program itself, its command for a whole configuration and its command for a single fragment. -/

namespace NegativeCompile.CommandLine

open Number

/-! ## Options of several commands -/

/-- Ask for a description. -/
def helpOption : CommandOption :=
  ⟨["-h", "--help"], .inquiry .help, "Show this message and exit."⟩

/-- Print without colours. -/
def noColourOption : CommandOption :=
  ⟨["--no-color"], .switch, "Disable ANSI colors in terminal output."⟩

/-- How many compilers run at a time. -/
def jobsOption (absence : Absence) (about : String) : CommandOption :=
  ⟨["--jobs", "-j"], .valued (.wholeFrom 1) absence, about⟩

/-- How long a compiler may run. -/
def timeoutOption (absence : Absence) (about : String) : CommandOption :=
  ⟨["--timeout"], .valued (.realAbove 0) absence, about⟩

/-- The word for reports for reading. -/
def terminalWord : String := "terminal"

/-- The word for reports as documents. -/
def documentWord : String := "json"

/-! ## Commands -/

/-- The command for a whole configuration. -/
def runCommand : Command where
  path := s!"{programName} run"
  usage := "[OPTIONS]"
  about := ["Verify every fragment listed in a configuration file."]
  arguments := []
  options :=
    [⟨["--config"], .valued (.file true) .refused, "YAML harness configuration."⟩,
      ⟨["--cases"], .valued .text .empty,
        "Comma-separated case name filters (supports globs)."⟩,
      jobsOption .empty "Parallel compiler processes (overrides config).",
      timeoutOption .empty "Per-compile timeout in seconds.",
      ⟨["--list"], .switch, "List matched cases without compiling."⟩,
      ⟨["--no-artifacts"], .switch, "Do not write generated test sources."⟩,
      ⟨["--report"], .valued (.word [terminalWord, documentWord]) (.usual (.text terminalWord)),
        "Report format (terminal by default)."⟩,
      ⟨["--report-path"], .valued .text .empty, "When --report json, write to this path."⟩,
      noColourOption, helpOption]
  isInterspersed := true

/-- The name of the argument for the fragment. -/
def sourceName : String := "SOURCE"

/-- The name of the arguments for the compiler. -/
def flagsName : String := "CFLAGS"

/-- The command for a single fragment. -/
def checkCommand : Command where
  path := s!"{programName} check"
  usage := s!"[OPTIONS] {sourceName} [{flagsName}]..."
  about :=
    ["Verify a single fragment; for build-system rules.",
      "Extra compiler flags go after \x60\x60--\x60\x60."]
  arguments := [⟨sourceName, some (.file true)⟩, ⟨flagsName, none⟩]
  options :=
    [⟨["--compiler"], .valued .text .refused, "Compiler binary (name on PATH or path)."⟩,
      ⟨["--output-dir"], .valued .directory .refused,
        "Directory for depfiles and placeholders."⟩,
      ⟨["--artifact"], .valued (.file false) .empty, "Generated test source to write."⟩,
      ⟨["--header"], .valued .text (.usual (.text defaultHeader)),
        "Header included by a passing artifact."⟩,
      jobsOption (.usual (.whole defaultJobs)) "",
      timeoutOption (.usual (.real defaultTimeout.value)) "",
      ⟨["--std"], .valued .text .empty, "Language standard, passed as -std=<value>."⟩,
      ⟨["-I"], .repeated, "Include directory (repeatable)."⟩,
      ⟨["--werror"], .toggle "--no-werror", ""⟩,
      ⟨["--mode"], .valued (.word (CompileMode.all.map (·.name)))
        (.usual (.text CompileMode.syntaxOnly.name)), ""⟩,
      ⟨["--depfile"], .toggle "--no-depfile", ""⟩,
      noColourOption, helpOption]
  isInterspersed := true

/-- The program itself. -/
def program : Command where
  path := programName
  usage := "[OPTIONS] COMMAND [ARGS]..."
  about := ["Verify that annotated source fragments fail to compile as expected."]
  arguments := []
  options :=
    [⟨["--verbose"], .switch, "Enable verbose logging output."⟩,
      ⟨["--version"], .inquiry .version, s!"Show the {programName} version and exit."⟩,
      helpOption]
  isInterspersed := false

end NegativeCompile.CommandLine

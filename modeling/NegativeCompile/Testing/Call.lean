import NegativeCompile.Testing.SettingsFile
import NegativeCompile.Text.Integer
import NegativeCompile.Text.ShellWords
import NegativeCompile.World

/-! # Calls of a test runner

What a test runner is asked for: by the words that it is called with and by the file with its own
settings. -/

namespace NegativeCompile.Testing

open Files Text

/-- What a test runner is asked for. -/
structure TestCall where
  /-- The configuration file with the fragments. -/
  configuration : Option String
  /-- The setting for the configuration file. -/
  configured : Option String
  /-- An expression for the items to be checked. -/
  keyword : String
  /-- How many failures end the run. -/
  failureLimit : Option Nat
  /-- Whether items are only collected. -/
  onlyCollects : Bool
  /-- What to look at. -/
  targets : List String
  deriving DecidableEq, Repr, Inhabited

namespace TestCall

/-- The call that asks for nothing in particular. -/
def usual : TestCall := ⟨none, none, "", none, false, []⟩

/-- The setting for the configuration file. -/
def settingName : String := "nctest_config"

/-! ## Words -/

/-- The words that make no difference. -/
def idleWords : List String := ["-q", "-qq", "-v", "-vv", "-s", "-ra", "--quiet", "--verbose"]

/-- What is asked for by an option without a value. -/
def withSwitch? (call : TestCall) (word : String) : Option TestCall :=
  if idleWords.contains word then some call
  else if word = "-x" || word = "--exitfirst" then some { call with failureLimit := some 1 }
  else if word = "--co" || word = "--collect-only" then some { call with onlyCollects := true }
  else none

/-- A text at its first equals sign. -/
def splitAssignment (text : String) : String × String :=
  let name := text.toList.takeWhile (· ≠ '=')
  (String.ofList name, String.ofList (text.toList.drop (name.length + 1)))

/-- What is asked for by an option with a value. -/
def withValue? (call : TestCall) (name value : String) : Option TestCall :=
  if name = "--nctest-config" then some { call with configuration := some value }
  else if name = "-k" then some { call with keyword := value }
  else if name = "--maxfail" then
    match readInteger value.toList with
    | .ok limit =>
      some { call with failureLimit := if 0 < limit then some limit.toNat else none }
    | .error _ => none
  else if name = "-o" || name = "--override-ini" then
    let (setting, text) := splitAssignment value
    some (if setting = settingName then { call with configured := some text } else call)
  else if name = "-p" || name = "--rootdir" || name = "--tb" then some call
  else none

/-- What is asked for by an option whose value is in the same word. -/
def withJoined? (call : TestCall) (word : String) : Option TestCall :=
  let (name, value) := splitAssignment word
  if word.contains '=' && (call.withValue? name value).isSome then call.withValue? name value
  else if word.startsWith "--" then none
  else
    call.withValue? (String.ofList (word.toList.take 2)) (String.ofList (word.toList.drop 2))

/-- Read the words of a call; there is no call if one of them is not understood. -/
def readFrom (call : TestCall) : List String → Option TestCall
  | [] => some call
  | word :: rest =>
    if word = "--" then some { call with targets := call.targets ++ rest }
    else if !word.startsWith "-" || word.length < 2 then
      readFrom { call with targets := call.targets ++ [word] } rest
    else
      match call.withSwitch? word with
      | some next => readFrom next rest
      | none =>
        match rest with
        | [] => call.withJoined? word
        | value :: others =>
          match call.withValue? word value, call.withJoined? word with
          | some next, _ => readFrom next others
          | none, some next => readFrom next (value :: others)
          | none, none => none

/-! ## Settings files -/

/-- A file that can hold a test runner's settings. -/
structure SettingsFile where
  /-- Its name. -/
  name : String
  /-- The heading over the settings. -/
  heading : String
  /-- Whether it counts even if it has no such heading. -/
  isOwn : Bool
  deriving DecidableEq, Repr, Inhabited

/-- The files that can hold a test runner's settings, in the order in which they are tried. -/
def settingsFiles : List SettingsFile :=
  [⟨"pytest.ini", "pytest", true⟩, ⟨".pytest.ini", "pytest", true⟩, ⟨"tox.ini", "pytest", false⟩,
    ⟨"setup.cfg", "tool:pytest", false⟩]

/-- Why a call makes no sense. -/
inductive CallProblem where
  /-- A word is not understood. -/
  | words
  /-- A settings file breaks a rule. -/
  | settings (file : Path) (problem : SettingsProblem)
  deriving DecidableEq, Repr

/-- The wording of a problem with a call. -/
def CallProblem.message : CallProblem → String
  | .words => "usage: pytest [options] [file_or_dir] [file_or_dir] [...]"
  | .settings file problem => s!"{file}:{problem.line}: {problem.reason}"

/-- The settings in a file in a directory, if it counts. -/
def SettingsFile.read? (file : SettingsFile) (place : Surroundings) (directory : Path) :
    Except CallProblem (Option (List (String × String))) :=
  let path := directory.append file.name
  let text? := do
    let bytes ← (readBytes place.tree place.here path.toString).toOption
    (decodeUtf8 bytes).toOption
  match text? with
  | none => .ok none
  | some text =>
    match readSections text with
    | .error problem => .error (.settings path problem)
    | .ok sections =>
      match settingsUnder? file.heading sections with
      | some settings => .ok (some settings)
      | none => .ok (if file.isOwn then some [] else none)

/-- The settings of a test runner in a directory, from the first of some files that counts. -/
def settingsFrom (place : Surroundings) (directory : Path) :
    List SettingsFile → Except CallProblem (List (String × String))
  | [] => .ok []
  | file :: rest => do
    match ← file.read? place directory with
    | some settings => return settings
    | none => settingsFrom place directory rest

/-- The call of a test runner with some words in a directory; settings can add words before
them. -/
def ofWords (place : Surroundings) (directory : Path) (words : List String) :
    Except CallProblem TestCall := do
  let settings ← settingsFrom place directory settingsFiles
  let added := match ShellWords.split ((settings.lookup "addopts").getD "") with
    | .ok more => more
    | .error _ => []
  match readFrom { usual with configured := settings.lookup settingName } (added ++ words) with
  | some call => return call
  | none => throw .words

/-- The configuration file that is asked for, if any. -/
def configurationFile? (call : TestCall) : Option String :=
  let isNamed (name : String) : Option String := if name.isEmpty then none else some name
  (call.configuration.bind isNamed).orElse fun _ => call.configured.bind isNamed

end TestCall

end NegativeCompile.Testing

import NegativeCompile.Settings.Reader
import NegativeCompile.Yaml.Reader

/-! # Loading settings

The settings that a configuration file gives, its paths being seen from the directory that the file
is in, and those for a single check, which are assembled from values given one by one. -/

namespace NegativeCompile.Action

open Files Text

/-- The failure of reading the configuration file at a path. -/
def unreadable (path : Path) (reason : String) : Failure :=
  .configuration s!"Cannot read configuration {path}: {reason}"

/-- The text of the configuration file at a path. -/
def readConfiguration (path : Path) : Action String := do
  let place ← surroundings
  match readBytes place.tree place.here path.toString with
  | .error (.refusal refusal) => throw (unreadable path refusal.message)
  | .error trouble => throw (.ofTrouble trouble)
  | .ok bytes =>
    match decodeUtf8 bytes with
    | .error problem => throw (.undecodable problem.message)
    | .ok text => return String.ofList (unifyNewlines text.toList)

/-- The datum that the text of a configuration file stands for. -/
def decodeConfiguration (path : Path) (text : String) : Action KnottedDatum :=
  match Yaml.read text with
  | .ok found => return if found.root.isVoid then .plain (.mapping []) else found
  | .error .malformed => throw (unreadable path "<detail>")
  | .error (.failure failure) => throw failure

/-- The settings that the configuration file of a name gives. -/
def loadSettings (name : String) : Action Settings := do
  let context : PathContext := ⟨(← read).homeDirectories, ← surroundings, ⟨0, []⟩⟩
  let path ← context.resolve name
  let text ← readConfiguration path
  let raw ← decodeConfiguration path text
  match raw.root with
  | .mapping _ => parseSettings raw path.parent
  | _ => throw (.configuration "Configuration file must contain a mapping at the top level")

end NegativeCompile.Action

/-! ## Assembling settings -/

namespace NegativeCompile

open Files

namespace Settings

/-- A datum as a list: a text is the list of its characters. -/
def listed : Datum → Datum
  | .tuple items => .list items
  | .text value => .list (value.toList.map fun c => .text (String.singleton c))
  | value => value

/-- The configuration that some given values make up; what is not given is as usual. -/
def assembled (given : List (String × Datum)) : Datum :=
  let value (name : String) (usual : Datum) : Datum := (given.lookup name).getD usual
  let entry (name : String) (usual : Datum) : Datum × Datum := (.text name, value name usual)
  let items (name : String) : Datum × Datum := (.text name, listed (value name (.list [])))
  let usualTimeout : Datum := .real defaultTimeout.value
  .mapping
    [(.text "compiler", .mapping
        [entry "binary" .nothing, items "flags", entry "std" .nothing, items "include_dirs",
          entry "werror" (.boolean true), entry "mode" (.text CompileMode.syntaxOnly.name),
          entry "depfile" (.boolean true), entry "timeout" usualTimeout]),
      entry "output_dir" .nothing,
      entry "jobs" (.integer defaultJobs),
      (.text "fragments", listed (value "sources" (.list []))),
      (.text "artifact", .mapping [entry "header" (.text defaultHeader)])]

end Settings

namespace Action

/-- The settings that some given values make up, paths being seen from a directory. -/
def assembleSettings (given : List (String × Datum)) (base : Option Path) : Action Settings := do
  let place ← surroundings
  let resolved ← place.resolve (base.getD (.ofParts place.here))
  parseSettings (.plain (Settings.assembled given)) resolved

end Action

end NegativeCompile

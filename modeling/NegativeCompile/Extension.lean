import NegativeCompile.Dialect.Guarded
import NegativeCompile.Dialect.Header
import NegativeCompile.Dialect.Inline

/-! # Extensions

Modules that bring further dialects. They are named in an environment variable and loaded once. -/

namespace NegativeCompile

open Text

/-- A module that can be loaded. -/
structure Extension where
  /-- The name. -/
  name : String
  /-- The dialects it brings, unless it has nothing to do with dialects. -/
  dialects : Option (List Dialect)

namespace Extension

/-- The variable that names the extensions. -/
def variableName : String := "NCTEST_PLUGINS"

/-- The extension that brings the dialect of headers. -/
def header : Extension := ⟨"header_dialect", some [Header.dialect]⟩

/-- The wording for a module that does not exist; `container` is the module that cannot hold it. -/
def missingMessage (name : String) (container : Option String) : String :=
  s!"No module named {quotedString name}" ++
    match container with
    | some outer => s!"; {quotedString outer} is not a package"
    | none => ""

/-- The failure for a name that is not that of any extension. -/
def notLoaded (extensions : List Extension) (name : String) : Failure :=
  let refuse (message : String) : Failure :=
    .configuration s!"{variableName}: cannot import plugin '{name}': {message}"
  match (splitAtChar '.' name.toList).map String.ofList with
  | "" :: _ =>
    .kind (s!"the 'package' argument is required to perform a relative import for " ++
      quotedString name)
  | outer :: inner :: _ =>
    if extensions.any (·.name = outer) then
      refuse (missingMessage (outer ++ "." ++ inner) (some outer))
    else refuse (missingMessage outer none)
  | _ => refuse (missingMessage name none)

/-- The dialects that the extension of a name brings. -/
def find (extensions : List Extension) (name : String) : Except Failure (List Dialect) :=
  match extensions.find? (·.name = name) with
  | none => .error (notLoaded extensions name)
  | some extension =>
    match extension.dialects with
    | some dialects => .ok dialects
    | none =>
      .error (.configuration s!"{variableName}: plugin '{name}' has no register() function")

end Extension

namespace Registry

/-- The dialects that need no extension. -/
def builtin : List Dialect := [Guarded.dialect, Inline.dialect]

/-- Add a dialect unless its name is taken. -/
def ensure (registry : Registry) (dialect : Dialect) : Registry :=
  if registry.dialects.any (·.name = dialect.name) then registry
  else ⟨registry.dialects ++ [dialect]⟩

/-- A registry with the dialects that need no extension added to it. -/
def withBuiltin (registry : Registry) : Registry := builtin.foldl ensure registry

/-- The registry that holds just the dialects that need no extension. -/
def standard : Registry := empty.withBuiltin

end Registry

end NegativeCompile

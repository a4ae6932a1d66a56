import NegativeCompile.Text.Blank
import NegativeCompile.Text.Quoted

/-! # Settings files of a test runner

Files with settings under headings in brackets. A setting is a name and a value; lines that start
with a blank go on with the value before them. -/

namespace NegativeCompile.Testing

open Text

/-! ## Lines -/

/-- What a line of a settings file holds. -/
inductive SettingsLine where
  /-- Nothing, or a remark. -/
  | empty
  /-- A heading. -/
  | heading (name : String)
  /-- A setting. -/
  | setting (name value : String)
  /-- More of the value before it. -/
  | continuation (value : String)
  /-- A text that makes no sense. -/
  | malformed (text : String)
  deriving DecidableEq, Repr

namespace SettingsLine

/-- Whether a character starts a remark. -/
def startsRemark (c : Char) : Bool := c = '#' || c = ';'

/-- A text up to the first one of a character, without blanks before that. -/
def upTo (c : Char) (text : List Char) : List Char := trimRight (text.takeWhile (· ≠ c))

/-- The line that starts with an opening bracket: a heading, unless the bracket is not closed. -/
def ofBracket (text : List Char) : SettingsLine :=
  let shown := upTo ';' (upTo '#' text)
  if shown.getLast? = some ']' then .heading (String.ofList (shown.drop 1).dropLast)
  else .continuation (String.ofList text)

/-- The name and the value on both sides of the first one of a character. -/
def splitAt? (c : Char) (text : List Char) : Option (List Char × List Char) :=
  let name := text.takeWhile (· ≠ c)
  if name.length = text.length then none else some (name, text.drop (name.length + 1))

/-- The setting on a line: an equals sign divides it, or a colon if that comes before. -/
def ofSetting (text : List Char) : SettingsLine :=
  let build (parts : List Char × List Char) : SettingsLine :=
    .setting (String.ofList (trim parts.1)) (String.ofList (trim parts.2))
  let refused := SettingsLine.malformed (String.ofList text)
  match splitAt? '=' text with
  | some parts =>
    if parts.1.contains ':' then ((splitAt? ':' text).map build).getD refused else build parts
  | none => ((splitAt? ':' text).map build).getD refused

/-- What a line holds. -/
def ofText (line : List Char) : SettingsLine :=
  if (trimLeft line).head?.all startsRemark then .empty
  else
    let text := trimRight line
    match text with
    | [] => .empty
    | c :: _ =>
      if c = '[' then ofBracket text
      else if isBlank c then .continuation (String.ofList (trim text))
      else ofSetting text

end SettingsLine

/-! ## Files -/

/-- Settings under one heading. -/
structure SettingsSection where
  /-- The heading. -/
  heading : String
  /-- The names and the values, the last one first. -/
  settings : List (String × String)
  deriving DecidableEq, Repr, Inhabited

/-- A line of a settings file that breaks a rule. -/
structure SettingsProblem where
  /-- The number of the line, from one. -/
  line : Nat
  /-- What is wrong. -/
  reason : String
  deriving DecidableEq, Repr, Inhabited

/-- A value with more text on a line of its own. -/
def continued (value more : String) : String :=
  if value.isEmpty then more else s!"{value}\n{more}"

/-- Join lines to the settings that they go on with. Each setting and heading has the number of its
line; `before` are the lines so far, the last one first. -/
def joinLines (number : Nat) (before : List (Nat × SettingsLine)) :
    List SettingsLine → Except SettingsProblem (List (Nat × SettingsLine))
  | [] => .ok before.reverse
  | .empty :: rest => joinLines (number + 1) before rest
  | .continuation more :: rest =>
    match before with
    | (start, .setting name value) :: others =>
      joinLines (number + 1) ((start, .setting name (continued value more)) :: others) rest
    | _ => .error ⟨number, "unexpected value continuation"⟩
  | .heading name :: rest =>
    if name.isEmpty then .error ⟨number, "empty section name"⟩
    else joinLines (number + 1) ((number, .heading name) :: before) rest
  | .malformed text :: _ => .error ⟨number, s!"unexpected line: {quotedString text}"⟩
  | line :: rest => joinLines (number + 1) ((number, line) :: before) rest

/-- Gather settings under their headings, `before` being the sections so far, the last one
first. -/
def gather (before : List SettingsSection) :
    List (Nat × SettingsLine) → Except SettingsProblem (List SettingsSection)
  | [] => .ok before
  | (number, .heading name) :: rest =>
    if before.any (·.heading = name) then
      .error ⟨number, s!"duplicate section {quotedString name}"⟩
    else gather (⟨name, []⟩ :: before) rest
  | (number, .setting name value) :: rest =>
    match before with
    | [] => .error ⟨number, "no section header defined"⟩
    | current :: others =>
      if (current.settings.lookup name).isSome then
        .error ⟨number, s!"duplicate name {quotedString name}"⟩
      else gather ({ current with settings := (name, value) :: current.settings } :: others) rest
  | _ :: rest => gather before rest

/-- The sections of a settings file. -/
def readSections (text : String) : Except SettingsProblem (List SettingsSection) := do
  gather [] (← joinLines 1 [] ((lines text.toList).map SettingsLine.ofText))

/-- The settings under a heading, if it is there. -/
def settingsUnder? (heading : String) (sections : List SettingsSection) :
    Option (List (String × String)) :=
  (sections.find? (·.heading = heading)).map (·.settings)

end NegativeCompile.Testing

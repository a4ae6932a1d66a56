import NegativeCompile.CommandLine.Command
import NegativeCompile.Text.Blank

/-! # Descriptions of commands

The text that describes a command: its usage, what it does, and its options in two columns. -/

namespace NegativeCompile.CommandLine

open Text

/-! ## Wrapping -/

/-- A word with the blanks before it. -/
structure SpacedWord where
  /-- How many blanks there are before it. -/
  gap : Nat
  /-- The word. -/
  word : List Char
  deriving DecidableEq, Repr, Inhabited

/-- The words of a text with the blanks before them. -/
def spacedWords (text : String) : List SpacedWord :=
  let pieces := splitAtChar ' ' text.toList
  (pieces.foldl (fun (gap, found) piece =>
    if piece.isEmpty then (gap + 1, found) else (1, found ++ [⟨gap, piece⟩])) (0, [])).2

/-- Fill lines of a width with words; the current line comes first. -/
def fillLines (width : Nat) (line : List Char) : List SpacedWord → List String
  | [] => if line.isEmpty then [] else [String.ofList line]
  | ⟨gap, word⟩ :: rest =>
    if line.isEmpty then fillLines width word rest
    else if line.length + gap + word.length ≤ width then
      fillLines width (line ++ List.replicate gap ' ' ++ word) rest
    else String.ofList line :: fillLines width word rest

/-- A text in lines of a width. -/
def wrapped (width : Nat) (text : String) : List String := fillLines width [] (spacedWords text)

/-! ## Columns -/

/-- How wide a description is. -/
def helpWidth : Nat := 78

/-- The widest first column. -/
def columnLimit : Nat := 30

/-- Some blanks. -/
def blanks (count : Nat) : String := String.ofList (List.replicate count ' ')

/-- One row of two columns; `column` is the width of the first one with the blanks after it. -/
def rowLines (column : Nat) (left right : String) : List String :=
  let indent := blanks (column + 2)
  match wrapped (helpWidth - column - 2) right with
  | [] => [s!"  {left}"]
  | first :: rest =>
    let others := rest.map (indent ++ ·)
    if left.length + 2 ≤ column then
      let gap := blanks (column - left.length)
      s!"  {left}{gap}{first}" :: others
    else s!"  {left}" :: (indent ++ first) :: others

/-- Rows of two columns. -/
def rowsLines (rows : List (String × String)) : List String :=
  let widest := rows.foldl (fun width row => max width row.1.length) 0
  let column := min widest columnLimit + 2
  rows.flatMap fun (left, right) => rowLines column left right

/-! ## Options -/

/-- The left column for an option. -/
def CommandOption.signature (option : CommandOption) : String :=
  let shortNames := option.names.filter isShortName
  let others := option.names.filter fun name => !isShortName name
  let names := ", ".intercalate (shortNames ++ others)
  match option.form with
  | .toggle opposite => s!"{names} / {opposite}"
  | .valued kind _ => s!"{names} {kind.placeholder}"
  | .repeated => s!"{names} TEXT"
  | _ => names

/-- The remarks on the values of an option. -/
def CommandOption.remarks (option : CommandOption) : List String :=
  match option.form with
  | .toggle _ =>
    let word := String.ofList (option.key.toList.drop 2)
    [s!"default: {word}"]
  | .valued kind absence =>
    let usual := match absence with
      | .usual value => [s!"default: {value.shown}"]
      | _ => []
    let required := if absence = .refused then ["required"] else []
    usual ++ kind.range?.toList ++ required
  | _ => []

/-- The right column for an option. -/
def CommandOption.description (option : CommandOption) : String :=
  match option.remarks with
  | [] => option.about
  | remarks =>
    let shown := "; ".intercalate remarks
    if option.about.isEmpty then s!"[{shown}]" else s!"{option.about}  [{shown}]"

/-! ## Commands -/

/-- A titled part of a description. -/
def titled (title : String) (lines : List String) : List String :=
  if lines.isEmpty then [] else "" :: s!"{title}:" :: lines

/-- The description of a command, with its subcommands and what they do. -/
def Command.help (command : Command) (subcommands : List (String × String)) : String :=
  let about := command.about.flatMap fun paragraph =>
    "" :: (wrapped (helpWidth - 2) paragraph).map ("  " ++ ·)
  let options := command.options.map fun option => (option.signature, option.description)
  "\n".intercalate
    (s!"Usage: {command.path} {command.usage}" :: about ++
      titled "Options" (rowsLines options) ++ titled "Commands" (rowsLines subcommands))

end NegativeCompile.CommandLine

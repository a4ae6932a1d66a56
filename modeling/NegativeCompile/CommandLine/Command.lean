import NegativeCompile.Number.Binary64.Written

/-! # Commands

What can be said to a command: its options, its arguments, and the values that both stand for. -/

namespace NegativeCompile.CommandLine

open Number

/-! ## Values -/

/-- What an option or an argument stands for. -/
inductive Value where
  /-- A text. -/
  | text (content : String)
  /-- A whole number. -/
  | whole (number : Int)
  /-- A floating point number. -/
  | real (number : Binary64)
  /-- Whether something is switched on. -/
  | flag (isOn : Bool)
  /-- Several texts. -/
  | texts (contents : List String)
  deriving DecidableEq, Repr, Inhabited

/-- A usual value as it is shown. -/
def Value.shown : Value → String
  | .text content => content
  | .whole number => toString number
  | .real number => number.written
  | .flag _ => ""
  | .texts contents => " ".intercalate contents

/-- Which texts a value can be given by. -/
inductive ValueKind where
  /-- Any text. -/
  | text
  /-- A whole number that is not below a bound. -/
  | wholeFrom (least : Int)
  /-- A floating point number that is above a bound. -/
  | realAbove (bound : Int)
  /-- One of some words. -/
  | word (words : List String)
  /-- The path of a file, which may have to be there. -/
  | file (isPresent : Bool)
  /-- The path of a directory. -/
  | directory
  deriving DecidableEq, Repr, Inhabited

namespace ValueKind

/-- The words for a kind. -/
def name : ValueKind → String
  | .text => "text"
  | .wholeFrom _ => "integer range"
  | .realAbove _ => "float range"
  | .word _ => "choice"
  | .file _ => "file"
  | .directory => "directory"

/-- What stands for a value of a kind in descriptions. -/
def placeholder : ValueKind → String
  | .text => "TEXT"
  | .wholeFrom _ => "INTEGER RANGE"
  | .realAbove _ => "FLOAT RANGE"
  | .word words =>
    let choices := "|".intercalate words
    s!"[{choices}]"
  | .file _ => "FILE"
  | .directory => "DIRECTORY"

/-- The numbers that a kind allows, if it allows only some. -/
def range? : ValueKind → Option String
  | .wholeFrom least => some s!"x>={least}"
  | .realAbove bound => some s!"x>{bound}"
  | _ => none

end ValueKind

/-- What it means that a value is not given. -/
inductive Absence where
  /-- The command cannot do its work. -/
  | refused
  /-- There is no value. -/
  | empty
  /-- The usual value stands for it. -/
  | usual (value : Value)
  deriving DecidableEq, Repr, Inhabited

/-! ## Options -/

/-- What can be asked for instead of a command's work. -/
inductive Inquiry where
  /-- A description of the command. -/
  | help
  /-- The version of the program. -/
  | version
  deriving DecidableEq, Repr, Inhabited

/-- How an option is used. -/
inductive OptionForm where
  /-- It asks for something instead of the command's work. -/
  | inquiry (subject : Inquiry)
  /-- It switches something on. -/
  | switch
  /-- It switches something on, which is usual, or off by another name. -/
  | toggle (opposite : String)
  /-- It is followed by a value, of which the last one counts. -/
  | valued (kind : ValueKind) (absence : Absence)
  /-- It is followed by a text, and all of them count. -/
  | repeated
  deriving DecidableEq, Repr, Inhabited

/-- An option. -/
structure CommandOption where
  /-- Its names; the first one stands for it. -/
  names : List String
  /-- How it is used. -/
  form : OptionForm
  /-- What it does, in one sentence. -/
  about : String
  deriving DecidableEq, Repr, Inhabited

namespace CommandOption

/-- The name that stands for an option. -/
def key (option : CommandOption) : String := option.names.headD ""

/-- All names of an option. -/
def allNames (option : CommandOption) : List String :=
  match option.form with
  | .toggle opposite => option.names ++ [opposite]
  | _ => option.names

/-- Whether a name has one dash and one letter. -/
def isShortName (name : String) : Bool := name.length = 2 && !name.startsWith "--"

/-- Whether an option is followed by a value. -/
def takesValue (option : CommandOption) : Bool :=
  match option.form with
  | .valued _ _ => true
  | .repeated => true
  | _ => false

/-- What a problem calls an option. -/
def label (option : CommandOption) : String :=
  " / ".intercalate (option.names.map fun name => s!"'{name}'")

end CommandOption

/-! ## Commands -/

/-- An argument. -/
structure Argument where
  /-- The name that descriptions use. -/
  name : String
  /-- Which texts it can be; all arguments that are left belong to one without a kind. -/
  kind : Option ValueKind
  deriving DecidableEq, Repr, Inhabited

/-- A command. -/
structure Command where
  /-- The words that it is called by. -/
  path : String
  /-- What follows these words. -/
  usage : String
  /-- What it does, in paragraphs. -/
  about : List String
  /-- Its arguments. -/
  arguments : List Argument
  /-- Its options. -/
  options : List CommandOption
  /-- Whether options may follow arguments. -/
  isInterspersed : Bool
  deriving DecidableEq, Repr, Inhabited

namespace Command

/-- The option of a name. -/
def option? (command : Command) (name : String) : Option CommandOption :=
  command.options.find? fun option => option.allNames.contains name

/-- The option of a name that is not short. -/
def longOption? (command : Command) (name : String) : Option CommandOption :=
  if CommandOption.isShortName name then none else command.option? name

/-- The names of options that are not short. -/
def longNames (command : Command) : List String :=
  (command.options.flatMap (·.allNames)).filter fun name => !CommandOption.isShortName name

end Command

end NegativeCompile.CommandLine

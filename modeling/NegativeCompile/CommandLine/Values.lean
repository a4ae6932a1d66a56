import NegativeCompile.CommandLine.Reader
import NegativeCompile.Failure
import NegativeCompile.Files.Access
import NegativeCompile.Number.Binary64.Reader
import NegativeCompile.World

/-! # Values on command lines

What the words of a command line stand for: the value of each option and argument, or what is asked
for instead. -/

namespace NegativeCompile.CommandLine

open Files Number Text

/-! ## Single values -/

/-- Why reading a command line stops. -/
inductive Halt where
  /-- It makes no sense. -/
  | usage (problem : UsageProblem)
  /-- The attempt fails. -/
  | failure (failure : Failure)
  deriving DecidableEq, Repr

/-- A path, if what it leads to fits; `noun` is the word for what it should lead to. -/
def fittingPath (place : Surroundings) (noun label path : String) (isPresent : Bool)
    (fits : Entry → Bool) (otherwise : String) : Except Halt Value := do
  if hasNull path then throw (.failure (.ofTrouble .nullCharacter))
  let shown := quotedString path
  match status place.tree place.here path with
  | .error _ =>
    if isPresent then throw (.usage (.valueInvalid label s!"{noun} {shown} does not exist."))
    return .text path
  | .ok entry =>
    if fits entry then return .text path
    throw (.usage (.valueInvalid label s!"{noun} {shown} is a {otherwise}."))

/-- The value of a kind that a text stands for; `label` is what problems call it. -/
def valueOfText (place : Surroundings) (label : String) (kind : ValueKind) (text : String) :
    Except Halt Value :=
  let invalid (reason : String) : Except Halt Value := throw (.usage (.valueInvalid label reason))
  let malformed := invalid s!"{quotedString text} is not a valid {kind.name}."
  let outside (shown : String) :=
    let range := kind.range?.getD ""
    invalid s!"{shown} is not in the range {range}."
  match kind with
  | .text => return .text text
  | .wholeFrom least =>
    match readInteger text.toList with
    | .error _ => malformed
    | .ok number => if number < least then outside (toString number) else return .whole number
  | .realAbove bound =>
    match Binary64.read text.toList with
    | none => malformed
    | some number =>
      let isAbove := !number.lt (.ofInt bound) && !number.beq (.ofInt bound)
      if isAbove then return .real number else outside number.written
  | .word words =>
    if words.contains text then return .text text
    else
      let choices := ", ".intercalate (words.map quotedString)
      invalid s!"{quotedString text} is not one of {choices}."
  | .file isPresent =>
    fittingPath place "File" label text isPresent (!·.isDirectory) "directory"
  | .directory => fittingPath place "Directory" label text false (!·.isFile) "file"

/-! ## All values -/

/-- The values of options and arguments, by their names. -/
abbrev Values := List (String × Value)

namespace Values

/-- The text that a name stands for. -/
def text? (values : Values) (name : String) : Option String :=
  match values.lookup name with
  | some (.text content) => some content
  | _ => none

/-- The text that a name stands for, or the empty text. -/
def text (values : Values) (name : String) : String := (values.text? name).getD ""

/-- The whole number that a name stands for. -/
def whole? (values : Values) (name : String) : Option Int :=
  match values.lookup name with
  | some (.whole number) => some number
  | _ => none

/-- The floating point number that a name stands for. -/
def real? (values : Values) (name : String) : Option Binary64 :=
  match values.lookup name with
  | some (.real number) => some number
  | _ => none

/-- Whether a name is switched on. -/
def flag (values : Values) (name : String) : Bool :=
  match values.lookup name with
  | some (.flag isOn) => isOn
  | _ => false

/-- The texts that a name stands for. -/
def texts (values : Values) (name : String) : List String :=
  match values.lookup name with
  | some (.texts contents) => contents
  | _ => []

end Values

/-- What an option stands for, given all uses of options. -/
def valueOfOption (place : Surroundings) (uses : List OptionUse) (option : CommandOption) :
    Except Halt Values := do
  let own := (uses.filter (·.option = option)).map (·.given)
  let named (value : Value) : Values := [(option.key, value)]
  match option.form with
  | .inquiry _ => return []
  | .switch => return named (.flag (!own.isEmpty))
  | .toggle _ => return named (.flag (own.getLast? != some (.switched false)))
  | .repeated => return named (.texts (own.filterMap Given.text?))
  | .valued kind absence =>
    match own.getLast?.bind Given.text?, absence with
    | some text, _ => return named (← valueOfText place option.label kind text)
    | none, .refused => throw (.usage (.optionMissing option.label))
    | none, .empty => return []
    | none, .usual value => return named value

/-- What some options stand for, given all uses of options. -/
def valuesOfOptions (place : Surroundings) (uses : List OptionUse) :
    List CommandOption → Except Halt Values
  | [] => .ok []
  | option :: rest => do
    let value ← valueOfOption place uses option
    return value ++ (← valuesOfOptions place uses rest)

/-- What the arguments stand for, and the words that belong to none. -/
def valuesOfArguments (place : Surroundings) (words : List String) :
    List Argument → Except Halt (Values × List String)
  | [] => .ok ([], words)
  | ⟨name, none⟩ :: rest => do
    let (values, others) ← valuesOfArguments place [] rest
    return ((name, .texts words) :: values, others)
  | ⟨name, some kind⟩ :: rest =>
    match words with
    | [] => throw (.usage (.argumentMissing name))
    | word :: later => do
      let value ← valueOfText place s!"'{name}'" kind word
      let (values, others) ← valuesOfArguments place later rest
      return ((name, value) :: values, others)

/-! ## Whole command lines -/

/-- What a command line asks for. -/
inductive Request where
  /-- Something other than the command's work. -/
  | inquiry (subject : Inquiry)
  /-- The command's work, with values and with the words that belong to none of them. -/
  | work (values : Values) (others : List String)
  deriving DecidableEq, Repr

/-- What the first inquiry among uses of options is about. -/
def inquiryOf? (uses : List OptionUse) : Option Inquiry :=
  uses.findSome? fun use => match use.option.form with
    | .inquiry subject => some subject
    | _ => none

/-- What the words after the name of a command ask for. Inquiries come before all else; then come
the options in the order of their first use, the arguments, and the options that are not used. -/
def Request.ofWords (place : Surroundings) (command : Command) (words : List String) :
    Except Halt Request := do
  let wording ← (Wording.ofWords command words).mapError .usage
  match inquiryOf? wording.uses with
  | some subject => return .inquiry subject
  | none =>
    let used := (wording.uses.map (·.option)).eraseDups
    let unused := command.options.filter fun option => !used.contains option
    let first ← valuesOfOptions place wording.uses used
    let (named, others) ← valuesOfArguments place wording.others command.arguments
    let last ← valuesOfOptions place wording.uses unused
    return .work (first ++ named ++ last) others

end NegativeCompile.CommandLine

import NegativeCompile.CommandLine.Command
import NegativeCompile.Text.Quoted

/-! # Reading command lines

The words after the name of a command, split into the options that are used and all other words, or
why a command line makes no sense. -/

namespace NegativeCompile.Text

/-! ## Near matches

How alike two words are, by the letters in common blocks, and the words of a list that are alike
enough to be suggested for a misspelt one. -/

/-- A block that two words share: where it starts in each and its length. -/
structure SharedBlock where
  /-- Where it starts in the first word. -/
  left : Nat
  /-- Where it starts in the second word. -/
  right : Nat
  /-- How many letters it has. -/
  size : Nat

/-- The number of letters that two words have in common from their start on. -/
def commonStart : List Char → List Char → Nat
  | c :: rest, d :: others => if c = d then commonStart rest others + 1 else 0
  | _, _ => 0

/-- The longest shared block that starts at the head of `word`, trying each start in `other`. -/
def longestAtHead (left right : Nat) (best : SharedBlock) (word : List Char) :
    List Char → SharedBlock
  | [] => best
  | d :: others =>
    let size := commonStart word (d :: others)
    longestAtHead left (right + 1) (if best.size < size then ⟨left, right, size⟩ else best) word
      others

/-- The longest block that two words share, the first one of several. -/
def longestShared (left : Nat) (best : SharedBlock) (other : List Char) :
    List Char → SharedBlock
  | [] => best
  | c :: rest =>
    longestShared (left + 1) (longestAtHead left 0 best (c :: rest) other) other rest

/-- The number of letters in the blocks that two words share, taken longest first and then on
either side of it; `fuel` bounds the number of nested blocks. -/
def sharedLetters : Nat → List Char → List Char → Nat
  | 0, _, _ => 0
  | fuel + 1, word, other =>
    let block := longestShared 0 ⟨0, 0, 0⟩ other word
    if block.size = 0 then 0
    else
      sharedLetters fuel (word.take block.left) (other.take block.right) + block.size +
        sharedLetters fuel (word.drop (block.left + block.size))
          (other.drop (block.right + block.size))

/-- How alike two words are, as twice the shared letters over all letters. -/
structure Likeness where
  /-- Twice the number of shared letters. -/
  shared : Nat
  /-- The number of letters of both words. -/
  total : Nat

/-- How alike two words are. -/
def likeness (word other : List Char) : Likeness :=
  ⟨2 * sharedLetters (word.length + 1) word other, word.length + other.length⟩

/-- Likeness of at least six tenths. -/
def Likeness.suffices (value : Likeness) : Bool := 3 * value.total ≤ 5 * value.shared

/-- Whether one likeness is less than another. -/
def Likeness.lt (value other : Likeness) : Bool :=
  value.shared * other.total < other.shared * value.total

/-- Insert a candidate before the first one that is less alike, or equally alike and not later in
the alphabet. -/
def insertNear (candidate : Likeness × String) :
    List (Likeness × String) → List (Likeness × String)
  | [] => [candidate]
  | first :: rest =>
    if first.1.lt candidate.1 || (!candidate.1.lt first.1 && decide (first.2 < candidate.2)) then
      candidate :: first :: rest
    else first :: insertNear candidate rest

/-- At most three of the candidates that are alike enough to a word, the most alike first. -/
def nearMatches (word : String) (candidates : List String) : List String :=
  let scored := candidates.map fun candidate =>
    (likeness candidate.toList word.toList, candidate)
  (((scored.filter (·.1.suffices)).foldr insertNear []).take 3).map (·.2)

end NegativeCompile.Text

namespace NegativeCompile.CommandLine

open Text

/-! ## Problems -/

/-- Why a command line makes no sense. -/
inductive UsageProblem where
  /-- No option has a name; some names are like it. -/
  | unknownOption (name : String) (near : List String)
  /-- The value of an option is missing. -/
  | valueMissing (name : String)
  /-- An option takes no value. -/
  | valueUnwanted (name : String)
  /-- An option is missing. -/
  | optionMissing (label : String)
  /-- An argument is missing. -/
  | argumentMissing (name : String)
  /-- There are arguments that belong to nothing. -/
  | argumentsUnwanted (arguments : List String)
  /-- A value does not fit. -/
  | valueInvalid (label reason : String)
  /-- No command has a name; some names are like it. -/
  | unknownCommand (name : String) (near : List String)
  /-- There is no command. -/
  | commandMissing
  deriving DecidableEq, Repr

namespace UsageProblem

/-- A question whether one of some names was meant. -/
def suggestion (near : List String) : String :=
  match near.mergeSort (fun name other => name ≤ other) with
  | [] => ""
  | [name] => s!" Did you mean '{name}'?"
  | names =>
    let shown := ", ".intercalate (names.map quotedString)
    s!" (Did you mean one of: {shown}?)"

/-- The wording of a problem. -/
def message : UsageProblem → String
  | .unknownOption name near =>
    s!"No such option {quotedString name}." ++ suggestion near
  | .valueMissing name => s!"Option {quotedString name} requires an argument."
  | .valueUnwanted name => s!"Option {quotedString name} does not take a value."
  | .optionMissing label => s!"Missing option {label}."
  | .argumentMissing name => s!"Missing argument '{name}'."
  | .argumentsUnwanted arguments =>
    let noun := if arguments.length = 1 then "argument" else "arguments"
    let shown := " ".intercalate arguments
    s!"Got unexpected extra {noun} ({shown})"
  | .valueInvalid label reason => s!"Invalid value for {label}: {reason}"
  | .unknownCommand name near =>
    s!"No such command {quotedString name}." ++ suggestion near
  | .commandMissing => "Missing command."

/-- Whether the usage of the command is shown before the wording. -/
def showsUsage : UsageProblem → Bool
  | .valueMissing _ => false
  | .valueUnwanted _ => false
  | _ => true

/-- The lines that report a problem of a command. -/
def report (problem : UsageProblem) (command : Command) : String :=
  let usage := if problem.showsUsage then
      s!"Usage: {command.path} {command.usage}\nTry '{command.path} --help' for help.\n\n"
    else ""
  s!"{usage}Error: {problem.message}"

end UsageProblem

/-! ## Words -/

/-- What the use of an option says. -/
inductive Given where
  /-- The text that it is followed by. -/
  | value (text : String)
  /-- That something is switched on or off. -/
  | switched (isOn : Bool)
  deriving DecidableEq, Repr, Inhabited

/-- The text that a use of an option gives. -/
def Given.text? : Given → Option String
  | .value text => some text
  | .switched _ => none

/-- One use of an option. -/
structure OptionUse where
  /-- The option. -/
  option : CommandOption
  /-- What is said about it. -/
  given : Given
  deriving DecidableEq, Repr, Inhabited

/-- The words of a command line, sorted out. -/
structure Wording where
  /-- The uses of options, in order. -/
  uses : List OptionUse
  /-- The other words, in order. -/
  others : List String
  deriving DecidableEq, Repr, Inhabited

/-- What one word says: uses of options, and an option with its name whose value is the next
word. -/
structure WordMeaning where
  /-- The uses of options, in order. -/
  uses : List OptionUse
  /-- The option that the next word belongs to, with the name it was called by. -/
  awaiting : Option (CommandOption × String)
  deriving DecidableEq, Repr, Inhabited

/-- Whether a word can be an option. -/
def looksLikeOption (word : String) : Bool := word.startsWith "-" && 1 < word.length

/-- The use of an option that takes no value, by one of its names. -/
def OptionUse.switched (option : CommandOption) (name : String) : OptionUse :=
  ⟨option, .switched (option.form != .toggle name)⟩

/-- A word at its first equals sign. -/
def splitValue (word : String) : String × Option String :=
  match word.toList.dropWhile (· ≠ '=') with
  | [] => (word, none)
  | _ :: rest =>
    (String.ofList (word.toList.takeWhile (· ≠ '=')), some (String.ofList rest))

/-- What an option says that is called by a name and maybe followed by a value in the same
word. -/
def WordMeaning.ofLong (option : CommandOption) (name : String) (value : Option String) :
    Except UsageProblem WordMeaning :=
  match option.takesValue, value with
  | true, some text => .ok ⟨[⟨option, .value text⟩], none⟩
  | true, none => .ok ⟨[], some (option, name)⟩
  | false, some _ => .error (.valueUnwanted name)
  | false, none => .ok ⟨[.switched option name], none⟩

/-- What some letters after one dash say; the rest of the word after an option with a value is that
value. -/
def WordMeaning.ofLetters (command : Command) : List Char → Except UsageProblem WordMeaning
  | [] => .ok ⟨[], none⟩
  | letter :: rest => do
    let name := String.ofList ['-', letter]
    match command.option? name with
    | none => throw (.unknownOption name [])
    | some option =>
      if option.takesValue then
        if rest.isEmpty then return ⟨[], some (option, name)⟩
        return ⟨[⟨option, .value (String.ofList rest)⟩], none⟩
      let others ← ofLetters command rest
      return { others with uses := .switched option name :: others.uses }

/-- What a word that can be an option says. -/
def WordMeaning.ofWord (command : Command) (word : String) : Except UsageProblem WordMeaning :=
  let (name, value) := splitValue word
  match command.longOption? name with
  | some option => ofLong option name value
  | none =>
    if word.startsWith "--" then
      .error (.unknownOption name (nearMatches name command.longNames))
    else ofLetters command (word.toList.drop 1)

/-- Sort out the words of a command line. Two dashes end the options; a word that is none ends them
too unless options may follow arguments. -/
def Wording.ofWords (command : Command) : List String → Except UsageProblem Wording
  | [] => .ok ⟨[], []⟩
  | word :: rest =>
    if word = "--" then .ok ⟨[], rest⟩
    else if !looksLikeOption word then
      if command.isInterspersed then do
        let wording ← ofWords command rest
        return { wording with others := word :: wording.others }
      else .ok ⟨[], word :: rest⟩
    else do
      let meaning ← WordMeaning.ofWord command word
      match meaning.awaiting, rest with
      | none, rest => do
        let wording ← ofWords command rest
        return { wording with uses := meaning.uses ++ wording.uses }
      | some (_, name), [] => throw (.valueMissing name)
      | some (option, _), value :: others => do
        let wording ← ofWords command others
        return { wording with uses := meaning.uses ++ ⟨option, .value value⟩ :: wording.uses }

end NegativeCompile.CommandLine

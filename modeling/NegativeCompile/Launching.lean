import NegativeCompile.World

/-! # Starting programs

Which file is started for a name, and why a program cannot be started. -/

namespace NegativeCompile

open Files Text

/-- The names of the directories in which programs are looked up, unless a variable gives them. -/
def defaultSearchPath : String := "/bin:/usr/bin"

/-- The variable that gives the directories in which programs are looked up. -/
def searchPathVariable : String := "PATH"

/-- The directories in a list with colons between them. -/
def searchDirectories (text : String) : List String :=
  (splitAtChar ':' text.toList).map String.ofList

/-- Whether a name is a path rather than one to look up. -/
def isPathName (name : String) : Bool := name.contains '/'

/-- A name in a directory. -/
def nameIn (directory name : String) : String :=
  if directory.isEmpty then name
  else if directory.endsWith "/" then directory ++ name
  else directory ++ "/" ++ name

/-- Whether a path leads to a file that may be started. -/
def isExecutable (tree : Tree) (here : Place) (path : String) : Bool :=
  !hasNull path && match status tree here path with
    | .ok (.file _ executable) => executable
    | _ => false

/-- The path of the program of a name, if there is one. -/
def findProgram (machine : Machine) (tree : Tree) (name : String) : Option String :=
  let candidates :=
    if isPathName name then [name]
    else
      let path := (machine.valueOf? searchPathVariable).getD defaultSearchPath
      if path.isEmpty then [] else (searchDirectories path).map (nameIn · name)
  candidates.find? (isExecutable tree machine.here)

/-! ## Programs -/

/-- The bytes that a program starts with. -/
def programMark : List UInt8 := [0x7f, 0x45, 0x4c, 0x46]

/-- The program named on the first line of a script. -/
def interpreterOf (content : List UInt8) : Option String :=
  match content with
  | 0x23 :: 0x21 :: rest =>
    let line := (decodeUtf8Lossy (rest.takeWhile (· ≠ 0x0a))).toList
    let isGap (c : Char) : Bool := c = ' ' || c = '\t'
    let name := (line.dropWhile isGap).takeWhile (!isGap ·)
    if name.isEmpty then none else some (String.ofList name)
  | _ => none

/-- How many scripts may call for one another. -/
def scriptLimit : Nat := 4

/-- The program that a path leads to, directly or through scripts. -/
def programAt (tree : Tree) (here : Place) : Nat → String → Except Fault Place
  | scripts, path => do
    match ← walk tree here true path with
    | ⟨place, some (.file content true)⟩ =>
      if programMark.isPrefixOf content then return place
      else match interpreterOf content, scripts with
        | some name, left + 1 => programAt tree here left name
        | _, _ => throw .noProgram
    | ⟨_, none⟩ => throw .missing
    | _ => throw .forbidden

/-- Whether a fault says only that there is nothing. -/
def Files.Fault.meansNothing (fault : Fault) : Bool := fault = .missing || fault = .notDirectory

/-- The first program among some paths; `first` is the first fault that says more than that there
is nothing. -/
def firstProgram (tree : Tree) (here : Place) (first : Option Fault) :
    List String → Except Fault Place
  | [] => .error (first.getD .missing)
  | path :: rest =>
    match programAt tree here scriptLimit path with
    | .ok place => .ok place
    | .error fault =>
      let kept := match first with
        | some earlier => some earlier
        | none => if fault.meansNothing && !rest.isEmpty then none else some fault
      firstProgram tree here kept rest

/-- What is needed to start a program: its name and arguments, the variables it sees and the
directory it runs in, unless it is the current one. -/
structure Command where
  /-- The name of the program. -/
  name : String
  /-- The arguments. -/
  arguments : List String
  /-- The variables. -/
  environment : List (String × String)
  /-- The directory. -/
  workdir : Option Path
  deriving DecidableEq, Repr, Inhabited

namespace Command

/-- The paths at which the program may be. -/
def candidates (command : Command) : List String :=
  if isPathName command.name then [command.name]
  else
    let path := (command.environment.lookup searchPathVariable).getD defaultSearchPath
    (searchDirectories path).map (nameIn · command.name)

/-- The texts that are handed over to the program. -/
def texts (command : Command) : List String :=
  command.name :: command.arguments ++ command.environment.flatMap fun entry => [entry.1, entry.2]

/-- The directory that the program runs in. -/
def directory (command : Command) (surroundings : Surroundings) : Except Trouble Place :=
  match command.workdir with
  | none => .ok surroundings.here
  | some path =>
    match walk surroundings.tree surroundings.here true path.toString with
    | .ok ⟨place, some .directory⟩ => .ok place
    | .ok ⟨_, some _⟩ => .error (troubleAt path.toString .notDirectory)
    | .ok ⟨_, none⟩ => .error (troubleAt path.toString .missing)
    | .error fault => .error (troubleAt path.toString fault)

/-- The start of the program. -/
def prepare (command : Command) (surroundings : Surroundings) : Except Trouble Launch := do
  if command.texts.any hasNull then throw .nullCharacter
  let directory ← command.directory surroundings
  match firstProgram surroundings.tree directory none command.candidates with
  | .ok place =>
    return ⟨place, command.name :: command.arguments, command.environment, directory⟩
  | .error fault => throw (troubleAt command.name fault)

end Command

end NegativeCompile

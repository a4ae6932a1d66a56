import NegativeCompile.Files.Tree
import NegativeCompile.Text.Quoted

/-! # Walking along paths

Finding what a path leads to, following the links on the way, and the texts of paths without
links. -/

namespace NegativeCompile.Files

open Text

/-! ## Faults of the file system

Why an operation on files fails, with the number and the wording of each cause. -/

/-- Why an operation on files fails. -/
inductive Fault where
  /-- Something on the way does not exist. -/
  | missing
  /-- A program is no program. -/
  | noProgram
  /-- It is not allowed. -/
  | forbidden
  /-- Something is there already. -/
  | present
  /-- Something on the way is no directory. -/
  | notDirectory
  /-- It is a directory. -/
  | isDirectory
  /-- A name is too long. -/
  | longName
  /-- Links lead round in a circle. -/
  | linkLoop
  deriving DecidableEq, Repr

/-- The number of a fault. -/
def Fault.number : Fault → Nat
  | .missing => 2
  | .noProgram => 8
  | .forbidden => 13
  | .present => 17
  | .notDirectory => 20
  | .isDirectory => 21
  | .longName => 36
  | .linkLoop => 40

/-- The wording of a fault. -/
def Fault.reason : Fault → String
  | .missing => "No such file or directory"
  | .noProgram => "Exec format error"
  | .forbidden => "Permission denied"
  | .present => "File exists"
  | .notDirectory => "Not a directory"
  | .isDirectory => "Is a directory"
  | .longName => "File name too long"
  | .linkLoop => "Too many levels of symbolic links"

/-- A fault at a path. -/
structure Refusal where
  /-- The cause. -/
  fault : Fault
  /-- The path as it was given. -/
  path : String
  deriving DecidableEq, Repr

/-- The wording of a refusal. -/
def Refusal.message (refusal : Refusal) : String :=
  s!"[Errno {refusal.fault.number}] {refusal.fault.reason}: {quotedString refusal.path}"

/-- How using a path can go wrong. -/
inductive Trouble where
  /-- The file system refuses. -/
  | refusal (refusal : Refusal)
  /-- The path holds a character that no path can hold. -/
  | nullCharacter
  deriving DecidableEq, Repr

/-! ## Walks -/

/-- How many links may be followed on one walk. -/
def linkLimit : Nat := 40

/-- The longest name in bytes. -/
def nameLimit : Nat := 255

/-- The longest path in bytes. -/
def pathLimit : Nat := 4095

/-- Where a walk ends: at an entry, or at a name that its directory does not hold. -/
structure Arrival where
  /-- The place. -/
  place : Place
  /-- What lies there, if anything. -/
  entry : Option Entry
  deriving Repr

/-- The steps that a text of a path asks for: a slash at the end asks for the directory itself. -/
def stepsOf (text : String) : List String :=
  (slashPieces text).filter (· != "") ++ (if text.endsWith "/" then ["."] else [])

/-- Walk on from a directory; `follow` tells whether a link at the very end is followed. -/
def walkFrom (tree : Tree) (follow : Bool) (links : Nat) (place : Place) :
    List String → Except Fault Arrival
  | [] => .ok ⟨place, tree.entry? place⟩
  | step :: rest =>
    match tree.entry? place with
    | some .directory =>
      if step = "." then walkFrom tree follow links place rest
      else if step = ".." then walkFrom tree follow links place.dropLast rest
      else if nameLimit < step.utf8ByteSize then .error .longName
      else
        let next := place ++ [step]
        match tree.entry? next with
        | none => if rest.isEmpty then .ok ⟨next, none⟩ else .error .missing
        | some (.link target) =>
          if rest.isEmpty && !follow then .ok ⟨next, some (.link target)⟩
          else match links with
            | 0 => .error .linkLoop
            | left + 1 =>
              let origin := if target.startsWith "/" then [] else place
              walkFrom tree follow left origin (stepsOf target ++ rest)
        | some _ => walkFrom tree follow links next rest
    | _ => .error .notDirectory
termination_by steps => (links, steps.length)

/-- Walk along a path from a directory. -/
def walk (tree : Tree) (start : Place) (follow : Bool) (text : String) : Except Fault Arrival :=
  if text.isEmpty then .error .missing
  else if pathLimit < text.utf8ByteSize then .error .longName
  else walkFrom tree follow linkLimit (if text.startsWith "/" then [] else start) (stepsOf text)

/-- What a path leads to. -/
def status (tree : Tree) (start : Place) (text : String) : Except Fault Entry := do
  match (← walk tree start true text).entry with
  | some entry => return entry
  | none => .error .missing

/-- What lies at a path, a link at its end not being followed. -/
def linkStatus (tree : Tree) (start : Place) (text : String) : Except Fault Entry := do
  match (← walk tree start false text).entry with
  | some entry => return entry
  | none => .error .missing

/-- Whether a path leads to a file. -/
def leadsToFile (tree : Tree) (start : Place) (text : String) : Bool :=
  match status tree start text with
  | .ok entry => entry.isFile
  | .error _ => false

/-- Whether a path leads to a directory. -/
def leadsToDirectory (tree : Tree) (start : Place) (text : String) : Bool :=
  match status tree start text with
  | .ok entry => entry.isDirectory
  | .error _ => false

/-! ## Paths without links -/

/-- What is known of the links met on the way: nothing while a link is being followed, then what it
leads to. -/
abbrev KnownLinks := List (Path × Option Path)

/-- The outcome of following names: the path reached, whether it was reached without going round in
a circle, and the links met. -/
structure Resolution where
  /-- The path reached. -/
  path : Path
  /-- Whether no circle was met. -/
  complete : Bool
  /-- The links met. -/
  known : KnownLinks

/-- Go up one level: a path that has no part left but double dots gets one more. -/
def goUp (path : Path) : Path :=
  if path.parts.getLast? = some ".." || (path.parts.isEmpty && !path.isAbsolute) then
    { path with parts := path.parts ++ [".."] }
  else path.parent

/-- Follow names from a path on. A name that does not exist is kept as it is; `fuel` bounds the
number of names and links. -/
def resolveFrom (tree : Tree) (start : Place) :
    Nat → Path → KnownLinks → List String → Resolution
  | 0, path, known, _ => ⟨path, false, known⟩
  | _ + 1, path, known, [] => ⟨path, true, known⟩
  | fuel + 1, path, known, step :: rest =>
    if !isPart step then resolveFrom tree start fuel path known rest
    else if step = ".." then resolveFrom tree start fuel (goUp path) known rest
    else
      let next := path.append step
      match linkStatus tree start next.toString with
      | .ok (.link target) =>
        match known.lookup next with
        | some (some reached) => resolveFrom tree start fuel reached known rest
        | some none => ⟨next.join ⟨0, rest.filter isPart⟩, false, known⟩
        | none =>
          let origin := if target.startsWith "/" then ⟨1, []⟩ else path
          let reached :=
            resolveFrom tree start fuel origin ((next, none) :: known) (slashPieces target)
          if reached.complete then
            resolveFrom tree start fuel reached.path
              ((next, some reached.path) :: reached.known) rest
          else ⟨reached.path.join ⟨0, rest.filter isPart⟩, false, reached.known⟩
      | _ => resolveFrom tree start fuel next known rest

/-- How many names and links following a path can meet at most. While a link is followed it can be met
under its absolute path and under one relative path for each level that leads up from the start. -/
def resolveFuel (tree : Tree) (start : Place) (path : Path) : Nat :=
  let longest := tree.targets.foldl (fun most target => max most target.length) 0
  path.toString.length + (tree.targets.length * (start.length + 2) + 1) * (longest + 2) + 2

/-- Why a path cannot be resolved. -/
inductive ResolveProblem where
  /-- Its links lead round in a circle. -/
  | linkLoop (path : String)
  /-- It holds a character that no path can hold. -/
  | nullCharacter
  deriving DecidableEq, Repr

/-- The absolute path without links that a path leads to; what does not exist is kept as it is. -/
def resolve (tree : Tree) (start : Place) (path : Path) : Except ResolveProblem Path :=
  if path.parts.any (·.contains '\x00') then .error .nullCharacter
  else
    let origin : Path := if path.isAbsolute then ⟨1, []⟩ else ⟨0, []⟩
    let reached := resolveFrom tree start (resolveFuel tree start path) origin [] path.parts
    let absolute := (⟨1, ((Path.ofParts start).join reached.path).parts⟩ : Path).normalize
    match status tree start absolute.toString with
    | .error .linkLoop => .error (.linkLoop absolute.toString)
    | _ => .ok absolute

end NegativeCompile.Files

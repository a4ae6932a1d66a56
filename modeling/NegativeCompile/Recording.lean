import NegativeCompile.Json.Reader
import NegativeCompile.World

/-! # Recorded machines

A document that holds what a program finds on a machine: files, variables, and what the programs
on it print. A run on a recorded machine is the same each time. -/

namespace NegativeCompile.Recording

open Files

/-! ## Reading -/

/-- The text of a member, or a usual one. -/
def textOf (document : Json) (name usual : String) : String :=
  match document.get? name with
  | some (.string value) => value
  | _ => usual

/-- The members of a member whose values are texts. -/
def textsByName (document : Json) (name : String) : List (String × String) :=
  match document.get? name with
  | some (.object members) => members.filterMap fun (key, value) => match value with
      | .string text => some (key, text)
      | _ => none
  | _ => []

/-- The items of a member. -/
def itemsOf (document : Json) (name : String) : List Json :=
  match document.get? name with
  | some (.array items) => items
  | _ => []

/-- The texts among the items of a member. -/
def textsOf (document : Json) (name : String) : List String :=
  (itemsOf document name).filterMap fun item => match item with
    | .string text => some text
    | _ => none

/-! ## Programs -/

/-- What a program printed for some arguments and how it ended. -/
structure RecordedRun where
  /-- The arguments. -/
  arguments : List String
  /-- How it ended. -/
  ending : Ending
  deriving DecidableEq, Repr, Inhabited

/-- The recorded run of a document. A program without a number at the end never ends. -/
def RecordedRun.ofJson (document : Json) : RecordedRun where
  arguments := textsOf document "arguments"
  ending :=
    { printed := Text.encodeUtf8 (textOf document "printed" "")
      code := match document.get? "code" with
        | some (.integer code) => some code
        | _ => none
      duration := .zero }

/-- How a program ends of which nothing is recorded: it prints nothing and succeeds. -/
def silence : Ending := ⟨[], some 0, .zero⟩

/-- What happens when a program is started, as recorded; the program's own name does not count. -/
def replay (runs : List RecordedRun) (launch : Launch) : Ending :=
  match runs.find? (·.arguments = launch.arguments.drop 1) with
  | some found => found.ending
  | none => silence

/-! ## Machines and worlds -/

/-- The directory that the program is called in. -/
def hereOf (document : Json) : Place := (Path.ofString (textOf document "directory" "/")).parts

/-- A place of a path, seen from the directory that the program is called in. -/
def placeOf (document : Json) (path : String) : Place :=
  ((Path.ofParts (hereOf document)).append path).parts

/-- Put an entry at a path, with the directories above it. -/
def put (document : Json) (tree : Tree) (path : String) (entry : Entry) : Tree :=
  let place := placeOf document path
  (tree.setDirectories place.dropLast).set place entry

/-- The files of a document. -/
def treeOf (document : Json) : Tree :=
  let programs := textsOf document "programs"
  let start := Tree.empty.setDirectories (hereOf document)
  let files := (textsByName document "files").foldl (fun tree (path, text) =>
    put document tree path (.file (Text.encodeUtf8 text) (programs.contains path))) start
  (textsByName document "links").foldl (fun tree (path, target) =>
    put document tree path (.link target)) files

/-- The machine of a document. -/
def machineOf (document : Json) : Machine where
  here := hereOf document
  environment := textsByName document "environment"
  homes := textsByName document "homes"
  extensions := [.header]
  now := textOf document "now" "1970-01-01T00:00:00Z"
  execute := replay ((itemsOf document "runs").map .ofJson)

/-- The world of a document. -/
def worldOf (document : Json) (isTerminal : Bool) : World where
  tree := treeOf document
  registry := .standard
  isExtended := false
  console := .blank isTerminal
  logging := .bare

end NegativeCompile.Recording

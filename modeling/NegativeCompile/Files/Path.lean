import NegativeCompile.Text.Blank

/-! # Paths

Paths as texts name them, without looking at any files: a path is absolute or not and has parts.
Empty parts and single dots do not count, double dots are kept. A first part that starts with a tilde
stands for the home directory of a user. -/

namespace NegativeCompile.Files

open Text

/-- A path. -/
structure Path where
  /-- The number of slashes it starts with: none, one, or the exceptional two. -/
  slashes : Nat
  /-- The names between the slashes. -/
  parts : List String
  deriving DecidableEq, Repr, Inhabited

/-- The pieces of a text between slashes. -/
def slashPieces (text : String) : List String :=
  (splitAtChar '/' text.toList).map String.ofList

/-- Whether a piece of a path counts as a part. -/
def isPart (piece : String) : Bool := piece != "" && piece != "."

namespace Path

/-- The number of slashes that count at the start of a text: more than two count as one. -/
def leadingSlashes (text : List Char) : Nat :=
  match (text.takeWhile (· = '/')).length with
  | 0 => 0
  | 2 => 2
  | _ => 1

/-- The path that a text names. -/
def ofString (text : String) : Path :=
  ⟨leadingSlashes text.toList, (slashPieces text).filter isPart⟩

/-- The text that names a path. -/
def toString (path : Path) : String :=
  let body := "/".intercalate path.parts
  let text := String.ofList (List.replicate path.slashes '/') ++ body
  if text.isEmpty then "." else text

/-- A path is shown as its text. -/
instance : ToString Path := ⟨toString⟩

/-- The absolute path with the given parts. -/
def ofParts (parts : List String) : Path := ⟨1, parts⟩

/-- Whether a path is absolute. -/
def isAbsolute (path : Path) : Bool := path.slashes ≠ 0

/-- A path seen from another one; an absolute path stays as it is. -/
def join (base path : Path) : Path :=
  if path.isAbsolute then path else ⟨base.slashes, base.parts ++ path.parts⟩

/-- The path of a text seen from another path. -/
def append (base : Path) (text : String) : Path := base.join (ofString text)

/-- The last part of a path, or nothing. -/
def name (path : Path) : String := path.parts.getLast?.getD ""

/-- The path without its last part. -/
def parent (path : Path) : Path := { path with parts := path.parts.dropLast }

/-- What a name ends in from its last dot on, unless the dot is its first or last character. -/
def suffixOf (name : String) : String :=
  let ending := name.toList.reverse.takeWhile (· ≠ '.')
  let before := name.length - ending.length
  if 2 ≤ before && !ending.isEmpty then String.ofList ('.' :: ending.reverse) else ""

/-- The suffix of a path's name. -/
def suffix (path : Path) : String := suffixOf path.name

/-- The parts of a path, with the root as a part of its own. -/
def allParts (path : Path) : List String :=
  if path.slashes = 0 then path.parts
  else String.ofList (List.replicate path.slashes '/') :: path.parts

/-- Whether one path comes before another in the order of their parts. -/
def lt (path other : Path) : Bool := decide (path.allParts < other.allParts)

/-- Take a double dot back against the part before it. -/
def foldParts (isAbsolute : Bool) (kept : List String) : List String → List String
  | [] => kept.reverse
  | part :: rest =>
    if part != ".." then foldParts isAbsolute (part :: kept) rest
    else match kept with
      | [] => foldParts isAbsolute (if isAbsolute then [] else [".."]) rest
      | last :: before =>
        if last == ".." then foldParts isAbsolute (".." :: kept) rest
        else foldParts isAbsolute before rest

/-- The path with each double dot taken back against the part before it. -/
def normalize (path : Path) : Path :=
  { path with parts := foldParts path.isAbsolute [] path.parts }

/-- The rest of a path below another one. -/
def below? (path base : Path) : Option Path :=
  if path.slashes = base.slashes && base.parts.isPrefixOf path.parts then
    some ⟨0, path.parts.drop base.parts.length⟩
  else none

end Path

/-! ## Home directories -/

/-- Where users are at home. -/
structure Homes where
  /-- The home directory of the present user, if it is known. -/
  own : Option String
  /-- The home directories of users. -/
  users : List (String × String)
  deriving Repr, Inhabited

/-- Why a tilde cannot be replaced. -/
inductive HomeProblem where
  /-- No home directory is known. -/
  | unknown
  /-- The name of the user holds a character that no name can hold. -/
  | nullCharacter
  deriving DecidableEq, Repr

/-- The home directory that a part starting with a tilde stands for. -/
def Homes.find (homes : Homes) (part : String) : Except HomeProblem String :=
  let name := String.ofList (part.toList.drop 1)
  if name.contains '\x00' then .error .nullCharacter
  else
    match if name.isEmpty then homes.own else homes.users.lookup name with
    | none => .error .unknown
    | some home => .ok home

/-- A path with the home directory put in for a tilde at its start. -/
def Path.expandHome (homes : Homes) (path : Path) : Except HomeProblem Path :=
  match path.parts with
  | [] => .ok path
  | first :: rest =>
    if path.isAbsolute || !first.startsWith "~" then .ok path
    else do
      let home ← homes.find first
      let root := Path.ofString (if home.isEmpty then "/" else home)
      return { root with parts := root.parts ++ rest }

end NegativeCompile.Files

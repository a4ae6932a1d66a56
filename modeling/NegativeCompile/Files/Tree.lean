import NegativeCompile.Files.Path

/-! # Trees of files

A tree of directories, files and links. Every entry has a place, the list of the names that lead to
it from the root; no link is followed here. -/

namespace NegativeCompile.Files

/-- The place of an entry: the names that lead to it from the root. -/
abbrev Place := List String

/-- What lies at a place. -/
inductive Entry where
  /-- A directory. -/
  | directory
  /-- A file. -/
  | file (content : List UInt8) (executable : Bool)
  /-- A link to another path. -/
  | link (target : String)
  deriving DecidableEq, Repr, Inhabited

/-- Whether an entry is a directory. -/
def Entry.isDirectory : Entry → Bool
  | .directory => true
  | _ => false

/-- Whether an entry is a file. -/
def Entry.isFile : Entry → Bool
  | .file _ _ => true
  | _ => false

/-- Where an entry leads if it is a link. -/
def Entry.target? : Entry → Option String
  | .link target => some target
  | _ => none

/-- A tree of files: each place with what lies there. The root is always a directory. -/
structure Tree where
  /-- The entries other than the root. -/
  entries : List (Place × Entry)
  deriving Repr, Inhabited

namespace Tree

/-- The tree with nothing but the root. -/
def empty : Tree := ⟨[]⟩

/-- What lies at a place. -/
def entry? (tree : Tree) (place : Place) : Option Entry :=
  if place.isEmpty then some .directory else tree.entries.lookup place

/-- Replace an entry where it is, or add it at the end. -/
def setIn (place : Place) (entry : Entry) : List (Place × Entry) → List (Place × Entry)
  | [] => [(place, entry)]
  | first :: rest =>
    if first.1 = place then (place, entry) :: rest else first :: setIn place entry rest

/-- The tree with an entry put at a place. -/
def set (tree : Tree) (place : Place) (entry : Entry) : Tree :=
  ⟨setIn place entry tree.entries⟩

/-- The tree with a directory at a place and at every place above it. -/
def setDirectories (tree : Tree) (place : Place) : Tree :=
  (List.range place.length).foldl (fun tree count =>
    let above := place.take (count + 1)
    if (tree.entry? above).isSome then tree else tree.set above .directory) tree

/-- The tree without a place and everything below it. -/
def remove (tree : Tree) (place : Place) : Tree :=
  ⟨tree.entries.filter fun entry => !place.isPrefixOf entry.1⟩

/-- The names in a directory, with what lies there. -/
def children (tree : Tree) (place : Place) : List (String × Entry) :=
  tree.entries.filterMap fun (other, entry) =>
    match other.getLast? with
    | some name => if other.dropLast = place then some (name, entry) else none
    | none => none

/-- The entries below a place, each with the names that lead there from it. -/
def below (tree : Tree) (place : Place) : List (Place × Entry) :=
  tree.entries.filterMap fun (other, entry) =>
    if place.isPrefixOf other && place.length < other.length then
      some (other.drop place.length, entry)
    else none

/-- Where the links of a tree lead. -/
def targets (tree : Tree) : List String := tree.entries.filterMap (·.2.target?)

/-- An entry that was just set is found at its place. -/
theorem lookup_setIn_self (place : Place) (entry : Entry) (entries : List (Place × Entry)) :
    (setIn place entry entries).lookup place = some entry := by
  induction entries with
  | nil => simp [setIn]
  | cons first rest ih =>
    by_cases same : first.1 = place
    · simp [setIn, same]
    · obtain ⟨other, value⟩ := first
      have unequal : (place == other) = false := by
        simpa using fun h => same h.symm
      simp only [setIn] at same ⊢
      simp [same, List.lookup_cons, unequal, ih]

end Tree

end NegativeCompile.Files

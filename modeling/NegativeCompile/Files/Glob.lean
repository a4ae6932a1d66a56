import NegativeCompile.Files.Walk
import NegativeCompile.Wildcard

/-! # Finding files by pattern

The paths of a tree that match a path with wildcards. Two stars as a whole part stand for any
number of directories, so also for the path before them as it is; a name that starts with a dot is
matched only by a part that does. -/

namespace NegativeCompile.Files

/-- Whether a name is hidden. -/
def isHidden (name : String) : Bool := name.startsWith "."

/-- The names in the directory that a path leads to; `onlyDirectories` keeps those that lead to
directories. -/
def namesIn (tree : Tree) (start : Place) (path : Path) (onlyDirectories : Bool) : List String :=
  match walk tree start true path.toString with
  | .ok ⟨place, some .directory⟩ =>
    let names := (tree.children place).map (·.1)
    if onlyDirectories then
      names.filter fun name => leadsToDirectory tree start (path.append name).toString
    else names
  | _ => []

/-- The paths below a directory, through directories that are not hidden; `fuel` bounds the
depth. -/
def pathsBelow (tree : Tree) (start : Place) (onlyDirectories : Bool) :
    Nat → Path → List Path
  | 0, _ => []
  | fuel + 1, path =>
    ((namesIn tree start path onlyDirectories).filter (!isHidden ·)).flatMap fun name =>
      path.append name :: pathsBelow tree start onlyDirectories fuel (path.append name)

/-- The greatest depth that paths can have: every directory, and each once more for each link that
can be followed. -/
def depthLimit (tree : Tree) : Nat := (tree.entries.length + 1) * (linkLimit + 1) + 1

/-- The paths that one part of a pattern stands for in a directory. -/
def matchesIn (tree : Tree) (start : Place) (onlyDirectories : Bool) (part : String)
    (directory : Path) : List Path :=
  if part = "**" then
    directory :: pathsBelow tree start onlyDirectories (depthLimit tree) directory
  else if Wildcard.hasMagic part then
    let names := namesIn tree start directory onlyDirectories
    let shown := if isHidden part then names else names.filter (!isHidden ·)
    (shown.filter (Wildcard.matchesName part)).map directory.append
  else
    let path := directory.append part
    if (linkStatus tree start path.toString).toOption.isSome then [path] else []

/-- The paths that the parts of a pattern, last first, stand for. -/
def matchesOf (tree : Tree) (start : Place) (slashes : Nat) (onlyDirectories : Bool) :
    List String → List Path
  | [] => [⟨slashes, []⟩]
  | part :: before =>
    let plain := !(part :: before).any Wildcard.hasMagic
    if plain then
      let path : Path := ⟨slashes, (part :: before).reverse⟩
      if onlyDirectories || (linkStatus tree start path.toString).toOption.isSome then [path]
      else []
    else
      (matchesOf tree start slashes true before).flatMap
        (matchesIn tree start onlyDirectories part)

/-- The paths that match a path with wildcards, in no particular order. -/
def glob (tree : Tree) (start : Place) (pattern : Path) : List Path :=
  matchesOf tree start pattern.slashes false pattern.parts.reverse

end NegativeCompile.Files

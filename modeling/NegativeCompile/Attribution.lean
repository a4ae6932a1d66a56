import NegativeCompile.Failure

/-! # Attribution

Whether a file that the compiler names is a given fragment. An absolute name must be the fragment's
resolved path; a relative one may lead there from the directory in which the compiler ran, or be
what the resolved path ends in. -/

namespace NegativeCompile

open Files Text

/-- Where things are looked up: a tree of files and the current directory in it. -/
structure Surroundings where
  /-- The files. -/
  tree : Tree
  /-- The current directory. -/
  here : Place
  deriving Repr, Inhabited

namespace Surroundings

/-- The absolute path without links that a path leads to. -/
def resolve (surroundings : Surroundings) (path : Path) : Except Failure Path :=
  match Files.resolve surroundings.tree surroundings.here path with
  | .ok resolved => .ok resolved
  | .error problem => .error (.ofResolveProblem problem)

/-- Whether a reported file is the one at a path; the compiler may have run in a directory of its
own. -/
def sameFile (surroundings : Surroundings) (reported : String) (path : Path)
    (workdir : Option Path) : Except Failure Bool := do
  let slashed := reported.map fun c => if c = '\\' then '/' else c
  let name := Path.ofString slashed
  if name.isAbsolute || reported.startsWith "/" then
    let target ← surroundings.resolve path
    return (Path.ofString reported).normalize = target.normalize
  else
    let ledThere ← match workdir with
      | none => pure false
      | some directory => do
        let candidate ← surroundings.resolve (directory.join name)
        let target ← surroundings.resolve path
        pure (decide (candidate = target))
    if ledThere then return true
    else if name.parts.isEmpty || name.parts.contains ".." then
      return name.name == path.name
    else
      let target ← surroundings.resolve path
      return name.parts.isSuffixOf target.allParts

end Surroundings

end NegativeCompile

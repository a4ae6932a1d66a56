import NegativeCompile.Files.Walk

/-! # Reading and writing files

Reading files, making directories and writing files in a tree. What was done before a failure stays
done. -/

namespace NegativeCompile.Files

/-- A step that changes a tree and may fail. -/
abbrev Filing := ExceptT Trouble (StateM Tree)

/-- The trouble of a fault at a path. -/
def troubleAt (path : String) (fault : Fault) : Trouble := .refusal ⟨fault, path⟩

/-- Whether a text can name a path at all. -/
def hasNull (path : String) : Bool := path.contains '\x00'

/-- The bytes of the file that a path leads to. -/
def readBytes (tree : Tree) (start : Place) (path : String) : Except Trouble (List UInt8) :=
  if hasNull path then .error .nullCharacter
  else match status tree start path with
    | .error fault => .error (troubleAt path fault)
    | .ok .directory => .error (troubleAt path .isDirectory)
    | .ok (.file content _) => .ok content
    | .ok (.link _) => .error (troubleAt path .linkLoop)

/-- Whether a fault just means that nothing is there. -/
def Fault.meansAbsent : Fault → Bool
  | .missing => true
  | .notDirectory => true
  | .linkLoop => true
  | _ => false

/-- Whether a path leads to something of a kind; only a fault that does not mean absence fails. -/
def testStatus (tree : Tree) (start : Place) (path : String) (isKind : Entry → Bool) :
    Except Trouble Bool :=
  if hasNull path then .ok false
  else match status tree start path with
    | .ok entry => .ok (isKind entry)
    | .error fault => if fault.meansAbsent then .ok false else .error (troubleAt path fault)

/-- Whether a path leads to a file. -/
def isFile (tree : Tree) (start : Place) (path : String) : Except Trouble Bool :=
  testStatus tree start path Entry.isFile

/-- Make a directory at a path where nothing is. -/
def makeDirectory (start : Place) (path : String) : Filing Unit := do
  if hasNull path then throw .nullCharacter
  let tree ← get
  match walk tree start false path with
  | .error fault => throw (troubleAt path fault)
  | .ok ⟨_, some _⟩ => throw (troubleAt path .present)
  | .ok ⟨place, none⟩ => set (tree.set place .directory)

/-- Make a directory at a path, and those above it, unless they are there; `fuel` bounds the number
of levels. -/
def makeDirectoriesFrom (start : Place) : Nat → Path → Filing Unit
  | 0, path => makeDirectory start path.toString
  | fuel + 1, path => do
    let text := path.toString
    try makeDirectory start text
    catch trouble =>
      let settle : Filing Unit := do
        match testStatus (← get) start text Entry.isDirectory with
        | .ok true => return
        | .ok false => throw trouble
        | .error other => throw other
      match trouble with
      | .nullCharacter => throw trouble
      | .refusal ⟨.missing, _⟩ =>
        if path.parts.isEmpty then throw trouble
        makeDirectoriesFrom start fuel path.parent
        try makeDirectory start text
        catch again =>
          match again with
          | .nullCharacter => throw again
          | .refusal ⟨.missing, _⟩ => throw again
          | _ => settle
      | _ => settle

/-- Make a directory at a path, and those above it, unless they are there. -/
def makeDirectories (start : Place) (path : Path) : Filing Unit :=
  makeDirectoriesFrom start (path.parts.length + 1) path

/-- Write a file at a path, in place of the one that is there. -/
def writeBytes (start : Place) (path : String) (content : List UInt8) : Filing Unit := do
  if hasNull path then throw .nullCharacter
  let tree ← get
  match walk tree start true path with
  | .error fault => throw (troubleAt path fault)
  | .ok ⟨_, some .directory⟩ => throw (troubleAt path .isDirectory)
  | .ok ⟨place, some (.file _ executable)⟩ => set (tree.set place (.file content executable))
  | .ok ⟨place, _⟩ => set (tree.set place (.file content false))

end NegativeCompile.Files

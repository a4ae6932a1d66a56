import NegativeCompile.Yaml.Node
import NegativeCompile.Yaml.Token

/-! # Reading nodes

The nodes that tokens stand for. A reference gives the number of the node that was marked. -/

namespace NegativeCompile.Yaml

/-- The tokens still to be read, the nodes so far, and the meanings of marks and handles. -/
structure Source where
  /-- The tokens still to be read. -/
  tokens : List Token
  /-- The nodes so far. -/
  graph : NodeGraph
  /-- The nodes that have been marked. -/
  marked : List (String × NodeNumber)
  /-- What the handles of tags stand for. -/
  handles : List (String × String)

/-- A step of reading nodes. -/
abbrev NodeReader := StateT Source (Except Problem)

namespace NodeReader

/-- The next token; where a problem was found, it is reported. -/
def peek : NodeReader Token := do
  match (← get).tokens with
  | [] => throw .malformed
  | .broken problem :: _ => throw problem
  | token :: _ => return token

/-- Go past the next token. -/
def advance : NodeReader Unit := modify fun source => { source with tokens := source.tokens.drop 1 }

/-- Go past the next token if it is a given one. -/
def accept (token : Token) : NodeReader Bool := do
  if (← peek) = token then
    advance
    return true
  else return false

/-- Whether the next token is one of some. -/
def isAt (tokens : List Token) : NodeReader Bool := do return tokens.contains (← peek)

/-! ## Properties -/

/-- The mark and the tag of a node. -/
structure Properties where
  /-- The mark. -/
  anchor : Option String
  /-- The tag. -/
  tag : Option String

/-- The full text of a tag. -/
def fullTag (handle : Option String) (suffix : String) : NodeReader String := do
  match handle with
  | none => return suffix
  | some name =>
    match (← get).handles.lookup name with
    | some meaning => return meaning ++ suffix
    | none => throw .malformed

/-- Read a tag as it is written if one comes next. -/
def readTag : NodeReader (Option (Option String × String)) := do
  match ← peek with
  | .tag handle suffix => do
    advance
    return some (handle, suffix)
  | _ => return none

/-- The full text of a tag that may be missing. -/
def settleTag (written : Option (Option String × String)) : NodeReader (Option String) :=
  match written with
  | none => return none
  | some (handle, suffix) => do return some (← fullTag handle suffix)

/-- Read a mark if one comes next. -/
def readAnchor : NodeReader (Option String) := do
  match ← peek with
  | .anchor name => do
    advance
    return some name
  | _ => return none

/-- Read the mark and the tag that come next, in either order. -/
def readProperties : NodeReader Properties := do
  match ← readAnchor with
  | some name => return ⟨some name, ← settleTag (← readTag)⟩
  | none =>
    match ← readTag with
    | none => return ⟨none, none⟩
    | some written => do
      let anchor ← readAnchor
      return ⟨anchor, ← settleTag (some written)⟩

/-- Whether a tag leaves the kind of a node open. -/
def isOpenTag (tag : Option String) : Bool := tag.isNone || tag = some "!"

/-- The tag of a list or a mapping. -/
def collectionTag (tag : Option String) (usual : String) : String :=
  if isOpenTag tag then coreTag usual else tag.getD ""

/-- The tag of a scalar. -/
def scalarTag (tag : Option String) (text : String) (isPlain : Bool) : String :=
  match tag with
  | none => if isPlain then Kind.tagOf text else coreTag "str"
  | some name => if name = "!" then Kind.tagOf text else name

/-- Add a node. -/
def addNode (node : Node) : NodeReader NodeNumber := do
  let source ← get
  set { source with graph := source.graph.push node }
  return source.graph.size

/-- Add a node for nothing. -/
def addEmpty : NodeReader NodeNumber := addNode ⟨Kind.tagOf "", .scalar ""⟩

/-- Refuse a mark that there was before. -/
def checkAnchor (anchor : Option String) : NodeReader Unit := do
  let marked := (← get).marked
  if (anchor.bind (marked.lookup ·)).isSome then throw .malformed

/-- Remember a node by its mark. -/
def remember (anchor : Option String) (number : NodeNumber) : NodeReader Unit :=
  modify fun source =>
    { source with marked := (anchor.map (·, number)).toList ++ source.marked }

/-- Add a node whose content is still to be read, with its mark. -/
def reserve (anchor : Option String) (node : Node) : NodeReader NodeNumber := do
  let number ← addNode node
  remember anchor number
  return number

/-- Give a node its content. -/
def fill (number : NodeNumber) (content : NodeContent) : NodeReader NodeNumber := do
  modify fun source =>
    { source with graph := source.graph.modify number fun node => { node with content := content } }
  return number

/-- Add a list or a mapping whose content is still to be read. -/
def startCollection (properties : Properties) (isList : Bool) : NodeReader NodeNumber := do
  checkAnchor properties.anchor
  let usual := if isList then "seq" else "map"
  let content := if isList then NodeContent.sequence [] else .mapping []
  reserve properties.anchor ⟨collectionTag properties.tag usual, content⟩

/-- Add a scalar. -/
def addScalar (properties : Properties) (text : String) (isPlain : Bool) :
    NodeReader NodeNumber := do
  checkAnchor properties.anchor
  reserve properties.anchor ⟨scalarTag properties.tag text isPlain, .scalar text⟩

/-- Add a node that has only a mark or a tag. -/
def addBare (properties : Properties) : NodeReader NodeNumber :=
  if properties.anchor.isNone && properties.tag.isNone then throw .malformed
  else addScalar properties "" true

/-- The node that was marked with a name. -/
def lookUp (name : String) : NodeReader NodeNumber := do
  match (← get).marked.lookup name with
  | some number => return number
  | none => throw .malformed

/-! ## Nodes -/

/-- Where a node stands. -/
inductive Setting where
  /-- Between brackets or braces. -/
  | flow
  /-- By indentation. -/
  | block
  /-- By indentation as a value, where a list need not be indented more. -/
  | value
  deriving DecidableEq

mutual

/-- Read a node; `fuel` bounds the number of steps. -/
def readNode : Nat → Setting → NodeReader NodeNumber
  | 0, _ => throw .malformed
  | fuel + 1, setting => do
    match ← peek with
    | .alias name => do
      advance
      lookUp name
    | _ => readContent fuel setting (← readProperties)

/-- Read a node after its mark and its tag. -/
def readContent : Nat → Setting → Properties → NodeReader NodeNumber
  | 0, _, _ => throw .malformed
  | fuel + 1, setting, properties => do
    let isBlock := setting ≠ .flow
    match ← peek with
    | .scalar text isPlain => do
      advance
      addScalar properties text isPlain
    | .flowSequenceStart => do
      let number ← startCollection properties true
      advance
      fill number (.sequence (← readFlowItems fuel true))
    | .flowMappingStart => do
      let number ← startCollection properties false
      advance
      fill number (.mapping (← readFlowEntries fuel true))
    | .blockEntry =>
      if setting = .value then do
        let number ← startCollection properties true
        fill number (.sequence (← readLooseItems fuel))
      else addBare properties
    | .blockSequenceStart =>
      if isBlock then do
        let number ← startCollection properties true
        advance
        fill number (.sequence (← readBlockItems fuel))
      else addBare properties
    | .blockMappingStart =>
      if isBlock then do
        let number ← startCollection properties false
        advance
        fill number (.mapping (← readBlockEntries fuel))
      else addBare properties
    | _ => addBare properties

/-- Read a node unless one of some tokens comes next. -/
def readUnless (tokens : List Token) : Nat → Setting → NodeReader NodeNumber
  | 0, _ => throw .malformed
  | fuel + 1, setting => do
    if ← isAt tokens then addEmpty else readNode fuel setting

/-- Read the entries of a list by indentation. -/
def readBlockItems : Nat → NodeReader (List NodeNumber)
  | 0 => throw .malformed
  | fuel + 1 => do
    if ← accept .blockEntry then
      let item ← readUnless [.blockEntry, .blockEnd] fuel .block
      return item :: (← readBlockItems fuel)
    else if ← accept .blockEnd then return []
    else throw .malformed

/-- Read the entries of a list that is not indented more than what holds it. -/
def readLooseItems : Nat → NodeReader (List NodeNumber)
  | 0 => throw .malformed
  | fuel + 1 => do
    if ← accept .blockEntry then
      let item ← readUnless [.blockEntry, .key, .value, .blockEnd] fuel .block
      return item :: (← readLooseItems fuel)
    else return []

/-- Read the entries of a mapping by indentation. -/
def readBlockEntries : Nat → NodeReader (List (NodeNumber × NodeNumber))
  | 0 => throw .malformed
  | fuel + 1 => do
    if ← accept .key then
      let key ← readUnless [.key, .value, .blockEnd] fuel .value
      let value ←
        if ← accept .value then readUnless [.key, .value, .blockEnd] fuel .value
        else addEmpty
      return (key, value) :: (← readBlockEntries fuel)
    else if ← accept .blockEnd then return []
    else throw .malformed

/-- Read the entries of a list in brackets. -/
def readFlowItems : Nat → Bool → NodeReader (List NodeNumber)
  | 0, _ => throw .malformed
  | fuel + 1, isFirst => do
    if ← accept .flowSequenceEnd then return []
    else
      if !isFirst then
        if !(← accept .flowEntry) then throw .malformed
      if ← accept .key then
        let pair ← addNode ⟨coreTag "map", .mapping []⟩
        let key ← readUnless [.value, .flowEntry, .flowSequenceEnd] fuel .flow
        let value ←
          if ← accept .value then readUnless [.flowEntry, .flowSequenceEnd] fuel .flow
          else addEmpty
        return (← fill pair (.mapping [(key, value)])) :: (← readFlowItems fuel false)
      else if ← accept .flowSequenceEnd then return []
      else
        let item ← readNode fuel .flow
        return item :: (← readFlowItems fuel false)

/-- Read the entries of a mapping in braces. -/
def readFlowEntries : Nat → Bool → NodeReader (List (NodeNumber × NodeNumber))
  | 0, _ => throw .malformed
  | fuel + 1, isFirst => do
    if ← accept .flowMappingEnd then return []
    else
      if !isFirst then
        if !(← accept .flowEntry) then throw .malformed
      if ← accept .key then
        let key ← readUnless [.value, .flowEntry, .flowMappingEnd] fuel .flow
        let value ←
          if ← accept .value then readUnless [.flowEntry, .flowMappingEnd] fuel .flow
          else addEmpty
        return (key, value) :: (← readFlowEntries fuel false)
      else if ← accept .flowMappingEnd then return []
      else
        let key ← readNode fuel .flow
        let value ← addEmpty
        return (key, value) :: (← readFlowEntries fuel false)

end

/-! ## Documents -/

/-- Note the instructions before a document; `hasVersion` tells whether the version was given. -/
def readDirectives (hasVersion : Bool) : Nat → NodeReader Unit
  | 0 => throw .malformed
  | fuel + 1 => do
    match ← peek with
    | .directive (.version major) => do
      if hasVersion || major ≠ 1 then throw .malformed
      advance
      readDirectives true fuel
    | .directive (.handle name meaning) => do
      let source ← get
      if (source.handles.lookup name).isSome then throw .malformed
      set { source with handles := (name, meaning) :: source.handles }
      advance
      readDirectives hasVersion fuel
    | .directive .reserved => do
      advance
      readDirectives hasVersion fuel
    | _ => return

/-- The handles that have a meaning unless they are given another one. -/
def usualHandles : List (String × String) := [("!", "!"), ("!!", coreLead)]

/-- Skip the ends of documents. -/
def skipEnds : Nat → NodeReader Unit
  | 0 => throw .malformed
  | fuel + 1 => do
    if ← accept .documentEnd then skipEnds fuel else return

/-- Whether the next token starts or ends a document. -/
def isAtMargin : NodeReader Bool := do
  match ← peek with
  | .directive _ => return true
  | .documentStart => return true
  | .documentEnd => return true
  | .streamEnd => return true
  | _ => return false

/-- Read the start of the only document; the outcome tells whether it is marked. -/
def readStart (fuel : Nat) : NodeReader Bool := do
  let isMarked ← match ← peek with
    | .directive _ => do
      readDirectives false fuel
      if !(← accept .documentStart) then throw .malformed
      pure true
    | .documentStart => do
      advance
      pure true
    | _ => pure false
  modify fun source => { source with handles := source.handles ++ usualHandles }
  return isMarked

/-- Read the only document, if there is one. -/
def readDocument (fuel : Nat) : NodeReader (Option NodeNumber) := do
  if (← peek) = .streamEnd then return none
  let isMarked ← readStart fuel
  let isEmpty ← isAtMargin
  let node ← if isMarked && isEmpty then addEmpty else readNode fuel .block
  skipEnds fuel
  if (← peek) = .streamEnd then return some node else throw .malformed

end NodeReader

/-- The nodes that tokens stand for, and the number of the one that holds all others, if there is
one. -/
def nodesOf (tokens : List Token) : Except Problem (NodeGraph × Option NodeNumber) := do
  let fuel := 4 * tokens.length + 8
  let (root, source) ← (NodeReader.readDocument fuel).run ⟨tokens, #[], [], []⟩
  return (source.graph, root)

end NegativeCompile.Yaml

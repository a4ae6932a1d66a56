import NegativeCompile.Yaml.Node
import NegativeCompile.Yaml.Scalar

/-! # Making data out of nodes

What each node stands for. Scalars are made out at once. A list or a mapping starts out empty and is
filled in its turn, after everything that was met before it; so of several problems that which is
less deep comes first. Each node is made once, whatever refers to it. -/

namespace NegativeCompile.Yaml

/-- A kind of node that holds others. -/
inductive CollectionKind where
  /-- Items in order. -/
  | list
  /-- Pairs in order. -/
  | pairs
  /-- Keys only. -/
  | set
  /-- Keys with values. -/
  | mapping
  deriving DecidableEq, Repr, Inhabited

/-- What a node stands for, other nodes being given by their numbers. -/
inductive Made where
  /-- A datum that holds no others. -/
  | scalar (value : Datum)
  /-- The undefined number that is one and the same wherever it stands. -/
  | undefined
  /-- A list. -/
  | list (items : List NodeNumber)
  /-- A list of pairs. -/
  | pairs (entries : List (NodeNumber × NodeNumber))
  /-- A set. -/
  | set (keys : List NodeNumber)
  /-- A mapping. -/
  | mapping (entries : List (NodeNumber × NodeNumber))
  deriving Inhabited, Repr

namespace Made

/-- A collection before it is filled. -/
def empty : CollectionKind → Made
  | .list => .list []
  | .pairs => .pairs []
  | .set => .set []
  | .mapping => .mapping []

/-- The value of something that can be a key. -/
def keyValue? : Made → Option Datum
  | .scalar value => some value
  | .undefined => some (.real .notANumber)
  | _ => none

/-- The nodes that something holds. -/
def children : Made → List NodeNumber
  | .scalar _ => []
  | .undefined => []
  | .list items => items
  | .pairs entries => entries.flatMap fun (key, value) => [key, value]
  | .set keys => keys
  | .mapping entries => entries.flatMap fun (key, value) => [key, value]

end Made

/-- What nodes stand for, as far as that is known. -/
abbrev MadeNodes := Array (Option Made)

/-- How far the nodes have been made. -/
structure Assembly where
  /-- The nodes; what they hold changes as mappings are merged. -/
  graph : NodeGraph
  /-- What nodes stand for, as far as that is known. -/
  made : MadeNodes
  /-- The collections that are still to be filled, the last one first. -/
  waiting : List (CollectionKind × NodeNumber)
  deriving Inhabited

/-- A step of making data. -/
abbrev Assembling := StateT Assembly (Except Problem)

namespace Assembling

/-- The node of a number. -/
def node (number : NodeNumber) : Assembling Node := do return (← get).graph.node number

/-- The entries of a mapping; other nodes have none. -/
def entriesOf (number : NodeNumber) : Assembling (List (NodeNumber × NodeNumber)) := do
  return ((← get).graph.entries? number).getD []

/-- Change a node. -/
def change (number : NodeNumber) (step : Node → Node) : Assembling Unit :=
  modify fun assembly => { assembly with graph := assembly.graph.modify number step }

/-- Put down what a node stands for. -/
def settle (number : NodeNumber) (found : Made) : Assembling Unit :=
  modify fun assembly => { assembly with made := assembly.made.setIfInBounds number (some found) }

/-- Put down that a collection is to be filled. -/
def await (kind : CollectionKind) (number : NodeNumber) : Assembling Unit :=
  modify fun assembly => { assembly with waiting := (kind, number) :: assembly.waiting }

/-- Whether a node has a tag of the notation itself. -/
def hasTag (name : String) (number : NodeNumber) : Assembling Bool := do
  return (← node number).tag = coreTag name

/-! ## Scalars -/

/-- The text of a scalar; a mapping has that of its default value. `fuel` bounds how many mappings
lie within each other. -/
def textOf : Nat → NodeNumber → Assembling String
  | 0, _ => throw .malformed
  | fuel + 1, number => do
    match (← node number).content with
    | .scalar text => return text
    | .sequence _ => throw .malformed
    | .mapping entries => do
      match ← entries.findM? fun entry => hasTag "value" entry.1 with
      | some (_, value) => textOf fuel value
      | none => throw .malformed

/-- Make out a scalar, by the name of its tag. -/
def makeScalar (name : String) (number : NodeNumber) : Assembling Made := do
  let text ← textOf ((← get).graph.size + 1) number
  match name, (← node number).content with
  | "timestamp", .mapping _ =>
    throw (.failure (.kind "expected string or bytes-like object, got 'list'"))
  | _, _ => do
    let value ← Scalar.ofText name text
    if name = "float" && Scalar.isUndefinedWord text then return .undefined
    else return .scalar value

/-- The name of a tag of the notation itself. -/
def coreName? (tag : String) : Option String :=
  if tag.startsWith coreLead then some (String.ofList (tag.toList.drop coreLead.length)) else none

/-- The kind of collection that a tag asks for. -/
def collectionKind? (name : String) : Option CollectionKind :=
  match name with
  | "seq" => some .list
  | "omap" => some .pairs
  | "pairs" => some .pairs
  | "set" => some .set
  | "map" => some .mapping
  | _ => none

/-- Make out a node, unless that was done before; collections are left to be filled. -/
def make (number : NodeNumber) : Assembling Unit := do
  if ((← get).made.getD number none).isSome then return
  match coreName? (← node number).tag with
  | none => throw .malformed
  | some name =>
    match collectionKind? name with
    | some kind => do
      settle number (.empty kind)
      await kind number
    | none => settle number (← makeScalar name number)

/-! ## Merging -/

/-- Go through the entries of a mapping up to its first merge key, marks for a default value
becoming texts on the way; the outcome is the number of entries before the key and its value. -/
def findMerge (index : Nat) :
    List (NodeNumber × NodeNumber) → Assembling (Option (Nat × NodeNumber))
  | [] => return none
  | (key, value) :: rest => do
    if ← hasTag "merge" key then return some (index, value)
    if ← hasTag "value" key then
      change key fun node => { node with tag := coreTag "str" }
    findMerge (index + 1) rest

mutual

/-- Replace the merge keys of a mapping by what they bring in, which comes before its own entries;
`fuel` bounds the number of merge keys. -/
def merge : Nat → NodeNumber → Assembling Unit
  | 0, _ => throw .malformed
  | fuel + 1, number => mergeFrom fuel number 0 []

/-- Replace the merge keys of a mapping from an index on, `brought` being what was brought in. -/
def mergeFrom : Nat → NodeNumber → Nat → List (NodeNumber × NodeNumber) → Assembling Unit
  | 0, _, _, _ => throw .malformed
  | fuel + 1, number, index, brought => do
    let entries ← entriesOf number
    match ← findMerge index (entries.drop index) with
    | none => change number fun node => { node with content := .mapping (brought ++ entries) }
    | some (place, value) => do
      change number fun node => { node with content := .mapping (entries.eraseIdx place) }
      let more ← match (← node value).content with
        | .mapping _ => do
          merge fuel value
          entriesOf value
        | .sequence items => do
          let groups ← mergeAll fuel items
          pure groups.reverse.flatten
        | .scalar _ => throw .malformed
      mergeFrom fuel number place (brought ++ more)

/-- Replace the merge keys of several nodes, which must be mappings, and give their entries. -/
def mergeAll : Nat → List NodeNumber → Assembling (List (List (NodeNumber × NodeNumber)))
  | 0, _ => throw .malformed
  | _ + 1, [] => return []
  | fuel + 1, number :: rest => do
    match (← node number).content with
    | .mapping _ => do
      merge fuel number
      let entries ← entriesOf number
      return entries :: (← mergeAll fuel rest)
    | _ => throw .malformed

end

/-- The number of nodes and of what they hold. -/
def extent (graph : NodeGraph) : Nat :=
  graph.foldl (fun sum node =>
    match node.content with
    | .scalar _ => sum + 1
    | .sequence items => sum + 1 + items.length
    | .mapping entries => sum + 1 + entries.length) 1

/-- A bound for the depth of merging: each merge key is met once, and what it brings in is gone
through then. -/
def mergeBound (graph : NodeGraph) : Nat := extent graph * (extent graph + 3) + 3

/-! ## Collections -/

/-- Whether two keys are the same: one node, the undefined number, or equal values. -/
def isSameKey (key other : NodeNumber) : Assembling Bool := do
  let made := (← get).made
  match made.getD key none, made.getD other none with
  | some .undefined, some .undefined => return true
  | some (.scalar value), some (.scalar value') => return key = other || Datum.sameKey value value'
  | _, _ => return key = other

/-- Bind a key: an equal key stays where it is and gets the new value. -/
def bind (key value : NodeNumber) :
    List (NodeNumber × NodeNumber) → Assembling (List (NodeNumber × NodeNumber))
  | [] => return [(key, value)]
  | entry :: rest => do
    if ← isSameKey entry.1 key then return (entry.1, value) :: rest
    else return entry :: (← bind key value rest)

/-- Make out the keys and values of a mapping and bind them. -/
def bindAll (bound : List (NodeNumber × NodeNumber)) :
    List (NodeNumber × NodeNumber) → Assembling (List (NodeNumber × NodeNumber))
  | [] => return bound
  | (key, value) :: rest => do
    make key
    if (((← get).made.getD key none).bind (·.keyValue?)).isNone then throw .malformed
    make value
    bindAll (← bind key value bound) rest

/-- The entries of a node that has to be a mapping. -/
def bindingsOf (number : NodeNumber) : Assembling (List (NodeNumber × NodeNumber)) := do
  match (← node number).content with
  | .mapping _ => do
    merge (mergeBound (← get).graph) number
    bindAll [] (← entriesOf number)
  | _ => throw .malformed

/-- The items of a node that has to be a list. -/
def itemsOf (number : NodeNumber) : Assembling (List NodeNumber) := do
  match (← node number).content with
  | .sequence items => return items
  | _ => throw .malformed

/-- Make out several nodes. -/
def makeAll : List NodeNumber → Assembling Unit
  | [] => return
  | number :: rest => do
    make number
    makeAll rest

/-- Make out pairs, each of them a mapping with one entry. -/
def makePairs : List NodeNumber → Assembling (List (NodeNumber × NodeNumber))
  | [] => return []
  | number :: rest => do
    match (← node number).content with
    | .mapping [(key, value)] => do
      make key
      make value
      return (key, value) :: (← makePairs rest)
    | _ => throw .malformed

/-- Fill a collection. -/
def fill (kind : CollectionKind) (number : NodeNumber) : Assembling Unit := do
  match kind with
  | .list => do
    let items ← itemsOf number
    makeAll items
    settle number (.list items)
  | .pairs => settle number (.pairs (← makePairs (← itemsOf number)))
  | .set => settle number (.set ((← bindingsOf number).map (·.1)))
  | .mapping => settle number (.mapping (← bindingsOf number))

/-- Fill several collections. -/
def fillEach : List (CollectionKind × NodeNumber) → Assembling Unit
  | [] => return
  | (kind, number) :: rest => do
    fill kind number
    fillEach rest

/-- Fill the collections that wait, and those that come to wait meanwhile after them; `fuel` bounds
the number of rounds. -/
def fillAll : Nat → Assembling Unit
  | 0 => return
  | fuel + 1 => do
    let waiting := (← get).waiting.reverse
    if waiting.isEmpty then return
    modify fun assembly => { assembly with waiting := [] }
    fillEach waiting
    fillAll fuel

end Assembling

/-- What the nodes of a graph stand for, as far as they belong to one of them. -/
def NodeGraph.assemble (graph : NodeGraph) (root : NodeNumber) :
    Except Problem MadeNodes := do
  let assembling : Assembling Unit := do
    Assembling.make root
    Assembling.fillAll (graph.size + 1)
  let (_, assembly) ← assembling.run ⟨graph, Array.replicate graph.size none, []⟩
  return assembly.made

end NegativeCompile.Yaml

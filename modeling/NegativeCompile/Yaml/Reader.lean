import NegativeCompile.Datum.SlotTable
import NegativeCompile.Yaml.Assembly
import NegativeCompile.Yaml.Node.Reader
import NegativeCompile.Yaml.Token.Reader

/-! # Reading configuration files

The datum that the text of a configuration file stands for. It is the one that the node at its root stands
for: lists and mappings that contain themselves become knots. -/

namespace NegativeCompile.Yaml

namespace MadeNodes

/-- What a node stands for. -/
def find (nodes : MadeNodes) (number : NodeNumber) : Made :=
  (nodes.getD number none).getD (.scalar .nothing)

/-- The nodes that a node holds. -/
def children (nodes : MadeNodes) (number : NodeNumber) : List NodeNumber :=
  (nodes.find number).children

/-! ## Knots -/

/-- The nodes that a step leads to from some nodes, those being marked that were reached before;
`fuel` bounds the number of steps. -/
def reach (step : NodeNumber → List NodeNumber) :
    Nat → Array Bool → List NodeNumber → Array Bool
  | 0, reached, _ => reached
  | _ + 1, reached, [] => reached
  | fuel + 1, reached, number :: rest =>
    if reached.getD number true then reach step fuel reached rest
    else reach step fuel (reached.setIfInBounds number true) (step number ++ rest)

/-- The number of nodes and of what they hold. -/
def extent (nodes : MadeNodes) : Nat :=
  (List.range nodes.size).foldl (fun sum number => sum + 1 + (nodes.children number).length) 1

/-- The nodes that hold each node. -/
def holders (nodes : MadeNodes) : Array (List NodeNumber) :=
  (List.range nodes.size).foldl
    (fun found number =>
      (nodes.children number).foldl (fun found child => found.modify child (number :: ·)) found)
    (Array.replicate nodes.size [])

/-- The nodes that a later node holds; only with such a node can one contain itself. -/
def heldLater (nodes : MadeNodes) : List NodeNumber :=
  ((List.range nodes.size).flatMap fun number =>
    (nodes.children number).filter (· ≤ number)).eraseDups

/-- The nodes that contain a node and lie within it. -/
def knotAround (nodes : MadeNodes) (holders : Array (List NodeNumber)) (number : NodeNumber) :
    List NodeNumber :=
  let none_ := Array.replicate nodes.size false
  let fuel := 2 * nodes.extent
  let within := reach nodes.children fuel none_ (nodes.children number)
  if within.getD number false then
    let around := reach (fun child => holders.getD child []) fuel none_ [number]
    (List.range nodes.size).filter fun other => within.getD other false && around.getD other false
  else []

/-- The nodes that contain themselves. -/
def knots (nodes : MadeNodes) : List NodeNumber :=
  let holders := nodes.holders
  (nodes.heldLater.flatMap (nodes.knotAround holders)).eraseDups

/-! ## Data -/

/-- The data found so far. -/
abbrev Valuing := StateM (Array (Option Datum))

mutual

/-- The datum of a node, those in a list being knots; `fuel` bounds the depth. -/
def datumOf (nodes : MadeNodes) (knots : List NodeNumber) : Nat → NodeNumber → Valuing Datum
  | 0, _ => return .nothing
  | fuel + 1, number => do
    if knots.contains number then return .knot number
    match (← get).getD number none with
    | some datum => return datum
    | none => do
      let datum ← contentOf nodes knots fuel number
      modify (·.setIfInBounds number (some datum))
      return datum

/-- The datum of a node that may be a knot. -/
def contentOf (nodes : MadeNodes) (knots : List NodeNumber) : Nat → NodeNumber → Valuing Datum
  | 0, _ => return .nothing
  | fuel + 1, number => do
    match nodes.find number with
    | .scalar value => return value
    | .undefined => return .real .notANumber
    | .list items => return .list (← items.mapM (datumOf nodes knots fuel))
    | .set keys =>
      let members ← keys.mapM (datumOf nodes knots fuel)
      return .set (SlotTable.inOrderTogether Datum.hash members)
    | .pairs entries =>
      return .list (← entries.mapM fun (key, value) => do
        return .tuple [← datumOf nodes knots fuel key, ← datumOf nodes knots fuel value])
    | .mapping entries =>
      return .mapping (← entries.mapM fun (key, value) => do
        return (← datumOf nodes knots fuel key, ← datumOf nodes knots fuel value))

end

/-- The datum of a node with the knots in it. -/
def value (nodes : MadeNodes) (root : NodeNumber) : KnottedDatum :=
  let knots := nodes.knots
  let fuel := 2 * nodes.size + 2
  let valuing : Valuing KnottedDatum := do
    let datum ← nodes.datumOf knots fuel root
    let contents ← knots.mapM fun number => do
      return (number, ← nodes.contentOf knots fuel number)
    return ⟨datum, contents⟩
  (valuing.run (Array.replicate nodes.size none)).1

end MadeNodes

/-! ## Texts -/

/-- Whether a character may stand in a configuration file. -/
def isAllowed (c : Char) : Bool :=
  let code := c.toNat
  code = 0x09 || code = 0x0a || code = 0x0d || (0x20 ≤ code && code ≤ 0x7e) || code = 0x85 ||
    (0xa0 ≤ code && code ≤ 0xfffd) || 0x10000 ≤ code

/-- The datum that a text stands for; nothing at all stands for nothing. -/
def read (text : String) : Except Problem KnottedDatum := do
  let chars := text.toList
  if !chars.all isAllowed then throw .malformed
  match ← nodesOf (tokensOf chars) with
  | (_, none) => return .plain .nothing
  | (graph, some root) => return (← graph.assemble root).value root

end NegativeCompile.Yaml

import NegativeCompile.Datum.SlotTable
import NegativeCompile.Datum.Written

/-! # Schemas

Rules for data, and the violations of them in a datum, each with its place and its wording. -/

namespace NegativeCompile

open Number Text

/-- A kind of data that a schema can ask for. -/
inductive SchemaKind where
  /-- A mapping. -/
  | object
  /-- A list. -/
  | array
  /-- A text. -/
  | string
  /-- A number. -/
  | number
  /-- A whole number. -/
  | integer
  /-- A truth value. -/
  | boolean
  /-- Nothing. -/
  | null
  deriving DecidableEq, Repr

namespace SchemaKind

/-- The word for a kind. -/
def name : SchemaKind → String
  | .object => "object"
  | .array => "array"
  | .string => "string"
  | .number => "number"
  | .integer => "integer"
  | .boolean => "boolean"
  | .null => "null"

/-- Whether a datum is of a kind; a truth value is no number, and a floating point number without
fraction is a whole number. -/
def holds : SchemaKind → Datum → Bool
  | .object, .mapping _ => true
  | .array, .list _ => true
  | .string, .text _ => true
  | .number, .integer _ => true
  | .number, .real _ => true
  | .integer, .integer _ => true
  | .integer, .real value => value.isIntegral
  | .boolean, .boolean _ => true
  | .null, .nothing => true
  | _, _ => false

end SchemaKind

mutual

/-- A schema: a list of rules, all of which have to hold. -/
inductive Schema where
  /-- The rules. -/
  | ofRules (rules : List Rule)

/-- A rule for a datum. A rule for one kind of data holds of every other kind. -/
inductive Rule where
  /-- The datum is of one of some kinds. -/
  | kind (kinds : List SchemaKind)
  /-- A mapping has some keys. -/
  | required (names : List String)
  /-- A mapping has no keys but some. -/
  | closed (names : List String)
  /-- The values of all keys of a mapping follow a schema. -/
  | values (schema : Schema)
  /-- The values of some keys of a mapping follow schemas. -/
  | properties (members : List (String × Schema))
  /-- The items of a list follow a schema. -/
  | items (schema : Schema)
  /-- A text is not empty. -/
  | nonemptyText
  /-- A list is not empty. -/
  | nonemptyList
  /-- A number is at least another one. -/
  | least (bound : Int)
  /-- A number is greater than another one. -/
  | above (bound : Int)
  /-- The datum is one of some texts. -/
  | oneText (texts : List String)
  /-- The datum follows one of some schemas. -/
  | oneSchema (schemas : List Schema)

end

/-- A violation of a schema: the keys and indices that lead to it, and its wording. -/
structure Violation where
  /-- The keys and indices that lead to it. -/
  path : List Datum
  /-- The wording. -/
  message : String
  deriving Repr, Inhabited

namespace Violation

/-- A violation seen from what holds the datum; a key that is nothing leaves no trace. -/
def under (step : Datum) (violation : Violation) : Violation :=
  match step with
  | .nothing => violation
  | _ => { violation with path := step :: violation.path }

end Violation

namespace Schema

/-- Whether a number is less than a whole number. -/
def isBelow (datum : Datum) (bound : Int) : Bool :=
  match datum with
  | .integer value => value < bound
  | .real value => value.lt (.ofInt bound)
  | _ => false

/-- Whether a number equals a whole number. -/
def isEqual (datum : Datum) (bound : Int) : Bool :=
  match datum with
  | .integer value => value == bound
  | .real value => value.equalsInt bound
  | _ => false

/-- Insert a datum before the first one whose plain text comes later. -/
def insertByText (datum : Datum) : List Datum → List Datum
  | [] => [datum]
  | first :: rest =>
    if datum.plain ≤ first.plain then datum :: first :: rest else first :: insertByText datum rest

/-- Data in the order of their plain texts. -/
def sortByText (data : List Datum) : List Datum := data.foldr insertByText []

/-- A violation at the datum itself. -/
def here (message : String) : List Violation := [⟨[], message⟩]

/-- The entries of a mapping whose keys are not among some texts, in the order of the set of these
keys. -/
def extraEntries (names : List String) (entries : List (Datum × Datum)) : List (Datum × Datum) :=
  SlotTable.inOrder (·.1.hash)
    (entries.filter fun entry => !names.any fun name => Datum.sameKey entry.1 (.text name))

/-- The violation that a datum is, `tail` telling why; none if the datum cannot be shown. -/
def shownWith (knots : Knots) (datum : Datum) (tail : String) : Option (List Violation) := do
  return here ((← knots.written? datum) ++ tail)

/-- The violation that keys too many are; none if one of them cannot be shown. -/
def unexpected (keys : List Datum) : Option (List Violation) := do
  if keys.any (·.hasLongNumber) then failure
  let verb := if keys.length = 1 then "was" else "were"
  return here ("Additional properties are not allowed (" ++
    ", ".intercalate ((sortByText keys).map (·.written)) ++ " " ++ verb ++ " unexpected)")

mutual

/-- The violations of a schema in a datum, in the order of its rules; none if one of them is about
a datum that cannot be shown. -/
def violations (knots : Knots) : Schema → Datum → Option (List Violation)
  | .ofRules rules, datum => violationsOfAll knots rules datum

/-- The violations of some rules in a datum. -/
def violationsOfAll (knots : Knots) : List Rule → Datum → Option (List Violation)
  | [], _ => some []
  | rule :: rest, datum => do
    return (← violationsOf knots rule datum (knots.resolve datum)) ++
      (← violationsOfAll knots rest datum)

/-- The violations of a rule in a datum, which is given as it is shown and as it is. -/
def violationsOf (knots : Knots) : Rule → Datum → Datum → Option (List Violation)
  | .kind kinds, shown, datum =>
    if kinds.any (·.holds datum) then some []
    else
      let names := kinds.map fun kind => quotedString kind.name
      shownWith knots shown (" is not of type " ++ ", ".intercalate names)
  | .required names, _, .mapping entries =>
    some (names.flatMap fun name =>
      if (Datum.get? name entries).isSome then []
      else here (quotedString name ++ " is a required property"))
  | .closed names, _, .mapping entries =>
    match extraEntries names entries with
    | [] => some []
    | extras => unexpected (extras.map (·.1))
  | .values schema, _, .mapping entries => do
    let found ← (extraEntries [] entries).mapM fun entry => do
      return (← violations knots schema entry.2).map (·.under entry.1)
    return found.flatten
  | .properties members, _, .mapping entries => violationsOfMembers knots members entries
  | .items schema, _, .list items => do
    let found ← items.zipIdx.mapM fun item => do
      return (← violations knots schema item.1).map (·.under (.integer item.2))
    return found.flatten
  | .nonemptyText, _, .text value =>
    some (if value.isEmpty then here (quotedString value ++ " should be non-empty") else [])
  | .nonemptyList, _, .list items =>
    some (if items.isEmpty then here "[] should be non-empty" else [])
  | .least bound, shown, datum =>
    if isBelow datum bound then shownWith knots shown s!" is less than the minimum of {bound}"
    else some []
  | .above bound, shown, datum =>
    if isBelow datum bound || isEqual datum bound then
      shownWith knots shown s!" is less than or equal to the minimum of {bound}"
    else some []
  | .oneText texts, shown, datum =>
    if texts.any fun text => Datum.sameKey datum (.text text) then some []
    else shownWith knots shown (" is not one of " ++ (Datum.list (texts.map .text)).written)
  | .oneSchema schemas, shown, _ => do
    if ← followsSome knots schemas shown then return []
    else shownWith knots shown " is not valid under any of the given schemas"
  | _, _, _ => some []

/-- The violations of the schemas for some keys of a mapping. -/
def violationsOfMembers (knots : Knots) :
    List (String × Schema) → List (Datum × Datum) → Option (List Violation)
  | [], _ => some []
  | (name, schema) :: rest, entries => do
    let found ← match Datum.get? name entries with
      | some value => do
        pure ((← violations knots schema value).map (·.under (.text name)))
      | none => pure []
    return found ++ (← violationsOfMembers knots rest entries)

/-- Whether a datum follows one of some schemas. -/
def followsSome (knots : Knots) : List Schema → Datum → Option Bool
  | [], _ => some false
  | schema :: rest, datum => do
    if (← violations knots schema datum).isEmpty then return true
    else followsSome knots rest datum

end

/-! ## Common schemas -/

/-- Any datum of a kind. -/
def ofKind (kind : SchemaKind) : Schema := .ofRules [.kind [kind]]

/-- Any datum of one of some kinds. -/
def ofKinds (kinds : List SchemaKind) : Schema := .ofRules [.kind kinds]

/-- A list of data that follow a schema. -/
def listOf (schema : Schema) : Schema := .ofRules [.kind [.array], .items schema]

/-- A mapping with some keys that it must have, and values of known keys that follow schemas. -/
def record (required : List String) (members : List (String × Schema)) : Schema :=
  .ofRules [.kind [.object], .required required, .properties members]

/-- A mapping as before that has no other keys. -/
def closedRecord (required : List String) (members : List (String × Schema)) : Schema :=
  .ofRules [.kind [.object], .required required, .closed (members.map (·.1)), .properties members]

end Schema

/-! ## Order of violations -/

namespace Violation

/-- Why two steps of a path have no order. -/
inductive Incomparable where
  /-- They are of different kinds. -/
  | kinds (left right : String)
  /-- One is a date and the other a point in time. -/
  | date
  /-- Only one of two points in time has a known distance from universal time. -/
  | zone
  deriving DecidableEq, Repr

/-- The wording for two steps without order. -/
def Incomparable.message : Incomparable → String
  | .kinds left right => s!"'<' not supported between instances of '{left}' and '{right}'"
  | .date => "can't compare datetime.datetime to datetime.date"
  | .zone => "can't compare offset-naive and offset-aware datetimes"

/-- The whole number that a step is, if it is one; a truth value is one or zero. -/
def wholeStep? : Datum → Option Int
  | .boolean value => some (if value then 1 else 0)
  | .integer value => some value
  | _ => none

/-- Whether one step comes before another if both are numbers. -/
def numberBefore? (left right : Datum) : Option Bool :=
  match left, right with
  | .real first, .real second => some (first.lt second)
  | .real first, other => (wholeStep? other).map first.ltInt
  | other, .real second => (wholeStep? other).map second.gtInt
  | _, _ => do return decide ((← wholeStep? left) < (← wholeStep? right))

/-- Whether one list of bytes comes before another. -/
def bytesBefore : List UInt8 → List UInt8 → Bool
  | _, [] => false
  | [], _ :: _ => true
  | left :: lefts, right :: rights =>
    if left = right then bytesBefore lefts rights else left < right

/-- Whether one step comes before another: each kind has an order in itself. -/
def stepBefore (left right : Datum) : Except Incomparable Bool :=
  match left, right with
  | .text first, .text second => .ok (decide (first < second))
  | .bytes first, .bytes second => .ok (bytesBefore first second)
  | .date year month day, .date year' month' day' =>
    .ok (Moment.dayNumber year month day < Moment.dayNumber year' month' day')
  | .moment first, .moment second =>
    if first.zone.isSome = second.zone.isSome then .ok (first.micros < second.micros)
    else .error .zone
  | .date _ _ _, .moment _ => .error .date
  | .moment _, .date _ _ _ => .error .date
  | _, _ =>
    match numberBefore? left right with
    | some answer => .ok answer
    | none => .error (.kinds left.kindName right.kindName)

/-- Whether one path comes before another: by the first step that differs, then by length. -/
def pathBefore : List Datum → List Datum → Except Incomparable Bool
  | _, [] => .ok false
  | [], _ :: _ => .ok true
  | left :: lefts, right :: rights =>
    if Datum.sameKey left right then pathBefore lefts rights else stepBefore left right

/-- Go on with a run of violations, each of which comes before the previous one or, if the run does
not descend, none of which does; the run is given last first and comes with the rest. -/
def runFrom (isDescending : Bool) (last : Violation) (run : List Violation) :
    List Violation → Except Incomparable (List Violation × List Violation)
  | [] => .ok (run, [])
  | next :: rest => do
    if (← pathBefore next.path last.path) = isDescending then
      runFrom isDescending next (next :: run) rest
    else return (run, next :: rest)

/-- The run that violations start with, in order, and the rest. -/
def firstRun : List Violation → Except Incomparable (List Violation × List Violation)
  | first :: second :: rest => do
    let isDescending ← pathBefore second.path first.path
    let (run, others) ← runFrom isDescending second [second, first] rest
    return (if isDescending then run else run.reverse, others)
  | violations => .ok (violations, [])

/-- Where a violation goes among sorted ones, between two places: behind those that it does not come
before. The range is halved at each step. -/
def placeAmong (sorted : Array Violation) (violation : Violation) (low high : Nat) :
    Except Incomparable Nat :=
  if low < high then do
    let middle := low + (high - low) / 2
    if ← pathBefore violation.path (sorted.getD middle default).path then
      placeAmong sorted violation low middle
    else placeAmong sorted violation (middle + 1) high
  else .ok low
termination_by high - low

/-- Put a violation among sorted ones. -/
def insert (sorted : Array Violation) (violation : Violation) :
    Except Incomparable (Array Violation) := do
  return sorted.insertIdxIfInBounds (← placeAmong sorted violation 0 sorted.size) violation

/-- Violations in the order of their paths; those at the same place keep their order. The order of
the comparisons settles which of several problems is met. -/
def sort (violations : List Violation) : Except Incomparable (List Violation) := do
  let (run, rest) ← firstRun violations
  return (← rest.foldlM insert run.toArray).toList

/-- Where a violation is, as it is shown; none if that cannot be shown. -/
def place? (violation : Violation) : Option String := do
  let joined := "/".intercalate (← violation.path.mapM (·.plain?))
  return if joined.isEmpty then "root" else joined

/-- How a violation is shown, unless it cannot be. -/
def describe? (violation : Violation) : Option String := do
  return s!"{← violation.place?}: {violation.message}"

end Violation

end NegativeCompile

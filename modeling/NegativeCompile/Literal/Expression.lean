import NegativeCompile.Datum.SlotTable

/-! # Expressions of an expectation list

What an expectation list says, and the datum that it stands for. Only some expressions stand for
one: numbers with signs, texts, byte strings, lists, tuples, sets, mappings, and sums of a real
number and an imaginary one. -/

namespace NegativeCompile.Literal

open Number

/-- An expression. -/
inductive Expression where
  /-- A number, a text, a byte string or a word for a datum. -/
  | constant (value : Datum)
  /-- A list. -/
  | list (items : List Expression)
  /-- A tuple. -/
  | tuple (items : List Expression)
  /-- A set. -/
  | set (items : List Expression)
  /-- A mapping. -/
  | mapping (entries : List (Expression × Expression))
  /-- The call that gives the empty set. -/
  | emptySet
  /-- A sign before an operand. -/
  | sign (isMinus : Bool) (operand : Expression)
  /-- A sum or a difference. -/
  | sum (isMinus : Bool) (left right : Expression)
  /-- An operand whose items are to be spread. -/
  | spread (operand : Expression)
  /-- A name. -/
  | name (value : String)
  /-- A part of something. -/
  | part
  /-- Any other expression. -/
  | foreign
  deriving Inhabited, Repr

/-- Why an expression stands for no datum. -/
inductive Problem where
  /-- It is not of a kind that does. -/
  | malformed
  /-- A set member or a key is of a kind that cannot be one. -/
  | unhashable (kind : String)
  /-- A whole number is too large for a sum. -/
  | tooLarge
  deriving DecidableEq, Repr

namespace Expression

/-! ## Numbers -/

/-- The number without sign that an expression is. -/
def number : Expression → Except Problem Datum
  | .constant (.integer value) => .ok (.integer value)
  | .constant (.real value) => .ok (.real value)
  | .constant (.complex re im) => .ok (.complex re im)
  | _ => .error .malformed

/-- The negated number. -/
def negated : Datum → Datum
  | .integer value => .integer (-value)
  | .real value => .real value.neg
  | .complex re im => .complex re.neg im.neg
  | value => value

/-- The number, possibly with a sign, that an expression is. -/
def signedNumber : Expression → Except Problem Datum
  | .sign isMinus operand =>
    (number operand).map fun value => if isMinus then negated value else value
  | expression => number expression

/-- The sum or difference of a real number and a complex one. -/
def combined (isMinus : Bool) (left right : Datum) : Except Problem Datum :=
  let add (value : Binary64) (re im : Binary64) : Datum :=
    if isMinus then .complex (value.add re.neg) (Binary64.zero.add im.neg)
    else .complex (value.add re) (Binary64.zero.add im)
  match left, right with
  | .integer value, .complex re im =>
    let nearest := Binary64.ofInt value
    if nearest.isFinite then .ok (add nearest re im) else .error .tooLarge
  | .real value, .complex re im => .ok (add value re im)
  | _, _ => .error .malformed

/-! ## Data -/

/-- Refuse a datum that cannot be a key. -/
def checkKey (key : Datum) : Except Problem Unit :=
  match key.unkeyable? with
  | some unfit => .error (.unhashable unfit.kindName)
  | none => .ok ()

mutual

/-- The datum that an expression stands for. -/
def value : Expression → Except Problem Datum
  | .constant datum => .ok datum
  | .list items => do return .list (← values items)
  | .tuple items => do return .tuple (← values items)
  | .set items => do return .set (SlotTable.inOrder Datum.hash (← members [] items))
  | .mapping entries => do return .mapping (← bindings [] entries)
  | .emptySet => .ok (.set [])
  | .sum isMinus left right => do
    let first ← signedNumber left
    combined isMinus first (← number right)
  | .sign isMinus operand => signedNumber (.sign isMinus operand)
  | .spread _ => .error .malformed
  | .name _ => .error .malformed
  | .part => .error .malformed
  | .foreign => .error .malformed

/-- The data that expressions stand for. -/
def values : List Expression → Except Problem (List Datum)
  | [] => .ok []
  | item :: rest => do
    let datum ← value item
    return datum :: (← values rest)

/-- The members that expressions stand for, added to those of a set. -/
def members (before : List Datum) : List Expression → Except Problem (List Datum)
  | [] => .ok before
  | item :: rest => do
    let datum ← value item
    checkKey datum
    members (Datum.addMember datum before) rest

/-- The entries that pairs of expressions stand for, added to those of a mapping. -/
def bindings (before : List (Datum × Datum)) :
    List (Expression × Expression) → Except Problem (List (Datum × Datum))
  | [] => .ok before
  | (key, content) :: rest => do
    let name ← value key
    let datum ← value content
    checkKey name
    bindings (Datum.bind name datum before) rest

end

/-! ## Targets -/

mutual

/-- Whether something can be put in the place of an expression. -/
def isTarget : Expression → Bool
  | .name _ => true
  | .part => true
  | .tuple items => areTargets items
  | .list items => areTargets items
  | .spread operand => isTarget operand
  | _ => false

/-- Whether something can be put in the place of each of some expressions. -/
def areTargets : List Expression → Bool
  | [] => true
  | item :: rest => isTarget item && areTargets rest

end

end Expression

end NegativeCompile.Literal

import NegativeCompile.Number.Binary64

/-! # Data

The values that a configuration file or an expectation list can hold, when two of them are the same
key, and mappings whose keys keep the order of their first appearance. -/

namespace NegativeCompile

open Number

/-- A point in time: a date, a time of day and possibly a distance from universal time. -/
structure Moment where
  /-- The year. -/
  year : Nat
  /-- The month, from one. -/
  month : Nat
  /-- The day of the month, from one. -/
  day : Nat
  /-- The hour. -/
  hour : Nat
  /-- The minute. -/
  minute : Nat
  /-- The second. -/
  second : Nat
  /-- The millionths of a second. -/
  micro : Nat
  /-- How many minutes the clock is ahead of universal time, if it says so. -/
  zone : Option Int
  deriving DecidableEq, Repr

namespace Moment

/-- The number of days before the first day of a year. -/
def daysBeforeYear (year : Nat) : Nat :=
  let past := year - 1
  past * 365 + past / 4 - past / 100 + past / 400

/-- Whether a year has a leap day. -/
def isLeapYear (year : Nat) : Bool := year % 4 = 0 && (year % 100 ≠ 0 || year % 400 = 0)

/-- The number of days in a month. -/
def daysIn (year month : Nat) : Nat :=
  if month = 2 then if isLeapYear year then 29 else 28
  else if month = 4 || month = 6 || month = 9 || month = 11 then 30
  else 31

/-- The number of days before a month in its year. -/
def daysBeforeMonth (year : Nat) : Nat → Nat
  | 0 => 0
  | 1 => 0
  | month + 1 => daysBeforeMonth year month + daysIn year month

/-- The number of a day, counted from the first day of the first year. -/
def dayNumber (year month day : Nat) : Nat :=
  daysBeforeYear year + daysBeforeMonth year month + (day - 1)

/-- The millionths of a second up to a point in time on the clock that shows it. -/
def localMicros (value : Moment) : Nat :=
  let minutes := (dayNumber value.year value.month value.day * 24 + value.hour) * 60 + value.minute
  (minutes * 60 + value.second) * 1000000 + value.micro

/-- The millionths of a second up to a point in time in universal time, as far as its distance from
that is known. -/
def micros (value : Moment) : Int :=
  (value.localMicros : Int) - value.zone.getD 0 * 60000000

/-- Whether two points in time are the same; one with a known distance from universal time differs
from any without. -/
def isSame (value other : Moment) : Bool :=
  value.zone.isSome == other.zone.isSome && value.micros == other.micros

end Moment

/-- A value read from a configuration or from an expectation list. -/
inductive Datum where
  /-- The absent value. -/
  | nothing
  /-- A truth value. -/
  | boolean (value : Bool)
  /-- A whole number. -/
  | integer (value : Int)
  /-- A floating point number. -/
  | real (value : Binary64)
  /-- A complex number. -/
  | complex (realPart imaginaryPart : Binary64)
  /-- A text. -/
  | text (value : String)
  /-- A byte string. -/
  | bytes (value : List UInt8)
  /-- The placeholder written as three dots. -/
  | ellipsis
  /-- A date. -/
  | date (year month day : Nat)
  /-- A point in time. -/
  | moment (value : Moment)
  /-- A list. -/
  | list (items : List Datum)
  /-- A fixed tuple. -/
  | tuple (items : List Datum)
  /-- A set, its members being in the order in which it gives them. -/
  | set (items : List Datum)
  /-- A mapping. -/
  | mapping (entries : List (Datum × Datum))
  /-- A list or a mapping that contains itself, known by a number. -/
  | knot (number : Nat)
  deriving Inhabited, Repr

namespace Datum

/-! ## Keys -/

/-- A number seen as a complex number of exact parts: a truth value is one or zero. -/
inductive Numeric where
  /-- A whole number. -/
  | exact (value : Int)
  /-- A floating point number with an imaginary part. -/
  | approximate (realPart imaginaryPart : Binary64)

/-- The number that a datum is, if it is one. -/
def numeric? : Datum → Option Numeric
  | .boolean value => some (.exact (if value then 1 else 0))
  | .integer value => some (.exact value)
  | .real value => some (.approximate value .zero)
  | .complex re im => some (.approximate re im)
  | _ => none

/-- Whether two numbers are equal in value. -/
def Numeric.beq : Numeric → Numeric → Bool
  | .exact value, .exact other => value == other
  | .exact value, .approximate re im => re.equalsInt value && im.equalsInt 0
  | .approximate re im, .exact value => re.equalsInt value && im.equalsInt 0
  | .approximate re im, .approximate re' im' => re.beq re' && im.beq im'

mutual

/-- Whether two data are the same key: numbers by value, everything else by kind and content. -/
def sameKey : Datum → Datum → Bool
  | .nothing, .nothing => true
  | .text value, .text other => value == other
  | .bytes value, .bytes other => value == other
  | .ellipsis, .ellipsis => true
  | .date year month day, .date year' month' day' =>
    year == year' && month == month' && day == day'
  | .moment value, .moment other => value.isSame other
  | .tuple items, .tuple others => sameKeys items others
  | value, other =>
    match value.numeric?, other.numeric? with
    | some number, some number' => number.beq number'
    | _, _ => false

/-- Whether two lists hold the same keys in the same order. -/
def sameKeys : List Datum → List Datum → Bool
  | [], [] => true
  | item :: rest, other :: others => sameKey item other && sameKeys rest others
  | _, _ => false

end

mutual

/-- The first part of a datum that cannot be a key, if there is one. -/
def unkeyable? : Datum → Option Datum
  | .list items => some (.list items)
  | .set items => some (.set items)
  | .mapping entries => some (.mapping entries)
  | .knot number => some (.knot number)
  | .tuple items => firstUnkeyable? items
  | _ => none

/-- The first part of several data that cannot be a key, if there is one. -/
def firstUnkeyable? : List Datum → Option Datum
  | [] => none
  | item :: rest => (unkeyable? item).or (firstUnkeyable? rest)

end

/-! ## Mappings -/

/-- Bind a key: an equal key stays where it is, as it was first written, and gets the new value. -/
def bind (key value : Datum) : List (Datum × Datum) → List (Datum × Datum)
  | [] => [(key, value)]
  | entry :: rest =>
    if sameKey entry.1 key then (entry.1, value) :: rest else entry :: bind key value rest

/-- Add a member unless an equal one is there. -/
def addMember (member : Datum) (members : List Datum) : List Datum :=
  if members.any (sameKey · member) then members else members ++ [member]

/-- The value of a text key in a mapping. -/
def get? (name : String) (entries : List (Datum × Datum)) : Option Datum :=
  (entries.find? fun entry => sameKey entry.1 (.text name)).map (·.2)

/-- Whether a datum counts as absent: nothing, false, zero, or an empty text or container. -/
def isVoid : Datum → Bool
  | .nothing => true
  | .boolean value => !value
  | .integer value => value == 0
  | .real value => value.equalsInt 0
  | .complex re im => re.equalsInt 0 && im.equalsInt 0
  | .text value => value.isEmpty
  | .bytes value => value.isEmpty
  | .list items => items.isEmpty
  | .tuple items => items.isEmpty
  | .set items => items.isEmpty
  | .mapping entries => entries.isEmpty
  | .ellipsis => false
  | .date _ _ _ => false
  | .moment _ => false
  | .knot _ => false

/-- The name of a datum's kind. -/
def kindName : Datum → String
  | .nothing => "NoneType"
  | .boolean _ => "bool"
  | .integer _ => "int"
  | .real _ => "float"
  | .complex _ _ => "complex"
  | .text _ => "str"
  | .bytes _ => "bytes"
  | .ellipsis => "ellipsis"
  | .date _ _ _ => "datetime.date"
  | .moment _ => "datetime.datetime"
  | .list _ => "list"
  | .tuple _ => "tuple"
  | .set _ => "set"
  | .mapping _ => "dict"
  | .knot _ => "list"

end Datum

end NegativeCompile

/-! # Binary floating point

Numbers of the 64-bit binary format. A finite number is a sign and a whole number of units, a unit
being the least positive number of the format, so that comparison and arithmetic are exact
arithmetic on natural numbers followed by one rounding. -/

namespace NegativeCompile.Number

/-- A number of the 64-bit binary floating point format. -/
inductive Binary64 where
  /-- A finite number: its sign and its size in units. -/
  | finite (negative : Bool) (units : Nat)
  /-- An infinity of a sign. -/
  | infinite (negative : Bool)
  /-- The result of an undefined operation. -/
  | notANumber
  deriving DecidableEq, Repr, Inhabited

/-- Divide and round to the nearest natural number, a half going to the even neighbour. -/
def roundHalfEven (numerator denominator : Nat) : Nat :=
  let quotient := numerator / denominator
  let twice := 2 * (numerator % denominator)
  if twice < denominator || (twice = denominator && quotient % 2 = 0) then quotient
  else quotient + 1

namespace Binary64

/-- The number of units in one, as a power of two. -/
def unitBits : Nat := 1074

/-- The number of units in one. -/
def unitsPerOne : Nat := Nat.pow 2 unitBits

/-- The least number of units beyond the finite numbers. -/
def unitLimit : Nat := Nat.pow 2 (1024 + unitBits)

/-- How far the last of the 53 significant bits of a size in units is from the unit. -/
def spareBits (units : Nat) : Nat := Nat.log2 units - 52

/-- The number nearest to a quotient of natural numbers, a tie going to the even significand, with
a sign. -/
def ofRatio (negative : Bool) (numerator denominator : Nat) : Binary64 :=
  let scaled := numerator * unitsPerOne
  let spare := spareBits (scaled / denominator)
  let units := roundHalfEven scaled (denominator * Nat.pow 2 spare) * Nat.pow 2 spare
  if unitLimit ≤ units then .infinite negative else .finite negative units

/-- Positive zero. -/
def zero : Binary64 := .finite false 0

/-- The number nearest to a whole number. -/
def ofInt (value : Int) : Binary64 := ofRatio (value < 0) value.natAbs 1

/-- Whether a number is a whole number. -/
def isIntegral : Binary64 → Bool
  | .finite _ units => units % unitsPerOne = 0
  | _ => false

/-- A whole number as an integer, a fraction being cut off. -/
def truncate : Binary64 → Int
  | .finite negative units =>
    let magnitude : Int := (units / unitsPerOne : Nat)
    if negative then -magnitude else magnitude
  | _ => 0

/-- The size in units with its sign. -/
def signedUnits (negative : Bool) (units : Nat) : Int :=
  if negative then -(units : Int) else units

/-- Whether a number is less than another; nothing is less or greater than an undefined result. -/
def lt : Binary64 → Binary64 → Bool
  | .notANumber, _ => false
  | _, .notANumber => false
  | .infinite negative, .infinite other => negative && !other
  | .infinite negative, .finite _ _ => negative
  | .finite _ _, .infinite negative => !negative
  | .finite negative units, .finite other others =>
    signedUnits negative units < signedUnits other others

/-- Whether two numbers are equal in value: both zeros are, an undefined result is not. -/
def beq : Binary64 → Binary64 → Bool
  | .infinite negative, .infinite other => negative == other
  | .finite negative units, .finite other others =>
    signedUnits negative units == signedUnits other others
  | _, _ => false

/-- Whether a number equals a whole number. -/
def equalsInt (number : Binary64) (value : Int) : Bool :=
  match number with
  | .finite negative units => signedUnits negative units == value * unitsPerOne
  | _ => false

/-- Whether a number is less than a whole number. -/
def ltInt (number : Binary64) (value : Int) : Bool :=
  match number with
  | .finite negative units => signedUnits negative units < value * unitsPerOne
  | .infinite negative => negative
  | .notANumber => false

/-- Whether a number is greater than a whole number. -/
def gtInt (number : Binary64) (value : Int) : Bool :=
  match number with
  | .finite negative units => value * unitsPerOne < signedUnits negative units
  | .infinite negative => !negative
  | .notANumber => false

/-- The negated number. -/
def neg : Binary64 → Binary64
  | .finite negative units => .finite (!negative) units
  | .infinite negative => .infinite (!negative)
  | .notANumber => .notANumber

/-- The number nearest to a signed number of units over a denominator. -/
def ofUnits (value : Int) (denominator : Nat) (negativeZero : Bool) : Binary64 :=
  let negative := if value = 0 then negativeZero else decide (value < 0)
  let spare := spareBits (value.natAbs / denominator)
  let units := roundHalfEven value.natAbs (denominator * Nat.pow 2 spare) * Nat.pow 2 spare
  if unitLimit ≤ units then .infinite negative else .finite negative units

/-- The rounded sum of two numbers. -/
def add : Binary64 → Binary64 → Binary64
  | .notANumber, _ => .notANumber
  | _, .notANumber => .notANumber
  | .infinite negative, .infinite other =>
    if negative = other then .infinite negative else .notANumber
  | .infinite negative, .finite _ _ => .infinite negative
  | .finite _ _, .infinite negative => .infinite negative
  | .finite negative units, .finite other others =>
    ofUnits (signedUnits negative units + signedUnits other others) 1 (negative && other)

/-- The rounded product of two numbers. -/
def mul : Binary64 → Binary64 → Binary64
  | .notANumber, _ => .notANumber
  | _, .notANumber => .notANumber
  | .infinite negative, .infinite other => .infinite (negative != other)
  | .infinite negative, .finite other units =>
    if units = 0 then .notANumber else .infinite (negative != other)
  | .finite negative units, .infinite other =>
    if units = 0 then .notANumber else .infinite (negative != other)
  | .finite negative units, .finite other others =>
    let sign := negative != other
    ofUnits (signedUnits sign (units * others)) unitsPerOne sign

/-- Whether a number carries a minus sign. -/
def isNegative : Binary64 → Bool
  | .finite negative _ => negative
  | .infinite negative => negative
  | .notANumber => false

/-- Whether a number is finite. -/
def isFinite : Binary64 → Bool
  | .finite _ _ => true
  | _ => false

end Binary64

end NegativeCompile.Number

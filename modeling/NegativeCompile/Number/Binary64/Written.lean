import NegativeCompile.Number.Binary64
import NegativeCompile.Text.Hex

/-! # Written floating point numbers

Two decimal notations of a floating point number: the fewest digits that read back as the same
number, and a fixed number of decimals. -/

namespace NegativeCompile.Number.Binary64

open NegativeCompile.Text

/-! ## Shortest digits -/

/-- The numbers that round to one finite number: from `low` to `high` units, in quarter units, the
ends included if the significand is even. -/
structure RoundingInterval where
  /-- The lower end in quarter units. -/
  low : Nat
  /-- The upper end in quarter units. -/
  high : Nat
  /-- Whether the ends round to the number too. -/
  closed : Bool

/-- The interval of numbers that round to a positive number of units. -/
def roundingInterval (units : Nat) : RoundingInterval :=
  let spare := spareBits units
  let gap := Nat.pow 2 spare
  let significand := units / gap
  let below := if significand = Nat.pow 2 52 && spare ≠ 0 then gap else 2 * gap
  ⟨4 * units - below, 4 * units + 2 * gap, significand % 2 = 0⟩

/-- Whether `value / scale` quarter units lie in the interval. -/
def RoundingInterval.holds (interval : RoundingInterval) (value scale : Nat) : Bool :=
  if interval.closed then interval.low * scale ≤ value && value ≤ interval.high * scale
  else interval.low * scale < value && value < interval.high * scale

/-- Decimal digits with a power of ten: the number `digits * 10 ^ exponent`. -/
structure Decimal where
  /-- The digits as one number. -/
  digits : Nat
  /-- The power of ten of the last digit. -/
  exponent : Int

/-- The power of ten of the leading digit of `units` units, sought downwards from `guess`. -/
def leadingExponentFrom (units : Nat) : Nat → Int → Int
  | 0, guess => guess
  | fuel + 1, guess =>
    let reached :=
      if 0 ≤ guess then decide (Nat.pow 10 guess.toNat * unitsPerOne ≤ units)
      else decide (unitsPerOne ≤ units * Nat.pow 10 (-guess).toNat)
    if reached then guess else leadingExponentFrom units fuel (guess - 1)

/-- The power of ten of the leading digit of a positive number of units. -/
def leadingExponent (units : Nat) : Int :=
  let bits : Int := (Nat.log2 units : Int) - unitBits
  leadingExponentFrom units 8 ((bits + 1) * 30103 / 100000 + 2)

/-- The multiples of a power of ten next to a number of units on either side. -/
def neighboursAt (units : Nat) (exponent : Int) : Nat × Nat × Nat × Nat :=
  let scale := if 0 ≤ exponent then 1 else Nat.pow 10 (-exponent).toNat
  let step := if 0 ≤ exponent then Nat.pow 10 exponent.toNat * unitsPerOne else unitsPerOne
  let below := units * scale / step
  (below, below + 1, scale, step)

/-- The nearest of the multiples of a power of ten that read back as the number, if one does. -/
def readingBack? (interval : RoundingInterval) (units : Nat) (exponent : Int) : Option Nat :=
  let (below, above, scale, step) := neighboursAt units exponent
  let belowHolds := interval.holds (4 * below * step) scale
  let aboveHolds := interval.holds (4 * above * step) scale
  let value := units * scale
  let toBelow := value - below * step
  let toAbove := above * step - value
  if belowHolds && aboveHolds then
    if toBelow < toAbove || (toBelow = toAbove && below % 2 = 0) then some below else some above
  else if belowHolds then some below
  else if aboveHolds then some above
  else none

/-- Try ever finer powers of ten until one has a multiple that reads back. -/
def shortestFrom (interval : RoundingInterval) (units : Nat) : Nat → Int → Decimal
  | 0, exponent => ⟨(neighboursAt units exponent).1, exponent⟩
  | fuel + 1, exponent =>
    match readingBack? interval units exponent with
    | some digits => ⟨digits, exponent⟩
    | none => shortestFrom interval units fuel (exponent - 1)

/-- The fewest digits that read back as a positive number of units. -/
def shortest (units : Nat) : Decimal :=
  shortestFrom (roundingInterval units) units 17 (leadingExponent units)

/-- Zeros at the end of the digits dropped. -/
def dropZeros : List Char → List Char
  | digits => (digits.reverse.dropWhile (· = '0')).reverse

/-- How a shortest number is laid out: up to which power of ten it is positional and what follows
a whole number. -/
structure Layout where
  /-- The text after the digits of a positional whole number. -/
  wholeTail : String

/-- Lay out digits whose decimal point stands after the first `point` of them. -/
def Layout.apply (layout : Layout) (digits : List Char) (point : Int) : List Char :=
  let count : Int := digits.length
  if -4 < point && point ≤ 16 then
    if point ≤ 0 then '0' :: '.' :: List.replicate (-point).toNat '0' ++ digits
    else if count ≤ point then
      digits ++ List.replicate (point - count).toNat '0' ++ layout.wholeTail.toList
    else digits.take point.toNat ++ '.' :: digits.drop point.toNat
  else
    let mantissa := match digits with
      | [] => []
      | [digit] => [digit]
      | digit :: rest => digit :: '.' :: rest
    let exponent := point - 1
    let size := decimal exponent.natAbs
    mantissa ++ 'e' :: (if exponent < 0 then '-' else '+') ::
      (if size.length < 2 then '0' :: size else size)

/-- A number in the fewest digits that read back. -/
def writtenWith (layout : Layout) : Binary64 → String
  | .notANumber => "nan"
  | .infinite negative => if negative then "-inf" else "inf"
  | .finite negative units =>
    let sign := if negative then ['-'] else []
    if units = 0 then String.ofList (sign ++ '0' :: layout.wholeTail.toList)
    else
      let found := shortest units
      let digits := decimal found.digits
      let point : Int := found.exponent + digits.length
      String.ofList (sign ++ layout.apply (dropZeros digits) point)

/-- A number in the fewest digits that read back; a whole number ends in a zero after the point. -/
def written (number : Binary64) : String := number.writtenWith ⟨".0"⟩

/-- A number in the fewest digits that read back; a whole number has no point. -/
def writtenBare (number : Binary64) : String := number.writtenWith ⟨""⟩

/-! ## Two decimals -/

/-- A number with two decimals, a half going to the even neighbour. -/
def twoDecimals : Binary64 → String
  | .notANumber => "nan"
  | .infinite negative => if negative then "-inf" else "inf"
  | .finite negative units =>
    let hundredths := roundHalfEven (units * 100) unitsPerOne
    let rest := decimal (hundredths % 100)
    let places := if rest.length < 2 then '0' :: rest else rest
    String.ofList ((if negative then ['-'] else []) ++ decimal (hundredths / 100) ++
      '.' :: places)

end NegativeCompile.Number.Binary64

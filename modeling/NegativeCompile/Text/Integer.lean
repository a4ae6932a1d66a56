import NegativeCompile.Text.Blank
import NegativeCompile.Text.Ranges

/-! # Whole numbers in text

Reading a whole number in decimal notation: blanks around it, a sign, digits of any script, single
underscores between digits, and no more than 4300 digits. Each script has its ten digits next to each
other, so the table of digits holds only the place of each zero. -/

namespace NegativeCompile.Text

/-! ## Digits -/

/-- The code points of the digits zero. -/
def zeroDigits : List Nat := [
  48, 1632, 1776, 1984, 2406, 2534, 2662, 2790, 2918, 3046, 3174, 3302, 3430, 3558, 3664, 3792,
  3872, 4160, 4240, 6112, 6160, 6470, 6608, 6784, 6800, 6992, 7088, 7232, 7248, 42528, 43216,
  43264, 43472, 43504, 43600, 44016, 65296, 66720, 68912, 69734, 69872, 69942, 70096, 70384,
  70736, 70864, 71248, 71360, 71472, 71904, 72016, 72784, 73040, 73120, 92768, 92864, 93008,
  120782, 120792, 120802, 120812, 120822, 123200, 123632, 125264, 130032]

/-- The value of a decimal digit of any script. -/
def digitValue? (c : Char) : Option Nat :=
  if 48 ≤ c.toNat && c.toNat ≤ 57 then some (c.toNat - 48)
  else if c.toNat < 128 then none
  else (zeroDigits.find? fun first => first ≤ c.toNat && c.toNat ≤ first + 9).map (c.toNat - ·)

/-- Whether a character is a decimal digit of some script. -/
def isDigit (c : Char) : Bool := (digitValue? c).isSome

/-- The code points of raised, lowered and framed digits and of digits of no decimal system. -/
def otherDigitRanges : Ranges where
  intervals := #[
    (178, 179), (185, 185), (4969, 4977), (6618, 6618), (8304, 8304), (8308, 8313), (8320, 8329),
    (9312, 9320), (9332, 9340), (9352, 9360), (9450, 9450), (9461, 9469), (9471, 9471),
    (10102, 10110), (10112, 10120), (10122, 10130), (68160, 68163), (69216, 69224),
    (69714, 69722), (127232, 127242)]

/-- Whether a character is a digit of any form. -/
def isAnyDigit (c : Char) : Bool := isDigit c || otherDigitRanges.contains c.toNat

/-- The number that a run of digits stands for, most significant first, after `high`. -/
def digitsValueFrom (high : Nat) : List Char → Nat
  | [] => high
  | c :: rest => digitsValueFrom (10 * high + (digitValue? c).getD 0) rest

/-- The number that a run of digits stands for. -/
def digitsValue (digits : List Char) : Nat := digitsValueFrom 0 digits

/-! ## Numbers -/

/-- The blanks that may stand around a number: all but the four ASCII separators. -/
def isNumberBlank (c : Char) : Bool := isBlank c && !(28 ≤ c.toNat && c.toNat ≤ 31)

/-- Drop the blanks around a number. -/
def trimNumber (text : List Char) : List Char :=
  ((text.dropWhile isNumberBlank).reverse.dropWhile isNumberBlank).reverse

/-- The most digits that a number in text may have. -/
def digitLimit : Nat := 4300

/-- Why a text is no whole number. -/
inductive IntegerProblem where
  /-- It is not written as one. -/
  | malformed
  /-- It has too many digits. -/
  | tooLong (digits : Nat)
  deriving DecidableEq, Repr

/-- The wording for a number with too many digits. -/
def tooLongMessage (digits : Nat) : String :=
  s!"Exceeds the limit ({digitLimit} digits) for integer string conversion: " ++
    s!"value has {digits} digits; use sys.set_int_max_str_digits() to increase the limit"

/-- Whether a number has more digits than are shown. -/
def isLong (value : Int) : Bool := Nat.pow 10 digitLimit ≤ value.natAbs

/-- The wording for a number with more digits than are shown. -/
def longNumberMessage : String :=
  s!"Exceeds the limit ({digitLimit} digits) for integer string conversion; " ++
    "use sys.set_int_max_str_digits() to increase the limit"

/-- The digits of a text that holds digits and single underscores between them; `afterDigit` tells
whether a digit stands just before. -/
def digitsBetweenUnderscores (afterDigit : Bool) : List Char → Option (List Char)
  | [] => if afterDigit then some [] else none
  | '_' :: rest => if afterDigit then digitsBetweenUnderscores false rest else none
  | c :: rest =>
    if isDigit c then (digitsBetweenUnderscores true rest).map (c :: ·) else none

/-- The number that a run of digits stands for, unless it is too long. -/
def naturalOfDigits (digits : List Char) : Except IntegerProblem Nat :=
  if digitLimit < digits.length then .error (.tooLong digits.length)
  else .ok (digitsValue digits)

/-- Split off a leading sign; the flag tells whether it is a minus. -/
def takeSign : List Char → Bool × List Char
  | '-' :: rest => (true, rest)
  | '+' :: rest => (false, rest)
  | text => (false, text)

/-- A number with a sign. -/
def signed (negative : Bool) (magnitude : Nat) : Int :=
  if negative then -(magnitude : Int) else magnitude

/-- The whole number that a text stands for. -/
def readInteger (text : List Char) : Except IntegerProblem Int :=
  let (negative, body) := takeSign (trimNumber text)
  match digitsBetweenUnderscores false body with
  | none => .error .malformed
  | some digits => (naturalOfDigits digits).map (signed negative)

end NegativeCompile.Text

import NegativeCompile.Number.Binary64
import NegativeCompile.Text.Hex
import NegativeCompile.Text.Integer

/-! # Floating point numbers in text

Reading a floating point number in decimal notation: blanks around it, a sign, digits of any script
with single underscores between them, a point, an exponent, or the name of an infinity or of an
undefined result. -/

namespace NegativeCompile.Number.Binary64

open NegativeCompile.Text

/-- A decimal number in text, taken apart. -/
structure DecimalText where
  /-- The digits before the point. -/
  whole : List Char
  /-- The digits after the point. -/
  fraction : List Char
  /-- The exponent. -/
  exponent : Int

/-- The nearest number to a decimal number in text. An exponent beyond all finite numbers is
settled without computing its power of ten. -/
def ofDecimal (negative : Bool) (number : DecimalText) : Binary64 :=
  let digits := number.whole ++ number.fraction
  let significand := digitsValue digits
  let exponent := number.exponent - number.fraction.length
  if significand = 0 then .finite negative 0
  else
    let leading := exponent + digits.length
    if 400 + digits.length < leading then .infinite negative
    else if leading < -400 then .finite negative 0
    else if 0 ≤ exponent then ofRatio negative (significand * Nat.pow 10 exponent.toNat) 1
    else ofRatio negative significand (Nat.pow 10 (-exponent).toNat)

/-- Split a text at its first character of a kind. -/
def splitAtFirst (isSplit : Char → Bool) (text : List Char) : List Char × Option (List Char) :=
  match text.dropWhile (!isSplit ·) with
  | [] => (text, none)
  | _ :: rest => (text.takeWhile (!isSplit ·), some rest)

/-- The digits of a possibly empty run of digits. -/
def digitRun (text : List Char) : Option (List Char) :=
  if text.isEmpty then some [] else digitsBetweenUnderscores false text

/-- The exponent in a text. -/
def readExponent (text : List Char) : Option Int :=
  let (negative, body) := takeSign text
  (digitsBetweenUnderscores false body).map fun digits => signed negative (digitsValue digits)

/-- Take apart a decimal number without sign. -/
def readDecimal (text : List Char) : Option DecimalText := do
  let (mantissa, exponentText) := splitAtFirst (fun c => c = 'e' || c = 'E') text
  let exponent ← match exponentText with
    | none => some 0
    | some body => readExponent body
  let (wholeText, fractionText) := splitAtFirst (· = '.') mantissa
  let whole ← digitRun wholeText
  let fraction ← digitRun (fractionText.getD [])
  if whole.isEmpty && fraction.isEmpty then none else some ⟨whole, fraction, exponent⟩

/-- The ASCII letters of a text in lower case. -/
def lowerAscii (text : List Char) : String := String.ofList (text.map Char.toLower)

/-- The number that a text stands for. -/
def read (text : List Char) : Option Binary64 :=
  let (negative, body) := takeSign (trimNumber text)
  let name := lowerAscii body
  if name = "inf" || name = "infinity" then some (.infinite negative)
  else if name = "nan" then some .notANumber
  else (readDecimal body).map (ofDecimal negative)

end NegativeCompile.Number.Binary64

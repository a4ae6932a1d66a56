import NegativeCompile.Datum.Written
import NegativeCompile.Number.Binary64.Reader
import NegativeCompile.Text.Casing
import NegativeCompile.Text.Hex
import NegativeCompile.Yaml.Node
import NegativeCompile.Yaml.Token

/-! # Values of scalars

The datum that the text of a scalar stands for, by its tag. -/

namespace NegativeCompile.Text.Base64

/-! ## Bytes in letters

Bytes written with sixty-four characters, four characters for three bytes. Other characters are
passed over, and padding at the end is required. -/

/-- The value of a character. -/
def value? (c : Char) : Option Nat :=
  let code := c.toNat
  if 65 ≤ code && code ≤ 90 then some (code - 65)
  else if 97 ≤ code && code ≤ 122 then some (code - 71)
  else if isAsciiDigit c then some (code + 4)
  else if c = '+' then some 62
  else if c = '/' then some 63
  else none

/-- Read from a place on, `count` characters of a group of four having been read with the value
`held`, and `pads` padding characters; `read` holds the bytes before, last first. -/
def readFrom (read : List UInt8) (count held pads : Nat) : List Char → Option (List UInt8)
  | [] => if count = 0 then some read.reverse else none
  | c :: rest =>
    if c = '=' then
      if 2 ≤ count && 4 ≤ count + pads + 1 then some read.reverse
      else readFrom read count held (if 2 ≤ count then pads + 1 else pads) rest
    else match value? c with
      | none => readFrom read count held pads rest
      | some value =>
        match count with
        | 0 => readFrom read 1 value 0 rest
        | 1 => readFrom (UInt8.ofNat (held * 4 + value / 16) :: read) 2 (value % 16) 0 rest
        | 2 => readFrom (UInt8.ofNat (held * 16 + value / 4) :: read) 3 (value % 4) 0 rest
        | _ => readFrom (UInt8.ofNat (held * 64 + value) :: read) 0 0 0 rest

/-- The bytes that a text stands for. -/
def read (text : List Char) : Option (List UInt8) :=
  if text.all fun c => c.toNat < 128 then readFrom [] 0 0 0 text else none

end NegativeCompile.Text.Base64

namespace NegativeCompile.Yaml.Scalar

open Number Text

/-! ## Numbers -/

/-- A text without underscores. -/
def withoutUnderscores (text : String) : List Char := text.toList.filter (· ≠ '_')

/-- A refusal of a value that makes no sense. -/
def senseless (message : String) : Problem := .failure (.senseless message)

/-- A refusal of a text that is no whole number in a base. -/
def noInteger (base : Nat) (text : List Char) : Problem :=
  senseless s!"invalid literal for int() with base {base}: {String.ofList (quoted text)}"

/-- A refusal of a text that has no first character. -/
def noFirst : Problem := .failure (.place "string index out of range")

/-- The value of a digit of any script or of a letter as a digit. -/
def digitIn? (base : Nat) (c : Char) : Option Nat := do
  let value ← (digitValue? c).or (hexValue? c)
  if value < base then some value else none

/-- The number that digits stand for in a base, most significant first, after `high`. -/
def valueFrom? (base high : Nat) : List Char → Option Nat
  | [] => some high
  | c :: rest => do valueFrom? base (base * high + (← digitIn? base c)) rest

/-- A text without the zero and the letter that may come before digits in a base. -/
def withoutLead (letter : Char) : List Char → List Char
  | '0' :: c :: rest => if c = letter || c = letter.toUpper then rest else '0' :: c :: rest
  | text => text

/-- The whole number that a text stands for in a base of two, eight or sixteen: blanks around it, a
sign, the letter of the base after a zero, and digits. -/
def integerInBase (base : Nat) (letter : Char) (text : List Char) : Except Problem Int :=
  let (isNegative, body) := takeSign (trimNumber text)
  let digits := withoutLead letter body
  match digits, valueFrom? base 0 digits with
  | _ :: _, some value => .ok (signed isNegative value)
  | _, _ => .error (noInteger base text)

/-- The whole number that a text stands for in decimal notation. -/
def decimalInteger (text : List Char) : Except Problem Int :=
  match readInteger text with
  | .ok number => .ok number
  | .error problem => .error (.failure (.ofInteger text problem))

/-- The number that parts of sixty stand for, the largest first, after `high`. -/
def sixtiesFrom (high : Int) : List (List Char) → Except Problem Int
  | [] => .ok high
  | part :: rest => do sixtiesFrom (60 * high + (← decimalInteger part)) rest

/-- The whole number that a text stands for, after a sign. -/
def magnitude (text : List Char) : Except Problem Int :=
  match text with
  | [] => .error noFirst
  | ['0'] => .ok 0
  | '0' :: 'b' :: digits => integerInBase 2 'b' digits
  | '0' :: 'x' :: digits => integerInBase 16 'x' digits
  | '0' :: digits => integerInBase 8 'o' ('0' :: digits)
  | _ => if text.contains ':' then sixtiesFrom 0 (splitAtChar ':' text) else decimalInteger text

/-- The whole number that a text stands for. -/
def integer (text : String) : Except Problem Int := do
  let (isNegative, body) := takeSign (withoutUnderscores text)
  let found ← magnitude body
  return if isNegative then -found else found

/-- The floating point number that a text stands for in decimal notation. -/
def plainReal (text : List Char) : Except Problem Binary64 :=
  match Binary64.read text with
  | some number => .ok number
  | none => .error (senseless s!"could not convert string to float: {String.ofList (quoted text)}")

/-- The number that parts of sixty stand for, the smallest first, added to `sum`. -/
def realSixtiesFrom (sum : Binary64) (base : Int) : List Binary64 → Except Problem Binary64
  | [] => .ok sum
  | digit :: rest =>
    let weight := Binary64.ofInt base
    if weight.isFinite then realSixtiesFrom (sum.add (digit.mul weight)) (base * 60) rest
    else .error (.failure (.overflow "int too large to convert to float"))

/-- The word for an undefined number. -/
def undefinedWord : List Char := ".nan".toList

/-- The text of a floating point number without underscores, in lower case. -/
def realText (text : String) : List Char := lower (withoutUnderscores text)

/-- The floating point number that a text stands for. -/
def real (text : String) : Except Problem Binary64 := do
  let whole := realText text
  if whole.isEmpty then throw noFirst
  let (isNegative, body) := takeSign whole
  let found ←
    if body = ".inf".toList then pure (.infinite false)
    else if body = undefinedWord then pure .notANumber
    else if body.contains ':' then do
      let parts ← (splitAtChar ':' body).mapM plainReal
      realSixtiesFrom .zero 1 parts.reverse
    else plainReal body
  return if isNegative then found.neg else found

/-- Whether a text is the word for an undefined number, which is one and the same wherever it
stands. -/
def isUndefinedWord (text : String) : Bool := (takeSign (realText text)).2 = undefinedWord

/-! ## Dates -/

/-- Refuse dates that do not exist. -/
def checkDate (year month day : Nat) : Except Problem Unit :=
  if year = 0 then .error (senseless "year 0 is out of range")
  else if month = 0 || 12 < month then .error (senseless "month must be in 1..12")
  else if day = 0 || Moment.daysIn year month < day then
    .error (senseless "day is out of range for month")
  else .ok ()

/-- Refuse times of day that do not exist. -/
def checkTime (hour minute second : Nat) : Except Problem Unit :=
  if 23 < hour then .error (senseless "hour must be in 0..23")
  else if 59 < minute then .error (senseless "minute must be in 0..59")
  else if 59 < second then .error (senseless "second must be in 0..59")
  else .ok ()

/-- The number that ASCII digits stand for. -/
def number (digits : List Char) : Nat := positional 10 digits

/-- The distance from universal time that is written. -/
def zone (written : Option (Option Char × List Char × List Char)) :
    Except Problem (Option Int) :=
  match written with
  | none => .ok none
  | some (sign, hours, minutes) =>
    let size : Int := (number hours * 60 + number minutes : Nat)
    let distance := if sign = some '-' then -size else size
    if size < 24 * 60 then .ok (some distance)
    else
      let span := Moment.writtenSpan distance
      .error (senseless ("offset must be a timedelta strictly between " ++
        s!"-timedelta(hours=24) and timedelta(hours=24), not {span}."))

/-- The millionths of a second that digits after a point stand for. -/
def millionths (digits : List Char) : Nat :=
  let shown := digits.take 6
  number (shown ++ List.replicate (6 - shown.length) '0')

/-- The date or point in time that a text stands for. -/
def date (text : String) : Except Problem Datum :=
  match Kind.readDate (Kind.withoutFinalBreak text.toList) with
  | none => .error (.failure (.absent "'NoneType' object has no attribute 'groupdict'"))
  | some found => do
    let year := number found.year
    let month := number found.month
    let day := number found.day
    match found.time with
    | none => do
      checkDate year month day
      return .date year month day
    | some time => do
      let distance ← zone time.zone
      let hour := number time.hour
      let minute := number time.minute
      let second := number time.second
      checkDate year month day
      checkTime hour minute second
      return .moment ⟨year, month, day, hour, minute, second, millionths time.fraction, distance⟩

/-! ## Scalars -/

/-- The truth value of a word. -/
def truth (text : String) : Except Problem Datum :=
  let word := String.ofList (lower text.toList)
  if word = "yes" || word = "true" || word = "on" then .ok (.boolean true)
  else if word = "no" || word = "false" || word = "off" then .ok (.boolean false)
  else .error (.failure (.unknownKey word))

/-- The datum that a text stands for, by the name of its tag. -/
def ofText (name text : String) : Except Problem Datum :=
  match name with
  | "str" => .ok (.text text)
  | "null" => .ok .nothing
  | "bool" => truth text
  | "int" => (integer text).map .integer
  | "float" => (real text).map .real
  | "timestamp" => date text
  | "binary" =>
    match Base64.read text.toList with
    | some bytes => .ok (.bytes bytes)
    | none => .error .malformed
  | _ => .error .malformed

end NegativeCompile.Yaml.Scalar

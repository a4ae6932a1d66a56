/-! # Hexadecimal digits

Writing numbers with lower-case hexadecimal digits at a least width, and the values of single
octal and hexadecimal digits. -/

namespace NegativeCompile.Text

/-- The lower-case hexadecimal digit of a number below sixteen. -/
def hexDigit (value : Nat) : Char :=
  if value < 10 then Char.ofNat (48 + value) else Char.ofNat (87 + value)

/-- The last `width` hexadecimal digits of a number. -/
def hexPadded : Nat → Nat → List Char
  | 0, _ => []
  | width + 1, value => hexPadded width (value / 16) ++ [hexDigit (value % 16)]

/-- There are as many digits as were asked for. -/
@[simp] theorem length_hexPadded (width value : Nat) : (hexPadded width value).length = width := by
  induction width generalizing value with
  | zero => rfl
  | succ width ih => simp [hexPadded, ih]

/-- The value of an ASCII hexadecimal digit of either case. -/
def hexValue? (c : Char) : Option Nat :=
  let code := c.toNat
  if 48 ≤ code && code ≤ 57 then some (code - 48)
  else if 97 ≤ code && code ≤ 102 then some (code - 87)
  else if 65 ≤ code && code ≤ 70 then some (code - 55)
  else none

/-- Whether a character is an ASCII hexadecimal digit. -/
def isHexDigit (c : Char) : Bool := (hexValue? c).isSome

/-- Whether a character is an ASCII octal digit. -/
def isOctalDigit (c : Char) : Bool := 48 ≤ c.toNat && c.toNat ≤ 55

/-- Whether a character is an ASCII decimal digit. -/
def isAsciiDigit (c : Char) : Bool := 48 ≤ c.toNat && c.toNat ≤ 57

/-- Whether a character is an ASCII letter. -/
def isAsciiLetter (c : Char) : Bool :=
  (65 ≤ c.toNat && c.toNat ≤ 90) || (97 ≤ c.toNat && c.toNat ≤ 122)

/-- The number that ASCII digits stand for in a base, most significant first, after `high`. -/
def positionalFrom (base high : Nat) : List Char → Nat
  | [] => high
  | c :: rest => positionalFrom base (base * high + (hexValue? c).getD 0) rest

/-- The number that ASCII digits stand for in a base. -/
def positional (base : Nat) (digits : List Char) : Nat := positionalFrom base 0 digits

/-- The decimal digits of a number. -/
def decimal (value : Nat) : List Char := (toString value).toList

end NegativeCompile.Text

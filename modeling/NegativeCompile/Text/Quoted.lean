import NegativeCompile.Text.Hex
import NegativeCompile.Text.Printable
import NegativeCompile.Text.Utf8

/-! # Quoted text

A text or a byte string as it is shown inside messages: between single quotes, or between double
quotes when it holds single quotes only, with escapes for the quote, the backslash and every
character that cannot be printed. -/

namespace NegativeCompile.Text

/-- The quote put around a text: a double quote only where that saves escaping single quotes. -/
def quoteFor (text : List Char) : Char :=
  if text.contains '\'' && !text.contains '"' then '"' else '\''

/-- A character that cannot be printed, as an escape of the least sufficient width. -/
def codeEscape (code : Nat) : List Char :=
  if code < 0x100 then '\\' :: 'x' :: hexPadded 2 code
  else if code < 0x10000 then '\\' :: 'u' :: hexPadded 4 code
  else '\\' :: 'U' :: hexPadded 8 code

/-- One character as it stands between the given quotes. -/
def quotedChar (quote c : Char) : List Char :=
  if c = quote || c = '\\' then ['\\', c]
  else if c = '\t' then ['\\', 't']
  else if c = '\n' then ['\\', 'n']
  else if c = '\r' then ['\\', 'r']
  else if isPrintable c then [c]
  else codeEscape (codeOf c)

/-- A text between quotes. -/
def quoted (text : List Char) : List Char :=
  let quote := quoteFor text
  quote :: text.flatMap (quotedChar quote) ++ [quote]

/-- A string between quotes. -/
def quotedString (text : String) : String := String.ofList (quoted text.toList)

/-- One byte as it stands between the given quotes. -/
def quotedByte (quote : Char) (byte : UInt8) : List Char :=
  let code := byte.toNat
  if code < 128 then quotedChar quote (Char.ofNat code) else '\\' :: 'x' :: hexPadded 2 code

/-- A byte string between quotes, marked by a `b`. -/
def quotedBytes (bytes : List UInt8) : List Char :=
  let quote := quoteFor (bytes.map fun byte => Char.ofNat byte.toNat)
  'b' :: quote :: bytes.flatMap (quotedByte quote) ++ [quote]

end NegativeCompile.Text

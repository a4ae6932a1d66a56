import NegativeCompile.Text.Blank
import NegativeCompile.Text.Hex
import NegativeCompile.Text.Ranges

/-! # Computed names of characters

Names that follow from the code of the character: those of ideographs hold the code, those of Hangul
syllables spell the sounds that the code is composed of, and selectors are numbered. -/

namespace NegativeCompile.Text

/-- What comes after a word that a text starts with. -/
def afterWord? (word : String) (text : List Char) : Option (List Char) :=
  let lead := word.toList
  if lead.isPrefixOf text then some (text.drop lead.length) else none

/-- The number that upper-case hexadecimal digits stand for. -/
def upperHex? (digits : List Char) : Option Nat :=
  if digits.all fun c => isAsciiDigit c || ('A' ≤ c && c ≤ 'F') then some (positional 16 digits)
  else none

/-! ## Ideographs -/

/-- The ideographs whose names hold their codes. -/
def unifiedIdeographs : Ranges := ⟨#[
  (0x3400, 0x4dbf), (0x4e00, 0x9fff), (0x20000, 0x2a6df), (0x2a700, 0x2b738), (0x2b740, 0x2b81d),
  (0x2b820, 0x2cea1), (0x2ceb0, 0x2ebe0), (0x30000, 0x3134a)]⟩

/-- The code of the ideograph that four or five digits name. -/
def ideograph? (digits : List Char) : Option Nat := do
  if digits.length ≠ 4 && digits.length ≠ 5 then failure
  let code ← upperHex? digits
  if unifiedIdeographs.contains code then return code else failure

/-- The words before the code in the names of some other characters. -/
def codedNames : List (String × Ranges) := [
  ("CJK COMPATIBILITY IDEOGRAPH-",
    ⟨#[(0xf900, 0xfa6d), (0xfa70, 0xfad9), (0x2f800, 0x2fa1d)]⟩),
  ("KHITAN SMALL SCRIPT CHARACTER-", ⟨#[(0x18b00, 0x18cd5)]⟩),
  ("NUSHU CHARACTER-", ⟨#[(0x1b170, 0x1b2fb)]⟩)]

/-- The code of a character whose name, in upper case, holds it without more digits than needed. -/
def coded? (name : List Char) : Option Nat :=
  codedNames.findSome? fun (lead, codes) => do
    let digits ← afterWord? lead name
    let code ← upperHex? digits
    if codes.contains code && (digits.length = if code < 0x10000 then 4 else 5) then return code
    else failure

/-! ## Syllables -/

/-- The sounds that a syllable can start with. -/
def leadingSounds : List String :=
  ["G", "GG", "N", "D", "DD", "R", "M", "B", "BB", "S", "SS", "", "J", "JJ", "C", "K", "T", "P",
    "H"]

/-- The vowels of syllables. -/
def vowelSounds : List String :=
  ["A", "AE", "YA", "YAE", "EO", "E", "YEO", "YE", "O", "WA", "WAE", "OE", "YO", "U", "WEO", "WE",
    "WI", "YU", "EU", "YI", "I"]

/-- The sounds that a syllable can end with. -/
def trailingSounds : List String :=
  ["", "G", "GG", "GS", "N", "NJ", "NH", "D", "L", "LG", "LM", "LB", "LS", "LT", "LP", "LH", "M",
    "B", "BS", "S", "SS", "NG", "J", "C", "K", "T", "P", "H"]

/-- The longest of some sounds that a text starts with: its number and the rest of the text. -/
def longestSound? (sounds : List String) (text : List Char) : Option (Nat × List Char) :=
  sounds.zipIdx.foldl
    (fun best (sound, number) =>
      match afterWord? sound text, best with
      | some rest, some (_, shortest) =>
        if rest.length < shortest.length then some (number, rest) else best
      | some rest, none => some (number, rest)
      | none, _ => best)
    none

/-- The code of the syllable that a spelling names. -/
def syllable? (spelling : List Char) : Option Nat := do
  let (leading, afterLeading) ← longestSound? leadingSounds spelling
  let (vowel, afterVowel) ← longestSound? vowelSounds afterLeading
  let (trailing, rest) ← longestSound? trailingSounds afterVowel
  if rest.isEmpty then
    return 0xac00 + (leading * vowelSounds.length + vowel) * trailingSounds.length + trailing
  else failure

/-! ## Selectors -/

/-- The code of a numbered selector that a short name in upper case stands for. -/
def selector? (name : List Char) : Option Nat := do
  let digits ← afterWord? "VS" name
  let number := positional 10 digits
  if digits ≠ decimal number || number = 0 || 256 < number then failure
  return if number ≤ 16 then 0xfdff + number else 0xe00ef + number

end NegativeCompile.Text

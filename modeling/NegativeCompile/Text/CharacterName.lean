import NegativeCompile.Text.CharacterName.Computed
import NegativeCompile.Text.CharacterName.EastAsian
import NegativeCompile.Text.CharacterName.Letters
import NegativeCompile.Text.CharacterName.Other
import NegativeCompile.Text.CharacterName.Rare
import NegativeCompile.Text.CharacterName.Symbols

/-! # Character names

Characters that a text may ask for by name: the names of the Unicode standard in its version 14. -/

namespace NegativeCompile.Text

/-- All rows of names. -/
def namedRows : List (List NamedRow) :=
  [europeanNames, semiticNames, indianNames, asianNames, phoneticNames, technicalNames, arrowNames,
    ideographicNames, syllabicNames, presentationNames, ancientNames, laterNames, musicalNames,
    pictorialNames]

/-- The code of the character that a name in upper case is listed for. -/
def listedName? (name : List Char) : Option Nat :=
  let words := splitAtChar ' ' name
  (otherNames.lookup (String.ofList name)).orElse fun _ =>
    namedRows.findSome? fun rows => rows.findSome? fun row => row.code? words

/-- The code of the character of a name. The names of unified ideographs and of syllables are given
in upper case, all others in either case. -/
def characterNamed? (name : String) : Option Nat :=
  let text := name.toList
  if text.isEmpty then none
  else
    match afterWord? "HANGUL SYLLABLE " text, afterWord? "CJK UNIFIED IDEOGRAPH-" text with
    | some spelling, _ => syllable? spelling
    | none, some digits => ideograph? digits
    | none, none =>
      let upper := text.map Char.toUpper
      ((coded? upper).orElse fun _ => selector? upper).orElse fun _ => listedName? upper

end NegativeCompile.Text

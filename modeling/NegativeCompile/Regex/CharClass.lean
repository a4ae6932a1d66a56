import NegativeCompile.Regex.Pattern
import NegativeCompile.Text.Alphanumeric
import NegativeCompile.Text.Blank
import NegativeCompile.Text.Casing
import NegativeCompile.Text.Hex
import NegativeCompile.Text.Integer

/-! # Matching single characters

Which characters belong to a class or a set, with and without regard to case. -/

namespace NegativeCompile.Regex

open Text

/-- Whether a character belongs to a class of ASCII characters. -/
def Category.containsAscii (kind : Category) (c : Char) : Bool :=
  match kind with
  | .digit => isAsciiDigit c
  | .space => c = ' ' || (9 ≤ c.toNat && c.toNat ≤ 13)
  | .word => isAsciiLetter c || isAsciiDigit c || c = '_'

/-- Whether a character belongs to a class of characters. -/
def Category.contains (kind : Category) (ascii : Bool) (c : Char) : Bool :=
  if ascii then kind.containsAscii c
  else match kind with
    | .digit => isDigit c
    | .space => isBlank c
    | .word => isWordChar c

/-- The lower case of a code point, of ASCII letters only if classes are ASCII. -/
def lowerIn (ascii : Bool) (code : Nat) : Nat :=
  if ascii then lowerAsciiCode code else lowerCode code

/-- Whether a code point has another case, for ASCII letters only if classes are ASCII. -/
def isCasedIn (ascii : Bool) (code : Nat) : Bool :=
  if ascii then isCasedAsciiCode code else isCasedCode code

/-- Whether some code point between two has another case. -/
def rangeIsCased (ascii : Bool) (first last : Nat) : Bool :=
  if ascii then (first ≤ 90 && 65 ≤ last) || (first ≤ 122 && 97 ≤ last)
  else casedRanges.meets first last

/-- The last code point of the basic plane. -/
def basicPlaneEnd : Nat := 0xffff

/-- Whether a set counts as having case: some member has another case or lies beyond the basic
plane. -/
def SetItem.isCased (ascii : Bool) : SetItem → Bool
  | .char code => isCasedIn ascii code || basicPlaneEnd < code
  | .range first last => rangeIsCased ascii first last || basicPlaneEnd < last
  | .category _ _ => false

/-- The code points that agree with a lower-case one when case is ignored. -/
def variantsIn (ascii : Bool) (lower : Nat) : List Nat :=
  if ascii then
    (if 97 ≤ lower && lower ≤ 122 then [lower, lower - 32]
     else if 65 ≤ lower && lower ≤ 90 then [] else [lower])
  else caseVariants lower

/-- Whether a member of a set stands for a character, case and all. -/
def SetItem.holds (ascii : Bool) (c : Char) : SetItem → Bool
  | .char code => c.toNat == code
  | .range first last => first ≤ c.toNat && c.toNat ≤ last
  | .category kind negated => kind.contains ascii c != negated

/-- Whether a member of a set stands for a character given in lower case, case being ignored. A
single character beyond the basic plane stands for itself only; a range that ends there also stands
for what has the start of its upper case in it. -/
def SetItem.holdsIgnoringCase (ascii : Bool) (lower : Nat) : SetItem → Bool
  | .char code =>
    if basicPlaneEnd < code then lower == code else (variantsIn ascii lower).contains code
  | .range first last =>
    let isWithin (code : Nat) : Bool := first ≤ code && code ≤ last
    (variantsIn ascii lower).any (fun code => isWithin code && code ≤ basicPlaneEnd) ||
      (basicPlaneEnd < last && (isWithin lower || isWithin (upperCode lower)))
  | .category kind negated => kind.contains ascii (Char.ofNat lower) != negated

/-- Whether case makes a difference for a set of characters. -/
def isFolded (options : Options) (items : List SetItem) : Bool :=
  options.ignoreCase && items.any (·.isCased options.ascii)

/-- Whether a set of characters, or everything outside it, holds a character. -/
def setHolds (options : Options) (negated : Bool) (items : List SetItem) (c : Char) : Bool :=
  let found :=
    if isFolded options items then
      let lower := lowerIn options.ascii c.toNat
      items.any (·.holdsIgnoringCase options.ascii lower)
    else items.any (·.holds options.ascii c)
  found != negated

/-- Whether case makes a difference for a single character of a pattern. -/
def isFoldedChar (options : Options) (code : Nat) : Bool :=
  options.ignoreCase && isCasedIn options.ascii code

/-- The other characters that agree with a character in lower case when case is ignored. -/
def sharersIn (ascii : Bool) (lower : Nat) : List Nat := if ascii then [] else sharersOf lower

/-- Whether a single character of a pattern stands for a character. -/
def charHolds (options : Options) (code : Nat) (c : Char) : Bool :=
  if isFoldedChar options code then
    let lower := lowerIn options.ascii code
    let other := lowerIn options.ascii c.toNat
    other == lower || (sharersIn options.ascii lower).contains other
  else c.toNat == code

/-- An expression that stands for single characters. -/
structure Single where
  /-- The test on a character. -/
  test : Char → Bool
  /-- Whether places are noted one by one while such characters are counted. -/
  notes : Bool

/-- The test on one character that an expression amounts to, if it does. -/
def Node.single? (options : Options) : Node → Option Single
  | .char code negated =>
    let isSet := isFoldedChar options code &&
      !(sharersIn options.ascii (lowerIn options.ascii code)).isEmpty
    some ⟨fun c => charHolds options code c != negated, isSet⟩
  | .any => some ⟨fun c => options.dotAll || c != '\n', false⟩
  | .set negated items => some ⟨setHolds options negated items, isFolded options items⟩
  | .scoped change body => body.single? (change.apply options)
  | .seq first .empty => first.single? options
  | _ => none

/-! ## Openers -/

/-- What an expression starts with. -/
inductive Opener where
  /-- A character in which case makes no difference. -/
  | character (code : Nat)
  /-- A set of characters in which case makes no difference, as a test. -/
  | set (test : Char → Bool)
  /-- Anything else. -/
  | other

/-- What an expression starts with, unless it has no parts. -/
def Node.opener? (options : Options) : Node → Option Opener
  | .empty => none
  | .seq first second => (first.opener? options).or (second.opener? options)
  | .char code false => some (if isFoldedChar options code then .other else .character code)
  | .set negated items =>
    some (if isFolded options items then .other else .set (setHolds options negated items))
  | .scoped change body => body.opener? (change.apply options)
  | _ => some .other

/-- Whether an opener cannot match at a place. -/
def Opener.isRefuted (text : Array Char) (place : Nat) : Opener → Bool
  | .character code => !(text[place]?).any (·.toNat == code)
  | .set test => !(text[place]?).any test
  | .other => false

/-- Whether a sequence starts with characters in which case makes no difference; nothing is known
of one without parts. -/
def Node.startsFixed? (options : Options) : Node → Option Bool
  | .empty => none
  | .seq first second => (first.startsFixed? options).or (second.startsFixed? options)
  | .char code false => some !(isFoldedChar options code)
  | .capture _ body => body.startsFixed? options
  | .scoped change body => body.startsFixed? (change.apply options)
  | _ => some false

/-- Whether the first item of each of several sequences is a character in which case makes no
difference. -/
def Node.allOpenFixed (options : Options) : Node → Bool
  | .seq (.char code false) _ => !isFoldedChar options code
  | .alt first second => first.allOpenFixed options && second.allOpenFixed options
  | _ => false

/-- Whether case makes no difference for a member of a set and its characters can be listed. -/
def SetItem.isFixed (options : Options) : SetItem → Bool
  | .char code => !isFoldedChar options code
  | .range first last =>
    !options.ignoreCase || (last ≤ basicPlaneEnd && !rangeIsCased options.ascii first last)
  | .category _ _ => true

/-- Whether the first item of a sequence is one of some characters in which case makes no
difference. -/
def Node.opensInSet (options : Options) : Node → Bool
  | .seq first _ => first.opensInSet options
  | .capture _ body => body.opensInSet options
  | .scoped change body => body.opensInSet (change.apply options)
  | .alt first second => (Node.alt first second).allOpenFixed options
  | .set _ items => items.all (·.isFixed options)
  | _ => false

/-- Whether it is known of a sequence which characters it can start with. -/
def Node.hasKnownStart (options : Options) (body : Node) : Bool :=
  (body.startsFixed? options).getD false || body.opensInSet options

end NegativeCompile.Regex

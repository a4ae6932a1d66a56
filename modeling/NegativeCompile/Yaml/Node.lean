import NegativeCompile.Text.Hex
import NegativeCompile.Text.Integer

/-! # Nodes of configuration files

The scalars, lists and mappings that a configuration file stands for, each with a tag that tells its
kind. They hold one another by numbers, because a reference to a marked node stands for that very
node, also within itself. -/

namespace NegativeCompile.Yaml

/-- The number of a node. -/
abbrev NodeNumber := Nat

/-- What a node holds. -/
inductive NodeContent where
  /-- A text. -/
  | scalar (text : String)
  /-- Items. -/
  | sequence (items : List NodeNumber)
  /-- Keys with values. -/
  | mapping (entries : List (NodeNumber × NodeNumber))
  deriving Inhabited, Repr

/-- A node. -/
structure Node where
  /-- The tag. -/
  tag : String
  /-- What it holds. -/
  content : NodeContent
  deriving Inhabited, Repr

/-- Nodes by their numbers. -/
abbrev NodeGraph := Array Node

namespace NodeGraph

/-- The node of a number. -/
def node (graph : NodeGraph) (number : NodeNumber) : Node := graph.getD number default

/-- The entries of a node that is a mapping. -/
def entries? (graph : NodeGraph) (number : NodeNumber) : Option (List (NodeNumber × NodeNumber)) :=
  match (graph.node number).content with
  | .mapping entries => some entries
  | _ => none

end NodeGraph

/-- What the tags of the notation itself start with. -/
def coreLead : String := "tag:yaml.org,2002:"

/-- A tag of the notation itself. -/
def coreTag (name : String) : String := coreLead ++ name

end NegativeCompile.Yaml

namespace NegativeCompile.Yaml.Kind

open Text

/-! ## Kinds of plain scalars

The tag that a plain scalar gets by its text: words for truth values and for nothing, numbers in
several bases, also with parts of sixty, dates, and everything else as text. -/

/-! ## Words -/

/-- The words for truth values. -/
def truthWords : List String :=
  ["yes", "Yes", "YES", "no", "No", "NO", "true", "True", "TRUE", "false", "False", "FALSE", "on",
    "On", "ON", "off", "Off", "OFF"]

/-- The words for nothing. -/
def nothingWords : List String := ["~", "null", "Null", "NULL", ""]

/-- The words for an infinity, after a sign. -/
def infinityWords : List String := [".inf", ".Inf", ".INF"]

/-- The words for an undefined number. -/
def undefinedWords : List String := [".nan", ".NaN", ".NAN"]

/-! ## Numbers -/

/-- Whether a text is a digit of some kind followed by such digits and underscores. -/
def isDigitRun (isFirst isOther : Char → Bool) : List Char → Bool
  | [] => false
  | c :: rest => isFirst c && rest.all fun d => isOther d || d = '_'

/-- Whether a text is not empty and holds digits of a kind and underscores only. -/
def isLooseRun (isDigit : Char → Bool) (text : List Char) : Bool :=
  !text.isEmpty && text.all fun c => isDigit c || c = '_'

/-- Whether a character is a digit from one on. -/
def isPositiveDigit (c : Char) : Bool := isAsciiDigit c && c ≠ '0'

/-- Whether a text is a number below sixty of one or two digits. -/
def isSixtieth : List Char → Bool
  | [c] => isAsciiDigit c
  | [c, d] => isAsciiDigit c && c.toNat < 54 && isAsciiDigit d
  | _ => false

/-- Whether a text is a whole number without sign. -/
def isNatural : List Char → Bool
  | '0' :: 'b' :: rest => isLooseRun (fun c => c = '0' || c = '1') rest
  | '0' :: 'x' :: rest => isLooseRun isHexDigit rest
  | ['0'] => true
  | '0' :: rest => isLooseRun isOctalDigit rest
  | text =>
    match splitAtChar ':' text with
    | [whole] => isDigitRun isPositiveDigit isAsciiDigit whole
    | whole :: parts => isDigitRun isPositiveDigit isAsciiDigit whole && parts.all isSixtieth
    | [] => false

/-- Whether a text is a whole number. -/
def isInteger (text : List Char) : Bool := isNatural (takeSign text).2

/-- Whether a text is nothing or an exponent with a sign. -/
def isExponent : List Char → Bool
  | [] => true
  | e :: sign :: digits =>
    (e = 'e' || e = 'E') && (sign = '+' || sign = '-') && !digits.isEmpty &&
      digits.all isAsciiDigit
  | _ => false

/-- Whether a text is made of digits and underscores and then possibly an exponent. -/
def isFraction (text : List Char) : Bool :=
  isExponent (text.dropWhile fun c => isAsciiDigit c || c = '_')

/-- Whether a text is a decimal number with a point, without sign. -/
def isDecimal (text : List Char) : Bool :=
  match text.dropWhile (· ≠ '.') with
  | [] => false
  | _ :: fraction =>
    let whole := text.takeWhile (· ≠ '.')
    match splitAtChar ':' whole with
    | [_] => isDigitRun isAsciiDigit isAsciiDigit whole && isFraction fraction
    | first :: parts =>
      isDigitRun isAsciiDigit isAsciiDigit first && parts.all isSixtieth &&
        fraction.all fun c => isAsciiDigit c || c = '_'
    | [] => false

/-- Whether a text is a decimal number that starts with its point. -/
def isBareFraction : List Char → Bool
  | '.' :: c :: rest => isAsciiDigit c && isFraction rest
  | _ => false

/-- Whether a text is a floating point number. -/
def isReal (text : List Char) : Bool :=
  let body := (takeSign text).2
  isDecimal body || isBareFraction text || infinityWords.contains (String.ofList body) ||
    undefinedWords.contains (String.ofList text)

/-! ## Dates -/

/-- The parts of a point in time as they are written. -/
structure TimeText where
  /-- The hour. -/
  hour : List Char
  /-- The minute. -/
  minute : List Char
  /-- The second. -/
  second : List Char
  /-- The digits after the second. -/
  fraction : List Char
  /-- The sign, the hours and the minutes of the distance from universal time, if it is given; the
  sign is missing for universal time itself. -/
  zone : Option (Option Char × List Char × List Char)

/-- The parts of a date as they are written. -/
structure DateText where
  /-- The year. -/
  year : List Char
  /-- The month. -/
  month : List Char
  /-- The day. -/
  day : List Char
  /-- The time of day, if it is given. -/
  time : Option TimeText

/-- Split off digits, at least and at most so many. -/
def takeDigits (least most : Nat) (text : List Char) : Option (List Char × List Char) :=
  let digits := (text.takeWhile isAsciiDigit).take most
  if digits.length < least then none else some (digits, text.drop digits.length)

/-- Split off a character. -/
def takeChar (c : Char) : List Char → Option (List Char)
  | d :: rest => if c = d then some rest else none
  | [] => none

/-- Read the distance from universal time that a text gives, if any. -/
def readZone (text : List Char) : Option (Option (Option Char × List Char × List Char)) :=
  match text.dropWhile fun c => c = ' ' || c = '\t' with
  | [] => if text.isEmpty then some none else none
  | ['Z'] => some (some (none, [], []))
  | sign :: rest =>
    if sign = '+' || sign = '-' then do
      let (hours, after) ← takeDigits 1 2 rest
      match after with
      | [] => some (some (some sign, hours, []))
      | ':' :: last => do
        let (minutes, others) ← takeDigits 2 2 last
        if others.isEmpty then some (some (some sign, hours, minutes)) else none
      | _ => none
    else none

/-- Read a time of day. -/
def readTime (text : List Char) : Option TimeText := do
  let (hour, afterHour) ← takeDigits 1 2 text
  let (minute, afterMinute) ← takeDigits 2 2 (← takeChar ':' afterHour)
  let (second, afterSecond) ← takeDigits 2 2 (← takeChar ':' afterMinute)
  let (fraction, rest) := match afterSecond with
    | '.' :: more => (more.takeWhile isAsciiDigit, more.dropWhile isAsciiDigit)
    | _ => ([], afterSecond)
  return ⟨hour, minute, second, fraction, ← readZone rest⟩

/-- Read what follows a date: nothing, or a separator and a time of day. -/
def readTail (text : List Char) : Option (Option TimeText) :=
  match text with
  | [] => some none
  | c :: rest =>
    if c = 'T' || c = 't' then (readTime rest).map some
    else if c = ' ' || c = '\t' then
      (readTime (rest.dropWhile fun d => d = ' ' || d = '\t')).map some
    else none

/-- Read a date, or a point in time; month and day may have a single digit. -/
def readDate (text : List Char) : Option DateText := do
  let (year, afterYear) ← takeDigits 4 4 text
  let (month, afterMonth) ← takeDigits 1 2 (← takeChar '-' afterYear)
  let (day, afterDay) ← takeDigits 1 2 (← takeChar '-' afterMonth)
  return ⟨year, month, day, ← readTail afterDay⟩

/-- Whether a text is a date or a point in time; a date alone has two digits for month and day. -/
def isDate (text : List Char) : Bool :=
  match readDate text with
  | none => false
  | some date => date.time.isSome || (date.month.length = 2 && date.day.length = 2)

/-! ## Tags -/

/-- A text without the line feed at its end, if there is something before that. -/
def withoutFinalBreak (text : List Char) : List Char :=
  match text.getLast? with
  | some '\n' => if text.length = 1 then text else text.dropLast
  | _ => text

/-- The tag of a scalar that is told by its text; a line feed at the end does not count. -/
def tagOf (whole : String) : String :=
  let chars := withoutFinalBreak whole.toList
  let text := String.ofList chars
  if truthWords.contains text then coreTag "bool"
  else if isReal chars then coreTag "float"
  else if isInteger chars then coreTag "int"
  else if text = "<<" then coreTag "merge"
  else if nothingWords.contains text then coreTag "null"
  else if isDate chars then coreTag "timestamp"
  else if text = "=" then coreTag "value"
  else coreTag "str"

end NegativeCompile.Yaml.Kind

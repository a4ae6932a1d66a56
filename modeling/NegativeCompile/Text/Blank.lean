/-! # Blank characters and line breaks

The characters that count as blank, the characters that end a line, and the operations built on
them: trimming, splitting into words, splitting into lines. Everything here works on lists of
characters, so that each operation is a recursion on the text. -/

namespace NegativeCompile.Text

/-- A character is blank if it is a separator, a bidirectional whitespace or one of the ASCII
control characters used for layout. -/
def isBlank (c : Char) : Bool :=
  let n := c.toNat
  (9 ≤ n && n ≤ 13) || (28 ≤ n && n ≤ 32) || n == 0x85 || n == 0xa0 || n == 0x1680 ||
    (0x2000 ≤ n && n ≤ 0x200a) || n == 0x2028 || n == 0x2029 || n == 0x202f || n == 0x205f ||
    n == 0x3000

/-- A character ends a line: line feed, vertical tab, form feed, carriage return, the file, group
and record separators, next line, and the Unicode line and paragraph separators. -/
def isLineBreak (c : Char) : Bool :=
  let n := c.toNat
  (10 ≤ n && n ≤ 13) || (28 ≤ n && n ≤ 30) || n == 0x85 || n == 0x2028 || n == 0x2029

/-- Every line break is blank. -/
theorem isBlank_of_isLineBreak {c : Char} (h : isLineBreak c = true) : isBlank c = true := by
  simp only [isLineBreak, isBlank, Bool.or_eq_true, Bool.and_eq_true, decide_eq_true_eq,
    beq_iff_eq] at h ⊢
  omega

/-! ## Trimming -/

/-- Drop the leading blanks. -/
def trimLeft (text : List Char) : List Char := text.dropWhile isBlank

/-- Drop the trailing blanks. -/
def trimRight (text : List Char) : List Char := (text.reverse.dropWhile isBlank).reverse

/-- Drop the blanks at both ends. -/
def trim (text : List Char) : List Char := trimRight (trimLeft text)

/-- Whether a line holds blanks only. -/
def isBlankLine (line : List Char) : Bool := line.all isBlank

/-- Nothing is dropped from nothing at the left. -/
@[simp] theorem trimLeft_nil : trimLeft [] = [] := rfl

/-- Nothing is dropped from nothing at the right. -/
@[simp] theorem trimRight_nil : trimRight [] = [] := rfl

/-- Nothing is dropped from nothing. -/
@[simp] theorem trim_nil : trim [] = [] := rfl

/-! ## Words -/

/-- Splits at runs of blanks; `word` holds the letters of the current word, last first. -/
def wordsFrom (word : List Char) : List Char → List (List Char)
  | [] => if word.isEmpty then [] else [word.reverse]
  | c :: rest =>
    if isBlank c then
      if word.isEmpty then wordsFrom [] rest else word.reverse :: wordsFrom [] rest
    else wordsFrom (c :: word) rest

/-- The maximal runs of characters that are not blank, in order. -/
def words (text : List Char) : List (List Char) := wordsFrom [] text

/-! ## Lines -/

/-- Splits at line breaks; `line` holds the characters of the current line, last first. A carriage
return followed by a line feed is one break, and a break at the very end opens no further line. -/
def linesFrom (line : List Char) : List Char → List (List Char)
  | [] => if line.isEmpty then [] else [line.reverse]
  | '\r' :: '\n' :: rest => line.reverse :: linesFrom [] rest
  | c :: rest =>
    if isLineBreak c then line.reverse :: linesFrom [] rest else linesFrom (c :: line) rest

/-- The lines of a text, without their line breaks. -/
def lines (text : List Char) : List (List Char) := linesFrom [] text

/-- A text as read from a file: each carriage return, alone or before a line feed, becomes a line
feed. -/
def unifyNewlines : List Char → List Char
  | [] => []
  | '\r' :: '\n' :: rest => '\n' :: unifyNewlines rest
  | c :: rest => (if c = '\r' then '\n' else c) :: unifyNewlines rest

/-! ## Substrings -/

/-- Whether `piece` starts the text. -/
def startsWith (piece text : List Char) : Bool := piece.isPrefixOf text

/-- Whether `piece` occurs somewhere in the text. -/
def occursIn (piece : List Char) : List Char → Bool
  | [] => piece.isEmpty
  | c :: rest => startsWith piece (c :: rest) || occursIn piece rest

/-- Whether one string occurs in another. -/
def containsString (text piece : String) : Bool := occursIn piece.toList text.toList

/-- The index of the first occurrence of `piece`, counted from `start`. -/
def findFrom (start : Nat) (piece : List Char) : List Char → Option Nat
  | [] => if piece.isEmpty then some start else none
  | c :: rest =>
    if startsWith piece (c :: rest) then some start else findFrom (start + 1) piece rest

/-- The index of the first occurrence of `piece`. -/
def find? (piece text : List Char) : Option Nat := findFrom 0 piece text

/-- Splits at each occurrence of one character; `piece` holds the current piece, last first. -/
def splitAtFrom (separator : Char) (piece : List Char) : List Char → List (List Char)
  | [] => [piece.reverse]
  | c :: rest =>
    if c = separator then piece.reverse :: splitAtFrom separator [] rest
    else splitAtFrom separator (c :: piece) rest

/-- The pieces of a text between the occurrences of one character. -/
def splitAtChar (separator : Char) (text : List Char) : List (List Char) :=
  splitAtFrom separator [] text

/-- The parts of a list with commas between them; blanks around a part do not count, and a part
without anything else is left out. -/
def commaList (text : String) : List String :=
  ((splitAtChar ',' text.toList).map fun piece => String.ofList (trim piece)).filter (· != "")

end NegativeCompile.Text

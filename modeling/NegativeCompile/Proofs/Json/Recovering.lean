import NegativeCompile.Proofs.Json.Rejoining
import NegativeCompile.Proofs.Number.Spelling

/-! # Documents are read back

A document that is written with every item on a line of its own is read back, if its floating point
numbers are numbers of the format (`Json.read_writeIndented`). Numbers, names and structure are read back
as they were; only halves of pairs of code units in strings are not (`Json.reread`). -/

namespace NegativeCompile

open Text Number

namespace Text

/-- ASCII digits stand for the number that the library reads them as. -/
theorem AreDigits.positional_eq {text : List Char} (digits : AreDigits text) :
    positional 10 text = Nat.ofDigitChars 10 text 0 := by
  have each : ∀ (rest : List Char) (high : Nat), AreDigits rest →
      positionalFrom 10 high rest = Nat.ofDigitChars 10 rest high := by
    intro rest
    induction rest with
    | nil => intro high _; rfl
    | cons c rest ih =>
      intro high digits
      have range := toNat_of_isDigit (digits c List.mem_cons_self)
      have value : hexValue? c = some (c.toNat - 48) := by
        rw [hexValue?, if_pos (by simpa using range)]
      rw [positionalFrom, value, ih _ fun other member => digits other (List.mem_cons_of_mem _ member)]
      rfl
  exact each text 0 digits

/-- The digits of a number stand for it. -/
theorem positional_digitsOf (number : Nat) : positional 10 (digitsOf number) = number := by
  rw [(areDigits_digitsOf number).positional_eq, digitsOf_eq]
  exact Nat.ofDigitChars_ten_toDigits

end Text

namespace Json

variable {document : Json} {items : List Json} {members : List (String × Json)}
variable {word rest text : List Char} {fuel level : Nat}

/-! ## Reread documents -/

mutual

/-- A document after it has been written and read: the halves in its strings are joined. -/
def reread : Json → Json
  | .string value => .string (rejoined value)
  | .array items => .array (rereadItems items)
  | .object members => .object (rereadMembers members)
  | document => document

/-- The items of an array. -/
def rereadItems : List Json → List Json
  | [] => []
  | item :: rest => reread item :: rereadItems rest

/-- The members of an object. -/
def rereadMembers : List (String × Json) → List (String × Json)
  | [] => []
  | (name, value) :: rest => (rejoined name, reread value) :: rereadMembers rest

end

theorem rereadItems_eq_map (items : List Json) : rereadItems items = items.map reread := by
  induction items with
  | nil => rfl
  | cons item rest ih => rw [rereadItems, ih, List.map_cons]

theorem rereadMembers_eq_map (members : List (String × Json)) :
    rereadMembers members = members.map fun member => (rejoined member.1, reread member.2) := by
  induction members with
  | nil => rfl
  | cons member rest ih => rw [rereadMembers, ih, List.map_cons]

/-- The floating point numbers in a document are numbers of the format. -/
inductive IsWritable : Json → Prop where
  | null : IsWritable .null
  | boolean (value : Bool) : IsWritable (.boolean value)
  | integer (value : Int) : IsWritable (.integer value)
  | real {number : Binary64} (proper : number.IsProper) : IsWritable (.real number)
  | string (value : String) : IsWritable (.string value)
  | array {items : List Json} (each : ∀ item ∈ items, IsWritable item) : IsWritable (.array items)
  | object {members : List (String × Json)} (each : ∀ member ∈ members, IsWritable member.2) :
    IsWritable (.object members)

/-! ## Numbers -/

/-- A word is read as a number. -/
structure IsNumber (word : List Char) (document : Json) : Prop where
  /-- It consists of characters of numbers. -/
  numeric : ∀ c ∈ word, isNumberChar c = true
  /-- It starts with a digit or a minus sign. -/
  started : ∃ first more, word = first :: more ∧ (first.isDigit = true ∨ first = '-')
  /-- It is read. -/
  readNumber_eq : readNumber word = some document

theorem isAsciiDigit_of_isDigit {c : Char} (digit : c.isDigit = true) : isAsciiDigit c = true := by
  simpa [isAsciiDigit] using toNat_of_isDigit digit

/-- Characters of numbers that start with a digit are a number, also behind a minus sign. -/
theorem isNumber_signed {negative : Bool} {body : List Char}
    (numeric : ∀ c ∈ body, isNumberChar c = true)
    (started : ∃ first more, body = first :: more ∧ first.isDigit = true)
    (read : readNumber ((if negative then ['-'] else []) ++ body) = some document) :
    IsNumber ((if negative then ['-'] else []) ++ body) document := by
  refine ⟨?_, ?_, read⟩
  · intro c member
    rcases List.mem_append.mp member with minus | member
    · cases negative with
      | true =>
        rw [List.mem_singleton.mp minus]
        rfl
      | false => cases minus
    · exact numeric c member
  · cases negative with
    | true => exact ⟨'-', _, rfl, .inr rfl⟩
    | false =>
      obtain ⟨first, more, start, digit⟩ := started
      exact ⟨first, more, start, .inl digit⟩

theorem isNumberChar_of_isDigit {c : Char} (digit : c.isDigit = true) : isNumberChar c = true := by
  rw [isNumberChar, isAsciiDigit_of_isDigit digit]
  rfl

/-- Digits hold no mark of a floating point number. -/
theorem any_mark_eq_false {digits : List Char} (all : AreDigits digits) (negative : Bool) :
    ((if negative then ['-'] else []) ++ digits).any (fun c => c = '.' || c = 'e' || c = 'E') =
      false := by
  have plain : digits.any (fun c => c = '.' || c = 'e' || c = 'E') = false := by
    rw [List.any_eq_false]
    intro c member
    have digit := all c member
    simp [Binary64.ne_of_isDigit digit (show '.'.isDigit = false from rfl),
      Binary64.ne_of_isDigit digit (show 'e'.isDigit = false from rfl),
      Binary64.ne_of_isDigit digit (show 'E'.isDigit = false from rfl)]
  rw [List.any_append, plain]
  cases negative <;> rfl

/-- Digits with or without a minus sign are read as a whole number. -/
theorem isNumber_digits (negative : Bool) (number : Nat) :
    IsNumber ((if negative then ['-'] else []) ++ digitsOf number)
      (.integer (signed negative number)) := by
  have digits := areDigits_digitsOf number
  obtain ⟨first, more, start⟩ := List.exists_cons_of_ne_nil (digitsOf_ne_nil number)
  have digit : first.isDigit = true := digits first (start ▸ List.mem_cons_self)
  refine isNumber_signed (fun c member => isNumberChar_of_isDigit (digits c member))
    ⟨first, more, start, digit⟩ ?_
  have sign : takeSign ((if negative then ['-'] else []) ++ digitsOf number) =
      (negative, digitsOf number) := Binary64.takeSign_signed start digit negative
  have all : (digitsOf number).all isAsciiDigit = true := by
    rw [List.all_eq_true]
    exact fun c member => isAsciiDigit_of_isDigit (digits c member)
  rw [readNumber, any_mark_eq_false digits, if_neg Bool.false_ne_true, sign]
  simp [digitsOf_ne_nil number, all, positional_digitsOf]

/-- A written whole number is read. -/
theorem isNumber_toString (value : Int) : IsNumber (toString value).toList (.integer value) := by
  cases value with
  | ofNat number => exact isNumber_digits false number
  | negSucc number =>
    have written : (toString (Int.negSucc number)).toList = '-' :: digitsOf (number + 1) :=
      String.toList_append
    rw [written]
    exact isNumber_digits true (number + 1)

/-- A written floating point number is read, if it is a number of the format. -/
theorem isNumber_written {number : Binary64} (proper : number.IsProper) :
    IsNumber number.written.toList (.real number) := by
  have read := Binary64.read_written proper
  obtain ⟨negative, units, rfl, size⟩ := proper
  obtain ⟨spelling, proper, written, -⟩ := Binary64.exists_spelling_of_isSize size negative
  rw [written] at read ⊢
  have numeric : ∀ c ∈ spelling.text, isNumberChar c = true := by
    intro c member
    rcases proper.digit_or_mark c member with digit | mark
    · exact isNumberChar_of_isDigit digit
    · simp only [List.mem_cons, List.not_mem_nil, or_false] at mark
      rcases mark with rfl | rfl | rfl | rfl <;> rfl
  refine isNumber_signed numeric proper.exists_cons ?_
  -- A point or an exponent tells it apart from a whole number.
  have marked : ((if negative then ['-'] else []) ++ spelling.text).any
      (fun c => c = '.' || c = 'e' || c = 'E') = true := by
    rw [List.any_eq_true]
    rcases proper.exists_mark with point | letter
    · exact ⟨'.', List.mem_append_right _ point, rfl⟩
    · exact ⟨'e', List.mem_append_right _ letter, rfl⟩
  rw [readNumber, marked, if_pos rfl, read]
  rfl

/-! ## Blanks -/

/-- A character is dropped before a document. -/
def IsBlank (c : Char) : Prop := c = ' ' ∨ c = '\t' ∨ c = '\n' ∨ c = '\r'

instance : DecidablePred IsBlank := fun c =>
  inferInstanceAs (Decidable (c = ' ' ∨ c = '\t' ∨ c = '\n' ∨ c = '\r'))

theorem dropBlanks_append {blanks : List Char} (blank : ∀ c ∈ blanks, IsBlank c) (text : List Char) :
    dropBlanks (blanks ++ text) = dropBlanks text :=
  List.dropWhile_append_of_pos fun c member => by
    simpa [IsBlank, or_assoc] using blank c member

theorem dropBlanks_cons {c : Char} (shown : ¬IsBlank c) (text : List Char) :
    dropBlanks (c :: text) = c :: text :=
  List.dropWhile_cons_of_neg (by simpa [IsBlank, or_assoc] using shown)

/-- A line break and its blanks are dropped. -/
theorem dropBlanks_breakTo (level : Nat) (text : List Char) :
    dropBlanks ((breakTo level).toList ++ text) = dropBlanks text := by
  refine dropBlanks_append (fun c member => ?_) text
  rw [breakTo, String.toList_ofList] at member
  rcases List.mem_cons.mp member with rfl | member
  · exact .inr (.inr (.inl rfl))
  · exact .inl (List.eq_of_mem_replicate member)

/-- Blanks before a value do not count. -/
theorem readValue_blanks {text other : List Char} (same : dropBlanks text = dropBlanks other) :
    readValue fuel text = readValue fuel other := by
  cases fuel with
  | zero => rw [readValue.eq_1, readValue.eq_1]
  | succ fuel => rw [readValue.eq_2, readValue.eq_2, same]

/-- A document starts with a character that is no blank and ends no array or object. -/
def Opens (text : List Char) : Prop :=
  ∃ first more, text = first :: more ∧ ¬IsBlank first ∧ first ≠ ']' ∧ first ≠ '\x7d'

theorem Opens.dropBlanks_append (opens : Opens text) (rest : List Char) :
    dropBlanks (text ++ rest) = text ++ rest := by
  obtain ⟨first, more, rfl, shown, -⟩ := opens
  exact dropBlanks_cons shown _

/-- What comes after a number is no part of it. -/
def Stops (rest : List Char) : Prop := ∀ c ∈ rest.head?, isNumberChar c = false

/-- A number starts with a digit or a minus sign, so with no other character. -/
theorem IsNumber.head_ne (number : IsNumber word document) {first : Char} {more : List Char}
    (start : word = first :: more) {other : Char} (letter : other.isDigit = false) (mark : '-' ≠ other) :
    first ≠ other := by
  obtain ⟨_, _, again, kind⟩ := number.started
  obtain ⟨rfl, -⟩ := List.cons.inj (start.symm.trans again)
  rcases kind with digit | rfl
  · exact Binary64.ne_of_isDigit digit letter
  · exact mark

/-- A number starts like a document. -/
theorem IsNumber.opens (number : IsNumber word document) : Opens word := by
  obtain ⟨first, more, start, -⟩ := number.started
  have unlike (other : Char) (letter : other.isDigit = false) (mark : '-' ≠ other) : first ≠ other :=
    number.head_ne start letter mark
  refine ⟨first, more, start, ?_, unlike ']' rfl (by decide), unlike '\x7d' rfl (by decide)⟩
  rintro (same | same | same | same)
  · exact unlike ' ' rfl (by decide) same
  · exact unlike '\t' rfl (by decide) same
  · exact unlike '\n' rfl (by decide) same
  · exact unlike '\r' rfl (by decide) same

/-- A word of characters of numbers is cut off before what is no part of a number. -/
theorem span_isNumberChar (numeric : ∀ c ∈ word, isNumberChar c = true) (stops : Stops rest) :
    (word ++ rest).takeWhile isNumberChar = word ∧ (word ++ rest).dropWhile isNumberChar = rest := by
  rw [List.takeWhile_append_of_pos numeric, List.dropWhile_append_of_pos numeric]
  cases rest with
  | nil => exact ⟨List.append_nil word, rfl⟩
  | cons c rest =>
    have stopped : ¬isNumberChar c = true := by simp [stops c rfl]
    rw [List.takeWhile_cons_of_neg stopped, List.dropWhile_cons_of_neg stopped]
    exact ⟨List.append_nil word, rfl⟩

/-- A text does not start with a name whose first character is another one. -/
theorem startsWith_eq_false {name : List Char} {first other : Char} {more : List Char}
    (begins : name.head? = some other) (unequal : first ≠ other) :
    startsWith name (first :: more) = false := by
  rw [Bool.eq_false_iff]
  intro starts
  obtain ⟨others, same⟩ := startsWith_iff.mp starts
  cases name with
  | nil => cases begins
  | cons c name => exact unequal ((List.cons.inj same).1.symm.trans (Option.some.inj begins))

/-- A word that is read as a number is read as a value, up to what is no part of a number. -/
theorem IsNumber.readValue_eq (number : IsNumber word document) (stops : Stops rest) :
    readValue (fuel + 1) (word ++ rest) = some (document, rest) := by
  obtain ⟨taken, left⟩ := span_isNumberChar number.numeric stops
  obtain ⟨first, more, start, -⟩ := number.started
  have unlike (other : Char) (letter : other.isDigit = false) (mark : '-' ≠ other) : first ≠ other :=
    number.head_ne start letter mark
  -- No name of a constant starts with a character of a number.
  have readWord_eq : readWord (word ++ rest) = some (document, rest) := by
    have unnamed (name : List Char) (other : Char) (begins : name.head? = some other)
        (unequal : first ≠ other) : startsWith name (word ++ rest) = false := by
      rw [start, List.cons_append]
      exact startsWith_eq_false begins unequal
    rw [readWord, unnamed _ 'n' rfl (unlike 'n' rfl (by decide)),
      unnamed _ 't' rfl (unlike 't' rfl (by decide)), unnamed _ 'f' rfl (unlike 'f' rfl (by decide)),
      taken, left, number.readNumber_eq]
    rfl
  rw [readValue.eq_2, number.opens.dropBlanks_append rest]
  -- Nor does a string, an array or an object, so that the word is all that is left to read.
  split
  next same => exact absurd (List.cons.inj (start ▸ same)).1 (unlike '"' rfl (by decide))
  next same => exact absurd (List.cons.inj (start ▸ same)).1 (unlike '[' rfl (by decide))
  next same => exact absurd (List.cons.inj (start ▸ same)).1 (unlike '\x7b' rfl (by decide))
  next => exact readWord_eq

/-! ## Documents -/

/-- The text of a document at a level. -/
def textAt (level : Nat) (document : Json) : List Char := (writeAt level document).toList

theorem textAt_null (level : Nat) : textAt level .null = ['n', 'u', 'l', 'l'] := by
  simp [textAt, writeAt, writeLeaf]

theorem textAt_true (level : Nat) : textAt level (.boolean true) = ['t', 'r', 'u', 'e'] := by
  simp [textAt, writeAt, writeLeaf]

theorem textAt_false (level : Nat) : textAt level (.boolean false) = ['f', 'a', 'l', 's', 'e'] := by
  simp [textAt, writeAt, writeLeaf]

theorem textAt_array_nil (level : Nat) : textAt level (.array []) = ['[', ']'] := by
  simp [textAt, writeAt, writeLeaf]

theorem textAt_object_nil (level : Nat) : textAt level (.object []) = ['\x7b', '\x7d'] := by
  simp [textAt, writeAt, writeLeaf]

/-- The text of a floating point number of the format. -/
theorem textAt_real {number : Binary64} (proper : number.IsProper) (level : Nat) :
    textAt level (.real number) = number.written.toList := by
  obtain ⟨negative, units, rfl, -⟩ := proper
  rfl

/-- The text of a string between its quotes. -/
theorem toList_writeString (value : String) :
    (writeString value).toList = '"' :: (value.toList.flatMap escapeChar ++ ['"']) := by
  rw [writeString, String.toList_ofList]
  rfl

/-- The text of a member of an object. -/
def memberText (level : Nat) (member : String × Json) : List Char :=
  '"' :: (member.1.toList.flatMap escapeChar ++ '"' :: ':' :: ' ' :: textAt level member.2)

/-- What is put between two items. -/
def between (level : Nat) : List Char := ',' :: (breakTo level).toList

theorem toList_writeItems (level : Nat) (items : List Json) :
    (writeItems level items).map String.toList = items.map (textAt level) := by
  induction items with
  | nil => rfl
  | cons item rest ih => rw [writeItems, List.map_cons, ih, List.map_cons, textAt]

theorem toList_writeMembers (level : Nat) (members : List (String × Json)) :
    (writeMembers level members).map String.toList = members.map (memberText level) := by
  induction members with
  | nil => rfl
  | cons member rest ih =>
    rw [writeMembers, List.map_cons, ih, List.map_cons, String.toList_append, String.toList_append,
      toList_writeString]
    congr 1
    simp [memberText, textAt]

/-- The text of an array that is not empty. -/
theorem textAt_array (level : Nat) (first : Json) (others : List Json) :
    textAt level (.array (first :: others)) = '[' :: ((breakTo (level + 1)).toList ++
      ((between (level + 1)).intercalate ((first :: others).map (textAt (level + 1))) ++
        ((breakTo level).toList ++ [']']))) := by
  rw [textAt, writeAt]
  simp only [String.toList_append, String.toList_intercalate, toList_writeItems]
  simp [between]

/-- The text of an object that is not empty. -/
theorem textAt_object (level : Nat) (first : String × Json) (others : List (String × Json)) :
    textAt level (.object (first :: others)) = '\x7b' :: ((breakTo (level + 1)).toList ++
      ((between (level + 1)).intercalate ((first :: others).map (memberText (level + 1))) ++
        ((breakTo level).toList ++ ['\x7d']))) := by
  rw [textAt, writeAt]
  simp only [String.toList_append, String.toList_intercalate, toList_writeMembers]
  simp [between]

/-- A document is read back from its text at any level. -/
def ReadsBack (document : Json) : Prop :=
  ∀ (level fuel : Nat) (rest : List Char), Stops rest → (textAt level document).length < fuel →
    readValue fuel (textAt level document ++ rest) = some (document.reread, rest)

/-- A line break ends a number. -/
theorem stops_breakTo (level : Nat) (rest : List Char) : Stops ((breakTo level).toList ++ rest) := by
  rw [breakTo, String.toList_ofList]
  rintro c ⟨⟩
  rfl

/-- What is put between two items ends a number. -/
theorem stops_between (level : Nat) (rest : List Char) : Stops (between level ++ rest) := by
  rintro c ⟨⟩
  rfl

/-- What is put between two items is a comma, behind which blanks do not count. -/
theorem dropBlanks_between (level : Nat) (rest : List Char) :
    dropBlanks (between level ++ rest) = ',' :: ((breakTo level).toList ++ rest) :=
  dropBlanks_cons (by decide) _

/-- The items of an array are read back. -/
theorem readItems_written (level : Nat) (rest : List Char) (first : Json) (others : List Json)
    (each : ∀ item ∈ first :: others, ReadsBack item) (before : List Json) (text : List Char)
    (same : dropBlanks text = dropBlanks
      ((between (level + 1)).intercalate ((first :: others).map (textAt (level + 1))) ++
        ((breakTo level).toList ++ ']' :: rest)))
    (enough : ((between (level + 1)).intercalate ((first :: others).map (textAt (level + 1)))).length +
      1 < fuel) :
    readItems fuel before text = some (before.reverse ++ (first :: others).map reread, rest) := by
  -- Every item takes a step and is at least as long as the comma before it.
  induction others generalizing first before text fuel with
  | nil =>
    obtain ⟨fuel, rfl⟩ : ∃ less, fuel = less + 1 := ⟨fuel - 1, by omega⟩
    rw [List.map_singleton, List.intercalate_singleton] at enough same
    rw [readItems.eq_2, readValue_blanks same,
      each first List.mem_cons_self _ _ _ (stops_breakTo level _) (by omega)]
    dsimp only
    rw [dropBlanks_breakTo, dropBlanks_cons (by decide)]
    simp
  | cons second others ih =>
    obtain ⟨fuel, rfl⟩ : ∃ less, fuel = less + 1 := ⟨fuel - 1, by omega⟩
    rw [List.map_cons, List.map_cons, List.intercalate_cons_cons, ← List.map_cons] at enough same
    rw [List.append_assoc, List.append_assoc] at same
    rw [List.length_append, List.length_append, between, List.length_cons, ← between] at enough
    rw [readItems.eq_2, readValue_blanks same,
      each first List.mem_cons_self _ _ _ (stops_between _ _) (by omega)]
    dsimp only
    rw [dropBlanks_between]
    refine (ih second (fun item member => each item (List.mem_cons_of_mem _ member)) _ _
      (dropBlanks_breakTo _ _) (by omega)).trans ?_
    simp

/-- What is read of an object after its first members. -/
def membersAfter (fuel : Nat) (members : List (String × Json)) (text : List Char) :
    Option (List (String × Json) × List Char) :=
  match dropBlanks text with
  | ',' :: after => readMembers fuel members after
  | '\x7d' :: after => some (members.reverse, after)
  | _ => none

/-- A member of an object is read back. -/
theorem readMembers_member {member : String × Json} {tail : List Char}
    (back : ReadsBack member.2) (stops : Stops tail) (before : List (String × Json))
    (same : dropBlanks text = dropBlanks (memberText level member ++ tail))
    (enough : (memberText level member).length ≤ fuel) :
    readMembers (fuel + 1) before text =
      membersAfter fuel ((rejoined member.1, member.2.reread) :: before) tail := by
  have parts : memberText level member ++ tail = '"' :: (member.1.toList.flatMap escapeChar ++
      '"' :: ':' :: ' ' :: (textAt level member.2 ++ tail)) := by
    simp [memberText]
  have opened : dropBlanks text = '"' :: (member.1.toList.flatMap escapeChar ++
      '"' :: ':' :: ' ' :: (textAt level member.2 ++ tail)) := by
    rw [same, parts, dropBlanks_cons (by decide)]
  have colon : dropBlanks (':' :: ' ' :: (textAt level member.2 ++ tail)) =
      ':' :: ' ' :: (textAt level member.2 ++ tail) :=
    dropBlanks_cons (by decide) _
  have value : readValue fuel (' ' :: (textAt level member.2 ++ tail)) =
      some (member.2.reread, tail) := by
    have unblanked : dropBlanks (' ' :: (textAt level member.2 ++ tail)) =
        dropBlanks (textAt level member.2 ++ tail) :=
      dropBlanks_append (List.forall_mem_singleton.mpr (.inl rfl)) _
    rw [readValue_blanks unblanked]
    refine back level fuel tail stops (Nat.lt_of_lt_of_le ?_ enough)
    simp only [memberText, List.length_cons, List.length_append]
    omega
  rw [readMembers.eq_2, opened]
  simp only [readString_writeString, colon, value]
  rfl

/-- The members of an object are read back. -/
theorem readMembers_written (level : Nat) (rest : List Char) (first : String × Json)
    (others : List (String × Json)) (each : ∀ member ∈ first :: others, ReadsBack member.2)
    (before : List (String × Json)) (text : List Char)
    (same : dropBlanks text = dropBlanks
      ((between (level + 1)).intercalate ((first :: others).map (memberText (level + 1))) ++
        ((breakTo level).toList ++ '\x7d' :: rest)))
    (enough : ((between (level + 1)).intercalate ((first :: others).map (memberText (level + 1)))).length +
      1 < fuel) :
    readMembers fuel before text = some (before.reverse ++
      (first :: others).map (fun member => (rejoined member.1, reread member.2)), rest) := by
  induction others generalizing first before text fuel with
  | nil =>
    obtain ⟨fuel, rfl⟩ : ∃ less, fuel = less + 1 := ⟨fuel - 1, by omega⟩
    rw [List.map_singleton, List.intercalate_singleton] at enough same
    rw [readMembers_member (each first List.mem_cons_self) (stops_breakTo level _) before same
      (by omega), membersAfter, dropBlanks_breakTo, dropBlanks_cons (by decide)]
    simp
  | cons second others ih =>
    obtain ⟨fuel, rfl⟩ : ∃ less, fuel = less + 1 := ⟨fuel - 1, by omega⟩
    rw [List.map_cons, List.map_cons, List.intercalate_cons_cons, ← List.map_cons] at enough same
    rw [List.append_assoc, List.append_assoc] at same
    rw [List.length_append, List.length_append, between, List.length_cons, ← between] at enough
    rw [readMembers_member (each first List.mem_cons_self) (stops_between _ _) before same (by omega),
      membersAfter, dropBlanks_between]
    refine (ih second (fun member listed => each member (List.mem_cons_of_mem _ listed)) _ _
      (dropBlanks_breakTo _ _) (by omega)).trans ?_
    simp

/-- A document starts like one. -/
theorem IsWritable.opens (writable : IsWritable document) (level : Nat) :
    Opens (textAt level document) := by
  have shown {first : Char} {more : List Char} (start : textAt level document = first :: more)
      (kind : first ∈ ['n', 't', 'f', '"', '[', '\x7b']) : Opens (textAt level document) := by
    refine ⟨first, more, start, ?_⟩
    simp only [List.mem_cons, List.not_mem_nil, or_false] at kind
    rcases kind with rfl | rfl | rfl | rfl | rfl | rfl <;> decide
  cases writable with
  | null => exact shown (textAt_null level) (by decide)
  | boolean value =>
    cases value with
    | true => exact shown (textAt_true level) (by decide)
    | false => exact shown (textAt_false level) (by decide)
  | integer value => exact (isNumber_toString value).opens
  | real proper => exact textAt_real proper level ▸ (isNumber_written proper).opens
  | string value => exact shown (toList_writeString value) (by decide)
  | @array items each =>
    cases items with
    | nil => exact shown (textAt_array_nil level) (by decide)
    | cons first others => exact shown (textAt_array level first others) (by decide)
  | @object members each =>
    cases members with
    | nil => exact shown (textAt_object_nil level) (by decide)
    | cons first others => exact shown (textAt_object level first others) (by decide)

/-! ### Single words -/

theorem readValue_null (rest : List Char) :
    readValue (fuel + 1) ('n' :: 'u' :: 'l' :: 'l' :: rest) = some (.null, rest) := by
  rw [readValue.eq_2, dropBlanks_cons (by decide)]
  rfl

theorem readValue_true (rest : List Char) :
    readValue (fuel + 1) ('t' :: 'r' :: 'u' :: 'e' :: rest) = some (.boolean true, rest) := by
  rw [readValue.eq_2, dropBlanks_cons (by decide)]
  rfl

theorem readValue_false (rest : List Char) :
    readValue (fuel + 1) ('f' :: 'a' :: 'l' :: 's' :: 'e' :: rest) = some (.boolean false, rest) := by
  rw [readValue.eq_2, dropBlanks_cons (by decide)]
  rfl

/-! ### Strings, arrays and objects -/

/-- A string is read after its opening quote. -/
theorem readValue_quote (rest : List Char) :
    readValue (fuel + 1) ('"' :: rest) =
      (readString rest).map fun (value, after) => (.string value, after) := by
  rw [readValue.eq_2, dropBlanks_cons (by decide)]
  rfl

/-- An array is read by its items, unless it ends at once. -/
theorem readValue_bracket (rest : List Char) :
    readValue (fuel + 1) ('[' :: rest) =
      match dropBlanks rest with
      | ']' :: after => some (.array [], after)
      | body => (readItems fuel [] body).map fun (items, after) => (.array items, after) := by
  rw [readValue.eq_2, dropBlanks_cons (by decide)]
  rfl

/-- An object is read by its members, unless it ends at once. -/
theorem readValue_brace (rest : List Char) :
    readValue (fuel + 1) ('\x7b' :: rest) =
      match dropBlanks rest with
      | '\x7d' :: after => some (.object [], after)
      | body => (readMembers fuel [] body).map fun (members, after) => (.object members, after) := by
  rw [readValue.eq_2, dropBlanks_cons (by decide)]
  rfl

/-- An array that is not empty is read by its items. -/
theorem readValue_array (opens : Opens text) (rest : List Char) (level : Nat) :
    readValue (fuel + 1) ('[' :: ((breakTo level).toList ++ (text ++ rest))) =
      (readItems fuel [] (text ++ rest)).map fun (items, after) => (.array items, after) := by
  rw [readValue_bracket, dropBlanks_breakTo, opens.dropBlanks_append]
  obtain ⟨first, more, rfl, -, unended, -⟩ := opens
  split
  next same => exact absurd (List.cons.inj same).1 unended
  next => rfl

/-- An object that is not empty is read by its members. -/
theorem readValue_object (opens : Opens text) (rest : List Char) (level : Nat) :
    readValue (fuel + 1) ('\x7b' :: ((breakTo level).toList ++ (text ++ rest))) =
      (readMembers fuel [] (text ++ rest)).map fun (members, after) => (.object members, after) := by
  rw [readValue_brace, dropBlanks_breakTo, opens.dropBlanks_append]
  obtain ⟨first, more, rfl, -, -, unended⟩ := opens
  split
  next same => exact absurd (List.cons.inj same).1 unended
  next => rfl

/-- What starts like a document still does so if something follows. -/
theorem Opens.append (opens : Opens text) (rest : List Char) : Opens (text ++ rest) := by
  obtain ⟨first, more, rfl, shown⟩ := opens
  exact ⟨first, more ++ rest, rfl, shown⟩

/-- Items in a row start like the first of them. -/
theorem opens_intercalate {first : List Char} (opens : Opens first) (separator : List Char)
    (others : List (List Char)) : Opens (separator.intercalate (first :: others)) := by
  cases others with
  | nil => rwa [List.intercalate_singleton]
  | cons second others =>
    rw [List.intercalate_cons_cons, List.append_assoc]
    exact opens.append _

/-- A document is read back if a unit of fuel more than its length is enough. -/
theorem ReadsBack.of_succ
    (back : ∀ (level fuel : Nat) (rest : List Char), Stops rest →
      (textAt level document).length ≤ fuel →
        readValue (fuel + 1) (textAt level document ++ rest) = some (document.reread, rest)) :
    ReadsBack document := by
  intro level fuel rest stops enough
  obtain ⟨fuel, rfl⟩ : ∃ less, fuel = less + 1 := ⟨fuel - 1, by omega⟩
  exact back level fuel rest stops (Nat.le_of_lt_succ enough)

/-- A string is read back, with the halves in it joined. -/
theorem readsBack_string (value : String) : ReadsBack (.string value) := by
  refine .of_succ fun level fuel rest _ _ => ?_
  have text : textAt level (.string value) ++ rest =
      '"' :: (value.toList.flatMap escapeChar ++ '"' :: rest) := by
    rw [show textAt level (.string value) = (writeString value).toList from rfl, toList_writeString]
    simp
  rw [text, readValue_quote, readString_writeString]
  rfl

/-- An array is read back if its items are. -/
theorem readsBack_array (each : ∀ item ∈ items, IsWritable item)
    (back : ∀ item ∈ items, ReadsBack item) : ReadsBack (.array items) := by
  refine .of_succ fun level fuel rest _ enough => ?_
  cases items with
  | nil =>
    rw [textAt_array_nil, List.cons_append, readValue_bracket, List.singleton_append,
      dropBlanks_cons (by decide)]
    rfl
  | cons first others =>
    have starts := opens_intercalate ((each first List.mem_cons_self).opens (level + 1))
      (between (level + 1)) (others.map (textAt (level + 1)))
    rw [textAt_array] at enough ⊢
    simp only [List.cons_append, List.append_assoc, List.nil_append]
    rw [List.map_cons, readValue_array starts, ← List.map_cons]
    simp only [List.length_cons, List.length_append] at enough
    rw [readItems_written level rest first others back [] _ rfl (by omega)]
    rw [reread, rereadItems_eq_map]
    rfl

/-- An object is read back if the values of its members are. -/
theorem readsBack_object (back : ∀ member ∈ members, ReadsBack member.2) :
    ReadsBack (.object members) := by
  refine .of_succ fun level fuel rest _ enough => ?_
  cases members with
  | nil =>
    rw [textAt_object_nil, List.cons_append, readValue_brace, List.singleton_append,
      dropBlanks_cons (by decide)]
    rfl
  | cons first others =>
    have starts : Opens (memberText (level + 1) first) :=
      ⟨'"', _, rfl, by decide, by decide, by decide⟩
    have begins := opens_intercalate starts (between (level + 1))
      (others.map (memberText (level + 1)))
    rw [textAt_object] at enough ⊢
    simp only [List.cons_append, List.append_assoc, List.nil_append]
    rw [List.map_cons, readValue_object begins, ← List.map_cons]
    simp only [List.length_cons, List.length_append] at enough
    rw [readMembers_written level rest first others back [] _ rfl (by omega)]
    rw [reread, rereadMembers_eq_map]
    rfl

/-- A document is read back, if its floating point numbers are numbers of the format. -/
theorem IsWritable.readsBack (writable : IsWritable document) : ReadsBack document := by
  -- Induction on the document: its items and members are read back at the next level.
  induction writable with
  | null =>
    refine .of_succ fun level fuel rest _ _ => ?_
    rw [textAt_null]
    exact readValue_null rest
  | boolean value =>
    refine .of_succ fun level fuel rest _ _ => ?_
    cases value with
    | true => rw [textAt_true]; exact readValue_true rest
    | false => rw [textAt_false]; exact readValue_false rest
  | integer value =>
    exact .of_succ fun level fuel rest stops _ => (isNumber_toString value).readValue_eq stops
  | real proper =>
    refine .of_succ fun level fuel rest stops _ => ?_
    rw [textAt_real proper]
    exact (isNumber_written proper).readValue_eq stops
  | string value => exact readsBack_string value
  | array each ih => exact readsBack_array each ih
  | object _ ih => exact readsBack_object ih

/-- The text of a document and what stops after it are read as the document, if only blanks are left. -/
theorem read_append (writable : IsWritable document) {more : String} (stops : Stops more.toList) :
    read (document.writeIndented ++ more) =
      if dropBlanks more.toList = [] then some document.reread else none := by
  unfold read
  dsimp only
  rw [String.toList_append, show document.writeIndented.toList = textAt 0 document from rfl,
    writable.readsBack 0 _ _ stops (by rw [List.length_append]; omega)]
  cases left : dropBlanks more.toList <;> simp [left]

/-- A document with every item on a line of its own is read back, whatever blanks follow it. -/
theorem read_writeIndented (writable : IsWritable document) {blanks : String}
    (blank : ∀ c ∈ blanks.toList, IsBlank c) :
    read (document.writeIndented ++ blanks) = some document.reread := by
  have stops : Stops blanks.toList := by
    intro c head
    rcases blank c (List.mem_of_mem_head? head) with rfl | rfl | rfl | rfl <;> rfl
  have none : dropBlanks blanks.toList = [] := by
    simpa [dropBlanks] using dropBlanks_append blank []
  rw [read_append writable stops, if_pos none]

/-- A document is not read if something other than blanks follows it. -/
theorem read_writeIndented_append (writable : IsWritable document) {more : String} {c : Char}
    {rest : List Char} (stops : Stops more.toList) (shown : dropBlanks more.toList = c :: rest) :
    read (document.writeIndented ++ more) = none := by
  rw [read_append writable stops, shown, if_neg (List.cons_ne_nil c rest)]

end Json

end NegativeCompile

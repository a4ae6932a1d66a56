import Mathlib
import NegativeCompile.Literal.Token
import NegativeCompile.Proofs.Text.Lines
import NegativeCompile.Text.Quoted

/-! # Quoted texts are read back

A character between quotes stands for itself, or it is escaped by a letter or by its code
(`Literal.StandsAs`). Whichever it is, it is read back as the character, it can be shown, and it does not
end the quotation. So a quoted text is one token that stands for the text, whatever the text holds
(`Literal.nextToken_quoted`). -/

namespace NegativeCompile

namespace Text

variable {c quote : Char} {text rest : List Char} {code width : Nat}

/-! ## Codes -/

/-- No character is half of a pair of code units, and none is beyond the last plane. -/
theorem toNat_valid (c : Char) : c.toNat < 0xd800 ∨ 0xdfff < c.toNat ∧ c.toNat < 0x110000 := c.valid

/-- A character is the one for its own code. -/
theorem charOfCode_toNat (c : Char) : charOfCode c.toNat = c := by
  have valid := toNat_valid c
  have whole : isHalf c.toNat = false := by
    simp only [isHalf, Bool.and_eq_false_iff, decide_eq_false_iff_not]
    omega
  rw [charOfCode, if_neg (by simp [whole]), Char.ofNat_toNat]

/-- A character is the one for the code that it stands for. -/
@[simp] theorem charOfCode_codeOf (c : Char) : charOfCode (codeOf c) = c := by
  unfold codeOf
  split
  next kept =>
    -- The character stands for a half, which is kept as this character.
    simp only [Bool.and_eq_true, decide_eq_true_eq] at kept
    rw [charOfCode, if_pos kept.2, Nat.sub_add_cancel kept.1, Char.ofNat_toNat]
  next => exact charOfCode_toNat c

/-- No character stands for a code beyond the last plane. -/
theorem codeOf_le (c : Char) : codeOf c ≤ 0x10ffff := by
  have valid := toNat_valid c
  unfold codeOf
  split <;> omega

/-- No line break is shown as it is. -/
theorem isLineBreak_of_isPrintable (printable : isPrintable c = true) : isLineBreak c = false := by
  have each : ∀ code ∈ [10, 11, 12, 13, 28, 29, 30, 0x85, 0x2028, 0x2029],
      printableRanges.contains code = false := by decide +kernel
  rw [Bool.eq_false_iff]
  intro breaks
  have member : c.toNat ∈ [10, 11, 12, 13, 28, 29, 30, 0x85, 0x2028, 0x2029] := by
    simp only [isLineBreak, Bool.or_eq_true, Bool.and_eq_true, decide_eq_true_eq, beq_iff_eq] at breaks
    simp only [List.mem_cons, List.not_mem_nil, or_false]
    omega
  rw [isPrintable, each _ member] at printable
  cases printable

/-! ## Hexadecimal digits -/

/-- A hexadecimal digit has its value. -/
theorem hexValue?_hexDigit {value : Nat} (small : value < 16) :
    hexValue? (hexDigit value) = some value := by
  have each : ∀ value : Fin 16, hexValue? (hexDigit value) = some value.val := by decide
  exact each ⟨value, small⟩

/-- All digits of a padded number are hexadecimal ones. -/
theorem exists_of_mem_hexPadded {value : Nat} (member : c ∈ hexPadded width value) :
    ∃ digit < 16, c = hexDigit digit := by
  induction width generalizing value with
  | zero => cases member
  | succ width ih =>
    rcases List.mem_append.mp member with high | low
    · exact ih high
    · exact ⟨value % 16, Nat.mod_lt _ (by decide), List.mem_singleton.mp low⟩

/-- Digits in a row stand for a number after the number that those before them stand for. -/
theorem positionalFrom_append (base high : Nat) (first second : List Char) :
    positionalFrom base high (first ++ second) =
      positionalFrom base (positionalFrom base high first) second := by
  induction first generalizing high with
  | nil => rfl
  | cons c rest ih => exact ih _

/-- The digits of a padded number stand for it, as far as there are enough of them. -/
theorem positionalFrom_hexPadded (width value high : Nat) :
    positionalFrom 16 high (hexPadded width value) = 16 ^ width * high + value % 16 ^ width := by
  induction width generalizing value with
  | zero => simp [hexPadded, positionalFrom, Nat.mod_one]
  | succ width ih =>
    have last : hexValue? (hexDigit (value % 16)) = some (value % 16) :=
      hexValue?_hexDigit (Nat.mod_lt _ (by decide))
    rw [hexPadded, positionalFrom_append, ih, positionalFrom, positionalFrom, last,
      Option.getD_some, pow_succ', Nat.mod_mul]
    ring

end Text

namespace Literal

open Text

variable {c quote : Char} {text rest : List Char} {width : Nat}

/-- A number is read from its digits, if there are enough of them. -/
theorem hexEscape?_hexPadded (width value : Nat) (small : value < 16 ^ width) (rest : List Char) :
    hexEscape? width (hexPadded width value ++ rest) = some value := by
  have digits : (hexPadded width value).all isHexDigit = true := by
    rw [List.all_eq_true]
    intro c member
    obtain ⟨digit, small, rfl⟩ := exists_of_mem_hexPadded member
    rw [isHexDigit, hexValue?_hexDigit small]
    rfl
  have taken : (hexPadded width value ++ rest).take width = hexPadded width value := by
    rw [List.take_append_of_le_length (length_hexPadded width value).ge, List.take_of_length_le
      (length_hexPadded width value).le]
  have number : positional 16 (hexPadded width value) = value := by
    rw [positional, positionalFrom_hexPadded, Nat.mul_zero, Nat.zero_add, Nat.mod_eq_of_lt small]
  simp only [hexEscape?, taken, length_hexPadded, digits, number]
  rfl

/-! ## Quoted characters -/

/-- How a character stands between quotes. -/
inductive StandsAs (quote c : Char) : List Char → Prop where
  /-- It stands for itself. -/
  | itself (printable : isPrintable c = true) (unquoted : c ≠ quote) (unescaped : c ≠ '\\') :
      StandsAs quote c [c]
  /-- A letter after a backslash stands for it. -/
  | letter {letter : Char} {code : Nat} (escapes : simpleEscape? letter = some code)
      (same : charOfCode code = c) : StandsAs quote c ['\\', letter]
  /-- Its code stands for it, after a backslash and a letter that tells how many digits there are. -/
  | code {letter : Char} {width : Nat} (small : codeOf c < 16 ^ width)
      (spelled : (letter, width) ∈ [('x', 2), ('u', 4), ('U', 8)]) :
      StandsAs quote c ('\\' :: letter :: hexPadded width (codeOf c))

/-- A quoted character stands for itself or is escaped. -/
theorem standsAs_quotedChar (known : quote = '\'' ∨ quote = '"') (c : Char) :
    StandsAs quote c (quotedChar quote c) := by
  unfold quotedChar
  split
  next special =>
    have escapes : simpleEscape? c = some c.toNat := by
      rcases known with rfl | rfl <;> rcases (by simpa using special) with rfl | rfl <;> rfl
    exact .letter escapes (charOfCode_toNat c)
  next plain =>
    split
    next tab => exact tab ▸ .letter (by rfl) (by decide)
    split
    next feed => exact feed ▸ .letter (by rfl) (by decide)
    split
    next ret => exact ret ▸ .letter (by rfl) (by decide)
    split
    next printable =>
      rw [Bool.or_eq_true, decide_eq_true_eq, decide_eq_true_eq, not_or] at plain
      exact .itself printable plain.1 plain.2
    next =>
      unfold codeEscape
      split
      next small => exact .code small (by decide)
      split
      next small => exact .code small (by decide)
      next => exact .code ((codeOf_le c).trans_lt (by decide)) (by decide)

/-- A letter that stands for a character after a backslash can be shown. -/
theorem isPrintable_of_simpleEscape? {letter : Char} {code : Nat}
    (escapes : simpleEscape? letter = some code) : isPrintable letter = true := by
  have each : ['\\', '\'', '"', 'a', 'b', 'f', 'n', 'r', 't', 'v'].all isPrintable = true := by
    decide +kernel
  refine List.all_eq_true.mp each letter ?_
  unfold simpleEscape? at escapes
  split at escapes
  case h_11 => cases escapes
  all_goals decide

/-- What stands for a character between quotes can be shown. -/
theorem StandsAs.isPrintable (stands : StandsAs quote c text) :
    ∀ shown ∈ text, isPrintable shown = true := by
  have slash : Text.isPrintable '\\' = true := by decide +kernel
  cases stands with
  | itself printable => exact List.forall_mem_singleton.mpr printable
  | letter escapes =>
    exact List.forall_mem_cons.mpr ⟨slash, List.forall_mem_singleton.mpr
      (isPrintable_of_simpleEscape? escapes)⟩
  | @code letter width small spelled =>
    have digits : ∀ digit : Fin 16, Text.isPrintable (hexDigit digit) = true := by decide +kernel
    have letters : ∀ entry ∈ [('x', 2), ('u', 4), ('U', 8)], Text.isPrintable entry.1 = true := by
      decide +kernel
    refine List.forall_mem_cons.mpr ⟨slash, List.forall_mem_cons.mpr ⟨letters _ spelled, ?_⟩⟩
    intro shown member
    obtain ⟨digit, small, rfl⟩ := exists_of_mem_hexPadded member
    exact digits ⟨digit, small⟩

/-- What stands for a character between quotes is read back as the character. -/
theorem StandsAs.exists_unescape (stands : StandsAs quote c text) :
    ∃ code, charOfCode code = c ∧
      ∀ rest, unescape true (text ++ rest) = (unescape true rest).map (code :: ·) := by
  cases stands with
  | itself _ _ unescaped =>
    refine ⟨c.toNat, charOfCode_toNat c, fun rest => ?_⟩
    rw [List.singleton_append, unescape]
    exact fun _ _ slash => absurd slash unescaped
  | @letter letter code escapes same =>
    refine ⟨code, same, fun rest => ?_⟩
    have fed : letter ≠ '\n' := by
      rintro rfl
      cases escapes
    simp [unescape, fed, escapes]
  | @code letter width small spelled =>
    refine ⟨codeOf c, charOfCode_codeOf c, fun rest => ?_⟩
    have read := hexEscape?_hexPadded width (codeOf c) small rest
    have left : (hexPadded width (codeOf c) ++ rest).drop width = rest := by
      rw [List.drop_append_of_le_length (length_hexPadded width _).ge, List.drop_of_length_le
        (length_hexPadded width _).le, List.nil_append]
    -- Each letter asks for its own number of digits.
    simp only [List.mem_cons, Prod.mk.injEq, List.not_mem_nil, or_false] at spelled
    rcases spelled with ⟨rfl, rfl⟩ | ⟨rfl, rfl⟩ | ⟨rfl, rfl⟩
    · simp [unescape, simpleEscape?, isOctalDigit, read, left]
    · simp [unescape, simpleEscape?, isOctalDigit, read, left]
    · simp [unescape, simpleEscape?, isOctalDigit, read, left, codeOf_le c]

/-! ## Quotations -/

/-- What stands between quotes for the characters of a text is read back as the text. -/
theorem exists_unescape (known : quote = '\'' ∨ quote = '"') (text : List Char) :
    ∃ codes, unescape true (text.flatMap (quotedChar quote)) = some codes ∧
      codes.map charOfCode = text := by
  induction text with
  | nil => exact ⟨[], by simp [unescape], rfl⟩
  | cons c rest ih =>
    obtain ⟨codes, read, same⟩ := ih
    obtain ⟨code, this, step⟩ := (standsAs_quotedChar known c).exists_unescape
    exact ⟨code :: codes, by rw [List.flatMap_cons, step, read]; rfl, by rw [List.map_cons, this, same]⟩

/-- A character that is no quote, no backslash and no line feed does not end a quotation. -/
theorem untilQuote_cons (unquoted : c ≠ quote) (unescaped : c ≠ '\\') (unfed : c ≠ '\n')
    (rest : List Char) : untilQuote quote (c :: rest) =
      (untilQuote quote rest).map fun (body, after) => (c :: body, after) := by
  rw [untilQuote, if_neg unquoted, if_neg unfed]
  exact fun _ _ slash => absurd slash unescaped

/-- Characters that are no quotes, no backslashes and no line feeds do not end a quotation. -/
theorem untilQuote_append (plain : ∀ c ∈ text, c ≠ quote ∧ c ≠ '\\' ∧ c ≠ '\n') (rest : List Char) :
    untilQuote quote (text ++ rest) =
      (untilQuote quote rest).map fun (body, after) => (text ++ body, after) := by
  induction text with
  | nil => simp
  | cons c others ih =>
    obtain ⟨⟨unquoted, unescaped, unfed⟩, plain⟩ := List.forall_mem_cons.mp plain
    rw [List.cons_append, untilQuote_cons unquoted unescaped unfed, ih plain, Option.map_map]
    rfl

/-- Hexadecimal digits are no quotes, no backslashes and no line feeds. -/
theorem plain_hexPadded (known : quote = '\'' ∨ quote = '"') {value : Nat}
    (member : c ∈ hexPadded width value) : c ≠ quote ∧ c ≠ '\\' ∧ c ≠ '\n' := by
  have each : ∀ digit : Fin 16, hexDigit digit ≠ '\'' ∧ hexDigit digit ≠ '"' ∧
      hexDigit digit ≠ '\\' ∧ hexDigit digit ≠ '\n' := by decide
  obtain ⟨digit, small, rfl⟩ := exists_of_mem_hexPadded member
  obtain ⟨single, double, slash, feed⟩ := each ⟨digit, small⟩
  rcases known with rfl | rfl
  · exact ⟨single, slash, feed⟩
  · exact ⟨double, slash, feed⟩

/-- Nothing that stands for a character between quotes ends the quotation. -/
theorem StandsAs.untilQuote_append (stands : StandsAs quote c text)
    (known : quote = '\'' ∨ quote = '"') (rest : List Char) :
    untilQuote quote (text ++ rest) =
      (untilQuote quote rest).map fun (body, after) => (text ++ body, after) := by
  cases stands with
  | itself printable unquoted unescaped =>
    have unfed : c ≠ '\n' := by
      rintro rfl
      exact absurd (isLineBreak_of_isPrintable printable) (by decide)
    exact untilQuote_cons unquoted unescaped unfed rest
  | letter => rfl
  | @code letter width =>
    rw [List.cons_append, List.cons_append, untilQuote,
      untilQuote_append fun _ member => plain_hexPadded known member, Option.map_map]
    rfl

/-- A quotation is read up to the quote that ends it. -/
theorem untilQuote_quoted (known : quote = '\'' ∨ quote = '"') (text rest : List Char) :
    untilQuote quote (text.flatMap (quotedChar quote) ++ quote :: rest) =
      some (text.flatMap (quotedChar quote), rest) := by
  -- Induction on the text: what stands for a character is gone past as a whole.
  induction text with
  | nil => rcases known with rfl | rfl <;> rfl
  | cons c others ih =>
    rw [List.flatMap_cons, List.append_assoc, (standsAs_quotedChar known c).untilQuote_append known,
      ih]
    rfl

/-- The quote that is put around a text. -/
theorem quoteFor_cases (text : List Char) : quoteFor text = '\'' ∨ quoteFor text = '"' := by
  unfold quoteFor
  split
  · exact .inr rfl
  · exact .inl rfl

/-- What stands for a character between quotes does not start with a quote. -/
theorem StandsAs.head?_ne (stands : StandsAs quote c text) (known : quote = '\'' ∨ quote = '"')
    (rest : List Char) : (text ++ rest).head? ≠ some quote := by
  have slash : '\\' ≠ quote := by rcases known with rfl | rfl <;> decide
  cases stands with
  | itself _ unquoted => exact fun same => unquoted (Option.some.inj same)
  | letter => exact fun same => slash (Option.some.inj same)
  | code => exact fun same => slash (Option.some.inj same)

/-- What follows the quote at the start of a quoted text is not two quotes, unless the text is empty
and another quote follows it. -/
theorem startsWith_quoted (text : List Char) {after : List Char}
    (apart : after.head? ≠ some (quoteFor text)) :
    startsWith [quoteFor text, quoteFor text]
      (text.flatMap (quotedChar (quoteFor text)) ++ quoteFor text :: after) = false := by
  rw [Bool.eq_false_iff]
  intro starts
  obtain ⟨rest, same⟩ := List.isPrefixOf_iff_prefix.mp starts
  cases text with
  | nil =>
    rw [← List.tail_eq_of_cons_eq same] at apart
    exact apart rfl
  | cons c others =>
    have known := quoteFor_cases (c :: others)
    rw [List.flatMap_cons, List.append_assoc] at same
    exact (standsAs_quotedChar known c).head?_ne known _ (congrArg List.head? same.symm)

/-- A quoted text is one token, unless another quote follows. -/
theorem nextToken_quoted (text : List Char) {after : List Char}
    (apart : after.head? ≠ some (quoteFor text)) :
    nextToken (quoted text ++ after) = some (.text text, after) := by
  have known := quoteFor_cases text
  obtain ⟨codes, read, same⟩ := exists_unescape known text
  have start : (quoteFor text = '\'' || quoteFor text = '"') = true := by simpa using known
  rw [quoted, List.cons_append, List.cons_append, List.append_assoc, List.singleton_append,
    nextToken, if_pos start, quotedToken, startsWith_quoted text apart, if_neg Bool.false_ne_true,
    untilQuote_quoted known]
  simp [read, same]

end Literal

end NegativeCompile

import NegativeCompile.Number.Binary64.Reader
import NegativeCompile.Proofs.Diagnostic.Rendered
import NegativeCompile.Proofs.Number.Shortest

/-! # Spelled numbers

A written floating point number is spelled with digits, a point and an exponent (`Spelling`), however it
is laid out, and its digits stand for a number in the interval of its size. So it is read back as the
number that was written (`Binary64.read_written`). -/

namespace NegativeCompile

open Text

/-! ## Digits -/

namespace Text

variable {digits text : List Char} {c : Char} {high : Nat}

/-- All characters of a text are ASCII digits. -/
def AreDigits (text : List Char) : Prop := ∀ c ∈ text, c.isDigit = true

theorem AreDigits.append {first second : List Char} (ones : AreDigits first)
    (others : AreDigits second) : AreDigits (first ++ second) := by
  intro c member
  exact (List.mem_append.mp member).elim (ones c) (others c)

theorem AreDigits.replicate_zero (count : Nat) : AreDigits (List.replicate count '0') := by
  intro c member
  rw [List.eq_of_mem_replicate member]
  rfl

theorem areDigits_digitsOf (number : Nat) : AreDigits (digitsOf number) :=
  fun _ => isDigit_of_mem_digitsOf

/-- ASCII digits stand for the number that the library reads them as. -/
theorem AreDigits.digitsValue_eq (digits : AreDigits text) :
    digitsValue text = Nat.ofDigitChars 10 text 0 :=
  digitsValueFrom_eq digits 0

/-- Zeros before digits do not count. -/
theorem digitsValue_replicate_append (count : Nat) (digits : AreDigits text) :
    digitsValue (List.replicate count '0' ++ text) = digitsValue text := by
  rw [((AreDigits.replicate_zero count).append digits).digitsValue_eq, digits.digitsValue_eq,
    Nat.ofDigitChars_append, Nat.ofDigitChars_replicate_zero, Nat.mul_zero]

/-- Zeros behind digits are factors of ten. -/
theorem digitsValue_append_replicate (digits : AreDigits text) (count : Nat) :
    digitsValue (text ++ List.replicate count '0') = digitsValue text * 10 ^ count := by
  rw [(digits.append (AreDigits.replicate_zero count)).digitsValue_eq, digits.digitsValue_eq,
    Nat.ofDigitChars_append, Nat.ofDigitChars_replicate_zero, Nat.mul_comm]

/-- So many digits stand for a number below the power of ten. -/
theorem AreDigits.digitsValue_lt (digits : AreDigits text) :
    digitsValue text < 10 ^ text.length := by
  have bound : ∀ (rest : List Char) (high : Nat), AreDigits rest →
      Nat.ofDigitChars 10 rest high < 10 ^ rest.length * (high + 1) := by
    intro rest
    induction rest with
    | nil => intro high _; simp [Nat.ofDigitChars]
    | cons c rest ih =>
      intro high digits
      have digit := toNat_of_isDigit (digits c List.mem_cons_self)
      have zero : '0'.toNat = 48 := rfl
      rw [Nat.ofDigitChars_cons, List.length_cons, Nat.pow_succ, zero]
      refine Nat.lt_of_lt_of_le (ih _ fun other member => digits other (List.mem_cons_of_mem _ member)) ?_
      rw [Nat.mul_assoc]
      exact Nat.mul_le_mul_left _ (by omega)
  rw [digits.digitsValue_eq]
  simpa using bound text 0 digits

/-- Digits are read as they are. -/
theorem AreDigits.digitsBetweenUnderscores_eq (digits : AreDigits text) {afterDigit : Bool}
    (filled : afterDigit = true ∨ text ≠ []) :
    digitsBetweenUnderscores afterDigit text = some text := by
  induction text generalizing afterDigit with
  | nil =>
    rw [filled.resolve_right (fun none => none rfl)]
    rfl
  | cons c rest ih =>
    have digit := digits c List.mem_cons_self
    have isDigit : isDigit c = true := by
      rw [isDigit, digitValue?_of_isDigit digit]
      rfl
    have plain : c ≠ '_' := by
      rintro rfl
      cases digit
    rw [digitsBetweenUnderscores.eq_3 _ _ _ plain, if_pos isDigit,
      ih (fun other member => digits other (List.mem_cons_of_mem _ member)) (.inl rfl)]
    rfl

/-- Zeros at the end of digits are dropped and nothing else. -/
theorem exists_dropZeros (text : List Char) :
    ∃ count, text = Number.Binary64.dropZeros text ++ List.replicate count '0' := by
  have zeros : ∀ c ∈ text.rtakeWhile (· = '0'), c = '0' := by
    intro c member
    simpa using List.mem_rtakeWhile_imp member
  refine ⟨(text.rtakeWhile (· = '0')).length, ?_⟩
  rw [← List.eq_replicate_of_mem zeros]
  exact (List.rdropWhile_append_rtakeWhile).symm

end Text

namespace Number.Binary64

variable {digits : List Char} {point : Int} {spelling : Spelling} {units : Nat}

/-! ## Spellings -/

/-- How a number without sign is spelled. -/
structure Spelling where
  /-- The digits before the point. -/
  whole : List Char
  /-- The digits after the point; without them there is no point. -/
  fraction : List Char
  /-- The exponent, if there is one: whether it is negative, and its digits. -/
  exponent : Option (Bool × List Char)

namespace Spelling

/-- The text before the exponent. -/
def mantissa (spelling : Spelling) : List Char :=
  spelling.whole ++ if spelling.fraction = [] then [] else '.' :: spelling.fraction

/-- The text of an exponent after its letter. -/
def exponentText (exponent : Bool × List Char) : List Char :=
  (if exponent.1 then '-' else '+') :: exponent.2

/-- The text. -/
def text (spelling : Spelling) : List Char :=
  spelling.mantissa ++
    match spelling.exponent with
    | none => []
    | some exponent => 'e' :: exponentText exponent

/-- The power of ten that the exponent stands for. -/
def power (spelling : Spelling) : Int :=
  match spelling.exponent with
  | none => 0
  | some (negative, size) => signed negative (digitsValue size)

/-- A spelling is made of digits, and a point or an exponent tells it from that of a whole number. -/
structure IsProper (spelling : Spelling) : Prop where
  /-- Digits stand before the point. -/
  whole : AreDigits spelling.whole
  /-- There are some. -/
  started : spelling.whole ≠ []
  /-- Digits stand after the point. -/
  fraction : AreDigits spelling.fraction
  /-- The exponent has digits. -/
  size : ∀ negative size, spelling.exponent = some (negative, size) → AreDigits size ∧ size ≠ []
  /-- There is a point or an exponent. -/
  marked : spelling.fraction ≠ [] ∨ spelling.exponent.isSome = true

end Spelling

/-- Without the character a text is not split. -/
theorem splitAtFirst_of_forall {isSplit : Char → Bool} {text : List Char}
    (plain : ∀ c ∈ text, isSplit c = false) : splitAtFirst isSplit text = (text, none) := by
  have nothing : text.dropWhile (!isSplit ·) = [] :=
    List.dropWhile_eq_nil_iff.mpr fun c member => by rw [plain c member]; rfl
  rw [splitAtFirst, nothing]

/-- A text is split at the first character of the kind. -/
theorem splitAtFirst_append {isSplit : Char → Bool} {before after : List Char} {c : Char}
    (plain : ∀ c ∈ before, isSplit c = false) (splits : isSplit c = true) :
    splitAtFirst isSplit (before ++ c :: after) = (before, some after) := by
  have kept : ∀ c ∈ before, (!isSplit c) = true := fun c member => by rw [plain c member]; rfl
  have dropped : (before ++ c :: after).dropWhile (!isSplit ·) = c :: after := by
    rw [List.dropWhile_append_of_pos kept, List.dropWhile_cons_of_neg (by simp [splits])]
  have taken : (before ++ c :: after).takeWhile (!isSplit ·) = before := by
    rw [List.takeWhile_append_of_pos kept, List.takeWhile_cons_of_neg (by simp [splits]),
      List.append_nil]
  rw [splitAtFirst, dropped, taken]

/-- Digits are no letters and no points. -/
theorem ne_of_isDigit {c other : Char} (digit : c.isDigit = true) (unlike : other.isDigit = false) :
    c ≠ other := by
  rintro rfl
  rw [digit] at unlike
  cases unlike

/-- A run of digits is read as it is. -/
theorem digitRun_of_areDigits (areDigits : AreDigits digits) : digitRun digits = some digits := by
  unfold digitRun
  split
  next none => rw [List.isEmpty_iff.mp none]
  next some =>
    exact areDigits.digitsBetweenUnderscores_eq (.inr fun none => some (List.isEmpty_iff.mpr none))

namespace Spelling.IsProper

/-- The text before an exponent is made of digits and a point. -/
theorem digit_or_point (proper : spelling.IsProper) :
    ∀ c ∈ spelling.mantissa, c.isDigit = true ∨ c = '.' := by
  intro c member
  rcases List.mem_append.mp member with first | second
  · exact .inl (proper.whole c first)
  · split at second
    · cases second
    · rcases List.mem_cons.mp second with rfl | rest
      · exact .inr rfl
      · exact .inl (proper.fraction c rest)

/-- The text is split at the letter of the exponent. -/
theorem splitAtFirst_text (proper : spelling.IsProper) :
    splitAtFirst (fun c => c = 'e' || c = 'E') spelling.text =
      (spelling.mantissa, spelling.exponent.map exponentText) := by
  have plain : ∀ c ∈ spelling.mantissa, (decide (c = 'e') || decide (c = 'E')) = false := by
    intro c member
    rcases proper.digit_or_point c member with digit | rfl
    · simp [ne_of_isDigit digit (show 'e'.isDigit = false from rfl),
        ne_of_isDigit digit (show 'E'.isDigit = false from rfl)]
    · rfl
  rw [text]
  cases spelling.exponent with
  | none => rw [List.append_nil, splitAtFirst_of_forall plain]; rfl
  | some exponent => exact splitAtFirst_append plain rfl

/-- The text before the exponent is split at the point. -/
theorem splitAtFirst_mantissa (proper : spelling.IsProper) :
    splitAtFirst (· = '.') spelling.mantissa =
      (spelling.whole, if spelling.fraction = [] then none else some spelling.fraction) := by
  have plain : ∀ c ∈ spelling.whole, decide (c = '.') = false := by
    intro c member
    simpa using ne_of_isDigit (proper.whole c member) (show '.'.isDigit = false from rfl)
  rw [mantissa]
  split
  · rw [List.append_nil, splitAtFirst_of_forall plain]
  · exact splitAtFirst_append plain rfl

/-- The exponent is read. -/
theorem readExponent_eq (proper : spelling.IsProper) {exponent : Bool × List Char}
    (given : spelling.exponent = some exponent) :
    readExponent (exponentText exponent) = some spelling.power := by
  obtain ⟨negative, size⟩ := exponent
  obtain ⟨areDigits, filled⟩ := proper.size negative size given
  have read : digitsBetweenUnderscores false size = some size :=
    areDigits.digitsBetweenUnderscores_eq (.inr filled)
  have power : spelling.power = signed negative (digitsValue size) := by rw [Spelling.power, given]
  cases negative <;> simp [readExponent, exponentText, takeSign, read, power]

/-- The parts of a spelling are read. -/
theorem readDecimal_text (proper : spelling.IsProper) :
    readDecimal spelling.text = some ⟨spelling.whole, spelling.fraction, spelling.power⟩ := by
  have fraction : digitRun ((if spelling.fraction = [] then none else some spelling.fraction).getD []) =
      some spelling.fraction := by
    split
    next none => rw [none]; rfl
    next => exact digitRun_of_areDigits proper.fraction
  unfold readDecimal
  rw [proper.splitAtFirst_text]
  dsimp only
  rw [proper.splitAtFirst_mantissa]
  cases given : spelling.exponent with
  | none =>
    have power : spelling.power = 0 := by rw [Spelling.power, given]
    simp [digitRun_of_areDigits proper.whole, fraction, proper.started, power]
  | some exponent =>
    simp [digitRun_of_areDigits proper.whole, fraction, proper.started,
      proper.readExponent_eq given]

end Spelling.IsProper

/-! ## Layouts -/

/-- A spelling stands for the number that digits stand for with a point after the first `point` of
them. -/
structure Spelling.Spells (spelling : Spelling) (digits : List Char) (point : Int) : Prop where
  /-- It is made of digits. -/
  proper : spelling.IsProper
  /-- It has the same digits, and zeros behind them that the point makes up for. -/
  value : ∃ zeros : Nat,
    digitsValue (spelling.whole ++ spelling.fraction) = digitsValue digits * 10 ^ zeros ∧
      spelling.power - spelling.fraction.length + zeros = point - digits.length

/-- Digits after a point, with zeros before them. -/
theorem spells_fraction (areDigits : AreDigits digits) (filled : digits ≠ []) (before : Nat) :
    Spelling.Spells ⟨['0'], List.replicate before '0' ++ digits, none⟩ digits (-before) := by
  refine ⟨⟨AreDigits.replicate_zero 1, List.cons_ne_nil _ _,
    (AreDigits.replicate_zero _).append areDigits, nofun, .inl (by simp [filled])⟩, 0, ?_, ?_⟩
  · have zero : ['0'] ++ (List.replicate before '0' ++ digits) =
        List.replicate (before + 1) '0' ++ digits := rfl
    rw [zero, digitsValue_replicate_append _ areDigits, Nat.pow_zero, Nat.mul_one]
  · simp only [Spelling.power, List.length_append, List.length_replicate]
    omega

/-- Digits before a point, with zeros behind them. -/
theorem spells_whole (areDigits : AreDigits digits) (filled : digits ≠ []) (behind : Nat) :
    Spelling.Spells ⟨digits ++ List.replicate behind '0', ['0'], none⟩ digits
      (digits.length + behind) := by
  refine ⟨⟨areDigits.append (AreDigits.replicate_zero _), by simp [filled],
    AreDigits.replicate_zero 1, nofun, .inl (List.cons_ne_nil _ _)⟩, behind + 1, ?_, ?_⟩
  · have zero : digits ++ List.replicate behind '0' ++ ['0'] =
        digits ++ List.replicate (behind + 1) '0' := by
      rw [List.append_assoc, List.replicate_succ']
    rw [zero, digitsValue_append_replicate areDigits]
  · simp only [Spelling.power, List.length_singleton]
    omega

/-- Digits on both sides of a point. -/
theorem spells_parts {first second : List Char} (ones : AreDigits first) (others : AreDigits second)
    (before : first ≠ []) (after : second ≠ []) :
    Spelling.Spells ⟨first, second, none⟩ (first ++ second) first.length := by
  refine ⟨⟨ones, before, others, nofun, .inl after⟩, 0, ?_, ?_⟩
  · rw [Nat.pow_zero, Nat.mul_one]
  · simp only [Spelling.power, List.length_append]
    omega

/-- The digits of an exponent, at least two. -/
def exponentDigits (number : Nat) : List Char :=
  if (digitsOf number).length < 2 then '0' :: digitsOf number else digitsOf number

theorem areDigits_exponentDigits (number : Nat) : AreDigits (exponentDigits number) := by
  unfold exponentDigits
  split
  · exact (AreDigits.replicate_zero 1).append (areDigits_digitsOf number)
  · exact areDigits_digitsOf number

theorem exponentDigits_ne_nil (number : Nat) : exponentDigits number ≠ [] := by
  unfold exponentDigits
  split
  · exact List.cons_ne_nil _ _
  · exact digitsOf_ne_nil number

@[simp] theorem digitsValue_exponentDigits (number : Nat) :
    digitsValue (exponentDigits number) = number := by
  unfold exponentDigits
  split
  · exact (digitsValue_replicate_append 1 (areDigits_digitsOf number)).trans
      (digitsValue_digitsOf number)
  · exact digitsValue_digitsOf number

/-- Digits with an exponent. -/
theorem spells_exponent {first : Char} {rest : List Char} (areDigits : AreDigits (first :: rest))
    (point : Int) : Spelling.Spells
      ⟨[first], rest, some (decide (point - 1 < 0), exponentDigits (point - 1).natAbs)⟩
      (first :: rest) point := by
  obtain ⟨digit, digits⟩ := List.forall_mem_cons.mp areDigits
  refine ⟨⟨List.forall_mem_singleton.mpr digit, List.cons_ne_nil _ _, digits, ?_, .inr rfl⟩, 0, ?_, ?_⟩
  · rintro negative _ ⟨⟩
    exact ⟨areDigits_exponentDigits _, exponentDigits_ne_nil _⟩
  · rw [Nat.pow_zero, Nat.mul_one]
    rfl
  · simp only [Spelling.power, digitsValue_exponentDigits, List.length_cons, signed]
    split
    next negative => rw [decide_eq_true_eq] at negative; omega
    next positive => rw [decide_eq_true_eq] at positive; omega

/-- Digits are laid out as a spelling that stands for them. -/
theorem exists_spelling (areDigits : AreDigits digits) (filled : digits ≠ []) (point : Int) :
    ∃ spelling : Spelling, Layout.apply ⟨".0"⟩ digits point = spelling.text ∧
      spelling.Spells digits point := by
  unfold Layout.apply
  dsimp only
  split
  next near =>
    simp only [Bool.and_eq_true, decide_eq_true_eq] at near
    split
    next small =>
      -- The point stands before all digits, behind some zeros.
      obtain ⟨before, rfl⟩ : ∃ before : Nat, point = -before := ⟨(-point).toNat, by omega⟩
      refine ⟨_, ?_, spells_fraction areDigits filled before⟩
      simp [Spelling.text, Spelling.mantissa, filled]
    next large =>
      split
      next whole =>
        -- The point stands after all digits and some zeros.
        obtain ⟨behind, rfl⟩ : ∃ behind : Nat, point = digits.length + behind :=
          ⟨(point - digits.length).toNat, by omega⟩
        refine ⟨_, ?_, spells_whole areDigits filled behind⟩
        simp [Spelling.text, Spelling.mantissa]
      next broken =>
        -- The point stands among the digits, some of which are on each side of it.
        obtain ⟨first, second, rfl, rfl⟩ : ∃ first second, digits = first ++ second ∧
            point = first.length := by
          refine ⟨digits.take point.toNat, digits.drop point.toNat,
            (List.take_append_drop _ _).symm, ?_⟩
          rw [List.length_take]
          omega
        have before : first ≠ [] := by
          rintro rfl
          exact large (by simp)
        have after : second ≠ [] := by
          rintro rfl
          exact broken (by simp)
        refine ⟨_, ?_, spells_parts (fun c member => areDigits c (List.mem_append_left _ member))
          (fun c member => areDigits c (List.mem_append_right _ member)) before after⟩
        simp [Spelling.text, Spelling.mantissa, after]
  next far =>
    obtain ⟨first, rest, rfl⟩ := List.exists_cons_of_ne_nil filled
    refine ⟨_, ?_, spells_exponent areDigits point⟩
    have sign : (if point - 1 < 0 then '-' else '+') =
        if decide (point - 1 < 0) = true then '-' else '+' := by
      simp only [decide_eq_true_eq]
    rw [sign]
    cases rest <;> rfl

/-! ## Reading what was written -/

/-- Whether a quotient lies in an interval does not depend on how it is written. -/
theorem RoundingInterval.holds_congr {interval : RoundingInterval} {value other scale factor : Nat}
    (filled : 0 < scale) (some : 0 < factor) (same : value * factor = other * scale) :
    interval.holds value scale = interval.holds other factor := by
  have least (bound : Nat) : bound * scale ≤ value ↔ bound * factor ≤ other := by
    rw [← Nat.mul_le_mul_right_iff some, same, Nat.mul_right_comm, Nat.mul_le_mul_right_iff filled]
  have most (bound : Nat) : value ≤ bound * scale ↔ other ≤ bound * factor := by
    rw [← Nat.mul_le_mul_right_iff some, same, Nat.mul_right_comm, Nat.mul_le_mul_right_iff filled]
  have above (bound : Nat) : bound * scale < value ↔ bound * factor < other := by
    rw [← Nat.not_le, ← Nat.not_le, most]
  have below (bound : Nat) : value < bound * scale ↔ other < bound * factor := by
    rw [← Nat.not_le, ← Nat.not_le, least]
  unfold RoundingInterval.holds
  simp only [least, most, above, below]

/-- Powers of ten that are moved between the digits and the exponent leave the number as it is. -/
theorem holds_of_shifted {interval : RoundingInterval} {number zeros others : Nat}
    {exponent other : Int} (same : exponent + zeros = other + others)
    (holds : interval.holds (4 * (number * 10 ^ zeros) * stepOf exponent) (scaleOf exponent) = true) :
    interval.holds (4 * (number * 10 ^ others) * stepOf other) (scaleOf other) = true := by
  have powers : 10 ^ zeros * 10 ^ exponent.toNat * scaleOf other =
      10 ^ others * 10 ^ other.toNat * scaleOf exponent := by
    rw [scaleOf, scaleOf, ← Nat.pow_add, ← Nat.pow_add, ← Nat.pow_add, ← Nat.pow_add]
    congr 1
    omega
  rw [← holds]
  refine (RoundingInterval.holds_congr (scaleOf_pos _) (scaleOf_pos _) ?_).symm
  rw [stepOf, stepOf]
  calc 4 * (number * 10 ^ zeros) * (10 ^ exponent.toNat * unitsPerOne) * scaleOf other
      = 4 * number * unitsPerOne * (10 ^ zeros * 10 ^ exponent.toNat * scaleOf other) := by ring
    _ = 4 * number * unitsPerOne * (10 ^ others * 10 ^ other.toNat * scaleOf exponent) := by rw [powers]
    _ = 4 * (number * 10 ^ others) * (10 ^ other.toNat * unitsPerOne) * scaleOf exponent := by ring

/-- A power of ten that is too large for the format is so in units. -/
theorem stepOf_large {exponent : Int} (large : 400 < exponent) : 6 * unitLimit ≤ stepOf exponent := by
  have least : 6 * unitLimit ≤ stepOf 401 := by decide +kernel
  refine Nat.le_trans least (Nat.mul_le_mul_right _ (Nat.pow_le_pow_right (by decide) ?_))
  omega

/-- A power of ten that is too small for the format is so in units. -/
theorem scaleOf_large {exponent : Int} {length : Nat} (small : exponent + length < -400) :
    10 ^ length * (4 * unitsPerOne) ≤ scaleOf exponent := by
  have least : 4 * unitsPerOne ≤ scaleOf (-401) := by decide +kernel
  refine Nat.le_trans (Nat.mul_le_mul_left _ least) ?_
  rw [scaleOf, scaleOf, ← Nat.pow_add]
  exact Nat.pow_le_pow_right (by decide) (by omega)

/-- Digits in the interval of a size are read as the number of this size. -/
theorem ofDecimal_eq_finite (size : IsSize units) (some : 0 < units) {number : DecimalText}
    (areDigits : AreDigits (number.whole ++ number.fraction))
    (holds : (roundingInterval units).holds (4 * digitsValue (number.whole ++ number.fraction) *
      stepOf (number.exponent - number.fraction.length))
        (scaleOf (number.exponent - number.fraction.length)) = true)
    (negative : Bool) : ofDecimal negative number = .finite negative units := by
  have value := areDigits.digitsValue_lt
  have positive := size.pos_of_holds some (scaleOf_pos _) holds
  obtain ⟨low, high, -⟩ := RoundingInterval.between_of_holds holds
  unfold ofDecimal
  dsimp only
  generalize number.exponent - number.fraction.length = exponent at *
  generalize (number.whole ++ number.fraction).length = length at *
  generalize digitsValue (number.whole ++ number.fraction) = significand at *
  have filled : significand ≠ 0 := by
    rintro rfl
    simp at positive
  -- The tests for numbers beyond the format do not apply.
  have bounded : ¬ 400 + (length : Int) < exponent + length := by
    intro large
    have beyond := stepOf_large (show 400 < exponent by omega)
    rw [scaleOf_of_nonneg (by omega), Nat.mul_one] at high
    have product := Nat.le_mul_of_pos_left (stepOf exponent) (Nat.pos_of_ne_zero filled)
    rw [Nat.mul_assoc] at high
    have most := size.high_le some
    have small := size.small
    omega
  have tiny : ¬ exponent + (length : Int) < -400 := by
    intro small
    have beyond := scaleOf_large small
    rw [stepOf_of_nonpos (by omega)] at low
    have product := Nat.mul_lt_mul_of_pos_right value (show 0 < 4 * unitsPerOne from
      Nat.mul_pos (by decide) unitsPerOne_pos)
    have more := Nat.le_mul_of_pos_left (scaleOf exponent) (size.low_pos some)
    rw [show 4 * significand * unitsPerOne = significand * (4 * unitsPerOne) by ring] at low
    omega
  rw [if_neg filled, if_neg bounded, if_neg tiny]
  split
  next whole =>
    rw [scaleOf_of_nonneg whole, stepOf, Nat.mul_assoc, ← Nat.mul_assoc significand] at holds
    exact ofRatio_eq_finite size Nat.one_pos holds negative
  next fraction =>
    rw [stepOf_of_nonpos (by omega), Nat.mul_assoc] at holds
    exact ofRatio_eq_finite size (scaleOf_pos exponent) holds negative

/-- A number of the format is written as a spelling that is read as the number. -/
theorem exists_spelling_of_isSize (size : IsSize units) (negative : Bool) :
    ∃ spelling : Spelling, spelling.IsProper ∧
      (written (.finite negative units)).toList =
        (if negative then ['-'] else []) ++ spelling.text ∧
      ofDecimal negative ⟨spelling.whole, spelling.fraction, spelling.power⟩ =
        .finite negative units := by
  unfold written writtenWith
  dsimp only
  split
  next zero =>
    refine ⟨⟨['0'], ['0'], none⟩, ?_, ?_, ?_⟩
    · exact ⟨AreDigits.replicate_zero 1, List.cons_ne_nil _ _, AreDigits.replicate_zero 1, nofun,
        .inl (List.cons_ne_nil _ _)⟩
    · rw [String.toList_ofList]
      rfl
    · rw [zero]
      rfl
  next other =>
    -- The digits that are found stand for the number also without the zeros at their end.
    have some := Nat.pos_of_ne_zero other
    have holds := holds_shortest size some
    generalize shortest units = found at holds ⊢
    obtain ⟨count, split⟩ := exists_dropZeros (digitsOf found.digits)
    have areDigits : AreDigits (dropZeros (digitsOf found.digits)) :=
      fun c member => areDigits_digitsOf found.digits c (split ▸ List.mem_append_left _ member)
    have number : found.digits = digitsValue (dropZeros (digitsOf found.digits)) * 10 ^ count := by
      rw [← digitsValue_append_replicate areDigits, ← split, digitsValue_digitsOf]
    have filled : dropZeros (digitsOf found.digits) ≠ [] := by
      intro none
      have zero : found.digits = 0 := by
        rw [number, none]
        exact Nat.zero_mul _
      rw [zero] at holds
      exact absurd (size.pos_of_holds some (scaleOf_pos _) holds) (by simp)
    have length := congrArg List.length split
    rw [List.length_append, List.length_replicate] at length
    obtain ⟨spelling, laid, spells⟩ :=
      exists_spelling areDigits filled (found.exponent + (digitsOf found.digits).length)
    obtain ⟨zeros, value, shift⟩ := spells.value
    refine ⟨spelling, spells.proper, ?_, ?_⟩
    · rw [String.toList_ofList, ← laid]
      rfl
    · refine ofDecimal_eq_finite size some (spells.proper.whole.append spells.proper.fraction) ?_ negative
      have moved : found.exponent + count =
          spelling.power - spelling.fraction.length + zeros := by omega
      rw [number] at holds
      rw [value]
      exact holds_of_shifted moved holds

namespace Spelling.IsProper

/-- A spelling is made of digits, points, signs and letters of exponents. -/
theorem digit_or_mark (proper : spelling.IsProper) :
    ∀ c ∈ spelling.text, c.isDigit = true ∨ c ∈ ['.', 'e', '+', '-'] := by
  intro c member
  rcases List.mem_append.mp member with before | after
  · exact (proper.digit_or_point c before).imp_right (by rintro rfl; decide)
  · cases given : spelling.exponent with
    | none =>
      rw [given] at after
      cases after
    | some exponent =>
      obtain ⟨negative, size⟩ := exponent
      rw [given] at after
      rcases List.mem_cons.mp after with rfl | after
      · exact .inr (by decide)
      · rcases List.mem_cons.mp after with rfl | after
        · cases negative <;> simp
        · exact .inl ((proper.size negative size given).1 c after)

/-- A spelling starts with a digit. -/
theorem exists_cons (proper : spelling.IsProper) :
    ∃ first rest, spelling.text = first :: rest ∧ first.isDigit = true := by
  obtain ⟨first, rest, whole⟩ := List.exists_cons_of_ne_nil proper.started
  rw [text, mantissa, whole]
  exact ⟨first, _, rfl, proper.whole first (whole ▸ List.mem_cons_self)⟩

/-- A spelling has a point or the letter of an exponent. -/
theorem exists_mark (proper : spelling.IsProper) : '.' ∈ spelling.text ∨ 'e' ∈ spelling.text := by
  rw [text, mantissa]
  rcases proper.marked with fraction | exponent
  · rw [if_neg fraction]
    simp
  · obtain ⟨exponent, given⟩ := Option.isSome_iff_exists.mp exponent
    rw [given]
    simp

end Spelling.IsProper

/-- Digits, points, signs and letters are no blanks. -/
theorem isNumberBlank_of_digit_or_mark {c : Char}
    (shown : c.isDigit = true ∨ c ∈ ['.', 'e', '+', '-']) : isNumberBlank c = false := by
  have visible : 32 < c.toNat ∧ c.toNat < 127 := by
    rcases shown with digit | mark
    · have range := toNat_of_isDigit digit
      omega
    · simp only [List.mem_cons, List.not_mem_nil, or_false] at mark
      rcases mark with rfl | rfl | rfl | rfl <;> decide
  unfold isNumberBlank isBlank
  dsimp only
  generalize c.toNat = code at visible ⊢
  simp only [Bool.and_eq_false_iff, Bool.or_eq_false_iff, decide_eq_false_iff_not,
    beq_eq_false_iff_ne]
  left
  omega

/-- A text without blanks is not trimmed. -/
theorem trimNumber_eq_self {text : List Char} (plain : ∀ c ∈ text, isNumberBlank c = false) :
    trimNumber text = text := by
  have kept (part : List Char) (within : ∀ c ∈ part, c ∈ text) :
      part.dropWhile isNumberBlank = part := by
    cases part with
    | nil => rfl
    | cons c rest =>
      rw [List.dropWhile_cons_of_neg]
      simp [plain c (within c List.mem_cons_self)]
  rw [trimNumber, kept text fun _ member => member,
    kept text.reverse fun _ member => List.mem_reverse.mp member, List.reverse_reverse]

/-- A digit has no case. -/
theorem toLower_of_isDigit {c : Char} (digit : c.isDigit = true) : c.toLower = c := by
  have range := toNat_of_isDigit digit
  have low : ¬ (c.val ≥ 'A'.val ∧ c.val ≤ 'Z'.val) := by
    rintro ⟨upper, -⟩
    have : 65 ≤ c.toNat := upper
    omega
  rw [Char.toLower, dif_neg low]

/-- A minus sign is split off from what starts with a digit. -/
theorem takeSign_signed {body more : List Char} {first : Char} (start : body = first :: more)
    (digit : first.isDigit = true) (negative : Bool) :
    takeSign ((if negative then ['-'] else []) ++ body) = (negative, body) := by
  cases negative with
  | true => rfl
  | false =>
    have minus := ne_of_isDigit digit (show '-'.isDigit = false from rfl)
    have plus := ne_of_isDigit digit (show '+'.isDigit = false from rfl)
    rw [if_neg Bool.false_ne_true, List.nil_append, start]
    simp [takeSign, minus, plus]

/-- A spelling is read. -/
theorem read_spelling (proper : spelling.IsProper) (negative : Bool) :
    read ((if negative then ['-'] else []) ++ spelling.text) =
      some (ofDecimal negative ⟨spelling.whole, spelling.fraction, spelling.power⟩) := by
  obtain ⟨first, rest, start, digit⟩ := proper.exists_cons
  have plain : ∀ c ∈ (if negative then ['-'] else []) ++ spelling.text, isNumberBlank c = false := by
    intro c member
    refine isNumberBlank_of_digit_or_mark ?_
    rcases List.mem_append.mp member with sign | body
    · cases negative with
      | true =>
        rw [List.mem_singleton.mp sign]
        exact .inr (by decide)
      | false => cases sign
    · exact proper.digit_or_mark c body
  have sign := takeSign_signed start digit negative
  -- A number starts with a digit, a name of one with a letter.
  have unnamed (name : String) (letter : name.toList.head? ≠ some first) :
      lowerAscii spelling.text ≠ name := by
    rintro rfl
    rw [lowerAscii, start, String.toList_ofList, List.map_cons, toLower_of_isDigit digit] at letter
    exact letter rfl
  have unlike (letter : Char) (other : letter.isDigit = false) : some letter ≠ some first :=
    fun same => ne_of_isDigit digit other (Option.some.inj same).symm
  unfold read
  rw [trimNumber_eq_self plain, sign]
  dsimp only
  rw [decide_eq_false (unnamed "inf" (unlike 'i' rfl)),
    decide_eq_false (unnamed "infinity" (unlike 'i' rfl)), Bool.or_self, if_neg Bool.false_ne_true,
    if_neg (unnamed "nan" (unlike 'n' rfl)), proper.readDecimal_text, Option.map_some]

/-- A number of the format is read back from the text in which it is written. -/
theorem read_written {number : Binary64} (proper : number.IsProper) :
    read number.written.toList = some number := by
  obtain ⟨negative, units, rfl, size⟩ := proper
  obtain ⟨spelling, proper, written, value⟩ := exists_spelling_of_isSize size negative
  rw [written, read_spelling proper, value]

end Number.Binary64

end NegativeCompile

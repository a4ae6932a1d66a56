import NegativeCompile.Json.Reader
import NegativeCompile.Json.Writer
import NegativeCompile.Proofs.Text.Escaping

/-! # Strings are read back

What stands for a character in a string is read back as the character, except for halves of pairs of
code units: a half is no character, and two halves that make a pair are read as the character that the
pair stands for (`Json.rejoined`). So a string without halves is read back as it is
(`Json.rejoined_eq_self`). -/

namespace NegativeCompile.Json

open Text

variable {c first second : Char} {unit : Nat} {text beyond before : List Char} {fuel : Nat}

/-! ## Pairs of code units -/

/-- A code is the first half of a pair of code units. -/
def IsHigh (code : Nat) : Prop := 0xd800 ≤ code ∧ code < 0xdc00

/-- A code is the second half of a pair of code units. -/
def IsLow (code : Nat) : Prop := 0xdc00 ≤ code ∧ code < 0xe000

instance (code : Nat) : Decidable (IsHigh code) := inferInstanceAs (Decidable (_ ∧ _))

instance (code : Nat) : Decidable (IsLow code) := inferInstanceAs (Decidable (_ ∧ _))

/-- The character that a pair of code units stands for. -/
def joined (high low : Nat) : Char := Char.ofNat (0x10000 + (high - 0xd800) * 0x400 + (low - 0xdc00))

/-- Characters after they have been written and read: pairs of halves are joined. -/
def rejoin : List Char → List Char
  | [] => []
  | [c] => [Char.ofNat (codeOf c)]
  | first :: second :: rest =>
    if IsHigh (codeOf first) ∧ IsLow (codeOf second) then
      joined (codeOf first) (codeOf second) :: rejoin rest
    else Char.ofNat (codeOf first) :: rejoin (second :: rest)

/-- A string after it has been written and read. -/
def rejoined (value : String) : String := String.ofList (rejoin value.toList)

/-- A character that is kept for no half stands for itself. -/
theorem codeOf_eq_toNat (whole : isHalf (codeOf c) = false) : codeOf c = c.toNat := by
  unfold codeOf at whole ⊢
  split
  next kept =>
    rw [if_pos kept] at whole
    rw [Bool.and_eq_true, whole] at kept
    cases kept.2
  next => rfl

/-- A character that is kept for no half is read back. -/
theorem ofNat_codeOf (whole : isHalf (codeOf c) = false) : Char.ofNat (codeOf c) = c := by
  rw [codeOf_eq_toNat whole, Char.ofNat_toNat]

/-- Characters that are kept for no halves are read back. -/
theorem rejoin_eq_self (whole : ∀ c ∈ text, isHalf (codeOf c) = false) : rejoin text = text := by
  induction text using rejoin.induct with
  | case1 => rfl
  | case2 c => rw [rejoin, ofNat_codeOf (whole c List.mem_cons_self)]
  | case3 first second rest pair ih =>
    have half : isHalf (codeOf first) = true := by
      have range := pair.1
      unfold IsHigh at range
      simp only [isHalf, Bool.and_eq_true, decide_eq_true_eq]
      omega
    rw [whole first List.mem_cons_self] at half
    cases half
  | case4 first second rest single ih =>
    rw [rejoin, if_neg single, ofNat_codeOf (whole first List.mem_cons_self),
      ih fun c member => whole c (List.mem_cons_of_mem _ member)]

/-- A string without halves is read back. -/
theorem rejoined_eq_self {value : String} (whole : ∀ c ∈ value.toList, isHalf (codeOf c) = false) :
    rejoined value = value := by
  rw [rejoined, rejoin_eq_self whole, String.ofList_toList]

/-! ## Escapes -/

/-- The unit that stands at the start of a text as an escape. -/
def leadingUnit? (text : List Char) : Option Nat :=
  match text with
  | '\\' :: 'u' :: more => readUnit? more
  | _ => none

/-- A unit is read from its digits. -/
theorem readUnit?_hexPadded (small : unit < 0x10000) (rest : List Char) :
    readUnit? (hexPadded 4 unit ++ rest) = some unit :=
  Literal.hexEscape?_hexPadded 4 unit small rest

theorem leadingUnit?_unitEscape (small : unit < 0x10000) (rest : List Char) :
    leadingUnit? (unitEscape unit ++ rest) = some unit :=
  readUnit?_hexPadded small rest

/-- A unit is read, on its own or with the next one. -/
theorem readStringFrom_unitEscape (small : unit < 0x10000) (beyond : List Char) :
    readStringFrom before (fuel + 1) (unitEscape unit ++ beyond) =
      match leadingUnit? beyond with
      | some low =>
        if IsHigh unit ∧ IsLow low then readStringFrom (joined unit low :: before) fuel (beyond.drop 6)
        else readStringFrom (Char.ofNat unit :: before) fuel beyond
      | none => readStringFrom (Char.ofNat unit :: before) fuel beyond := by
  have dropped : (hexPadded 4 unit ++ beyond).drop 4 = beyond := by
    rw [List.drop_append_of_le_length (length_hexPadded 4 unit).ge,
      List.drop_of_length_le (length_hexPadded 4 unit).le, List.nil_append]
  have pairs (low : Nat) : (decide (0xd800 ≤ unit) && decide (unit < 0xdc00) && decide (0xdc00 ≤ low) &&
      decide (low < 0xe000)) = decide (IsHigh unit ∧ IsLow low) := by
    rw [Bool.eq_iff_iff]
    simp only [Bool.and_eq_true, decide_eq_true_eq]
    unfold IsHigh IsLow
    tauto
  rw [unitEscape, List.cons_append, List.cons_append, readStringFrom]
  simp only [readUnit?_hexPadded small, dropped, pairs, decide_eq_true_eq]
  rfl

/-- How a character stands in a string. -/
inductive StandsAs (c : Char) : List Char → Prop where
  /-- It stands for itself. -/
  | itself (shown : 32 ≤ codeOf c ∧ codeOf c ≤ 126) (unquoted : c ≠ '"') (unescaped : c ≠ '\\') :
    StandsAs c [c]
  /-- A letter after a backslash stands for it. -/
  | letter {letter : Char} (plain : codeOf c < 0x80) (escapes : escaped? letter = some c)
      (named : letter ≠ 'u') : StandsAs c ['\\', letter]
  /-- A unit stands for it. -/
  | unit (small : codeOf c < 0x10000) : StandsAs c (unitEscape (codeOf c))
  /-- Two units stand for it. -/
  | pair (large : 0x10000 ≤ codeOf c) :
      StandsAs c (unitEscape (0xd800 + (codeOf c - 0x10000) / 0x400) ++
        unitEscape (0xdc00 + (codeOf c - 0x10000) % 0x400))

/-- A letter after a backslash stands for the character that it escapes. -/
theorem StandsAs.of_eq {escaped letter : Char} (same : c = escaped) (plain : codeOf escaped < 0x80)
    (escapes : escaped? letter = some escaped) (named : letter ≠ 'u') : StandsAs c ['\\', letter] := by
  subst same
  exact .letter plain escapes named

/-- A character stands for itself or is escaped. -/
theorem standsAs_escapeChar (c : Char) : StandsAs c (escapeChar c) := by
  unfold escapeChar
  split
  next quote => exact .of_eq quote (by decide) rfl (by decide)
  split
  next slash => exact .of_eq slash (by decide) rfl (by decide)
  split
  next feed => exact .of_eq feed (by decide) rfl (by decide)
  split
  next ret => exact .of_eq ret (by decide) rfl (by decide)
  split
  next tab => exact .of_eq tab (by decide) rfl (by decide)
  split
  next back => exact .of_eq back (by decide) rfl (by decide)
  split
  next form => exact .of_eq form (by decide) rfl (by decide)
  next quote slash _ _ _ _ _ =>
    dsimp only
    split
    next shown =>
      rw [Bool.and_eq_true, decide_eq_true_eq, decide_eq_true_eq] at shown
      exact .itself shown quote slash
    next =>
      split
      next small => exact .unit small
      next large => exact .pair (Nat.not_lt.mp large)

/-- A small code is that of no half. -/
theorem isHalf_of_lt (plain : codeOf c < 0x80) : isHalf (codeOf c) = false := by
  simp only [isHalf, Bool.and_eq_false_iff, decide_eq_false_iff_not]
  omega

/-- A half that starts what stands for a character is the character. -/
theorem StandsAs.codeOf_eq_of_isLow (stands : StandsAs c text) (beyond : List Char)
    (starts : leadingUnit? (text ++ beyond) = some unit) (low : IsLow unit) : codeOf c = unit := by
  cases stands with
  | itself _ _ unescaped =>
    exfalso
    unfold leadingUnit? at starts
    split at starts
    next same => exact unescaped (List.cons.inj same).1
    next => cases starts
  | letter _ _ named =>
    exfalso
    unfold leadingUnit? at starts
    split at starts
    next same => exact named (List.cons.inj (List.cons.inj same).2).1
    next => cases starts
  | unit small => exact Option.some.inj ((leadingUnit?_unitEscape small beyond).symm.trans starts)
  | pair large =>
    have bound := codeOf_le c
    rw [List.append_assoc, leadingUnit?_unitEscape (by omega)] at starts
    cases starts
    unfold IsLow at low
    omega

/-- A half stands as a unit. -/
theorem escapeChar_of_isHalf (half : isHalf (codeOf c) = true) :
    escapeChar c = unitEscape (codeOf c) := by
  have stands := standsAs_escapeChar c
  generalize escapeChar c = text at stands
  have range := half
  simp only [isHalf, Bool.and_eq_true, decide_eq_true_eq] at range
  cases stands with
  | itself shown => omega
  | letter plain => omega
  | unit => rfl
  | pair large => omega

/-! ## Strings -/

/-- A string ends at a quote. -/
theorem readStringFrom_quote (before rest : List Char) :
    readStringFrom before (fuel + 1) ('"' :: rest) = some (String.ofList before.reverse, rest) := by
  rw [readStringFrom.eq_def]
  rfl

/-- Other characters than quotes and backslashes stand for themselves. -/
theorem readStringFrom_cons (unquoted : c ≠ '"') (unescaped : c ≠ '\\') (rest : List Char) :
    readStringFrom before (fuel + 1) (c :: rest) = readStringFrom (c :: before) fuel rest := by
  rw [readStringFrom.eq_def]
  dsimp only
  rw [if_neg unquoted, if_pos unescaped]

/-- What stands for a character is read back, unless it is joined with what follows. -/
theorem StandsAs.readStringFrom_eq (stands : StandsAs c text)
    (apart : ∀ low, leadingUnit? beyond = some low → ¬(IsHigh (codeOf c) ∧ IsLow low)) :
    readStringFrom before (fuel + 1) (text ++ beyond) =
      readStringFrom (Char.ofNat (codeOf c) :: before) fuel beyond := by
  cases stands with
  | itself shown unquoted unescaped =>
    rw [List.singleton_append, readStringFrom_cons unquoted unescaped,
      ofNat_codeOf (isHalf_of_lt (by omega))]
  | @letter letter plain escapes named =>
    rw [List.cons_append, List.singleton_append, readStringFrom, if_neg (by decide),
      if_neg (by decide), ofNat_codeOf (isHalf_of_lt plain)]
    simp only [if_neg named, escapes]
  | unit small =>
    rw [readStringFrom_unitEscape small]
    cases found : leadingUnit? beyond with
    | none => rfl
    | some low => exact if_neg (apart low found)
  | pair large =>
    have bound := codeOf_le c
    have whole : isHalf (codeOf c) = false := by
      simp only [isHalf, Bool.and_eq_false_iff, decide_eq_false_iff_not]
      omega
    rw [List.append_assoc, readStringFrom_unitEscape (by omega),
      leadingUnit?_unitEscape (by omega)]
    dsimp only
    rw [if_pos (by unfold IsHigh IsLow; omega)]
    have dropped : (unitEscape (0xdc00 + (codeOf c - 0x10000) % 0x400) ++ beyond).drop 6 = beyond :=
      List.drop_left' (by simp [unitEscape])
    have same : 0x10000 + (0xd800 + (codeOf c - 0x10000) / 0x400 - 0xd800) * 0x400 +
        (0xdc00 + (codeOf c - 0x10000) % 0x400 - 0xdc00) = codeOf c := by omega
    rw [dropped, joined, same]

/-- Two halves that make a pair are joined. -/
theorem readStringFrom_pair (high : IsHigh (codeOf first)) (low : IsLow (codeOf second)) :
    readStringFrom before (fuel + 1) (escapeChar first ++ (escapeChar second ++ beyond)) =
      readStringFrom (joined (codeOf first) (codeOf second) :: before) fuel beyond := by
  have ranges : (0xd800 ≤ codeOf first ∧ codeOf first < 0xdc00) ∧
      0xdc00 ≤ codeOf second ∧ codeOf second < 0xe000 := ⟨high, low⟩
  have halves : isHalf (codeOf first) = true ∧ isHalf (codeOf second) = true := by
    simp only [isHalf, Bool.and_eq_true, decide_eq_true_eq]
    omega
  have dropped : (unitEscape (codeOf second) ++ beyond).drop 6 = beyond :=
    List.drop_left' (by simp [unitEscape])
  rw [escapeChar_of_isHalf halves.1, escapeChar_of_isHalf halves.2,
    readStringFrom_unitEscape (by omega), leadingUnit?_unitEscape (by omega)]
  dsimp only
  rw [if_pos ⟨high, low⟩, dropped]

/-- A character takes at least one character to stand for it. -/
theorem length_escapeChar_pos (c : Char) : 0 < (escapeChar c).length := by
  have stands := standsAs_escapeChar c
  generalize escapeChar c = text at stands
  cases stands <;> simp [unitEscape]

/-- The characters of a string are read back, its halves joined. -/
theorem readStringFrom_escaped (text rest before : List Char)
    (enough : (text.flatMap escapeChar).length < fuel) :
    readStringFrom before fuel (text.flatMap escapeChar ++ '"' :: rest) =
      some (String.ofList (before.reverse ++ rejoin text), rest) := by
  -- Each character takes a step and has at least one character to stand for it.
  induction text using rejoin.induct generalizing fuel before with
  | case1 =>
    obtain ⟨fuel, rfl⟩ := Nat.exists_eq_succ_of_ne_zero (Nat.ne_of_gt enough)
    exact (readStringFrom_quote before rest).trans (by rw [rejoin, List.append_nil])
  | case2 c =>
    rw [List.flatMap_singleton] at enough ⊢
    have filled := length_escapeChar_pos c
    obtain ⟨fuel, rfl⟩ : ∃ less, fuel = less + 2 := ⟨fuel - 2, by omega⟩
    have apart : ∀ low, leadingUnit? ('"' :: rest) = some low → ¬(IsHigh (codeOf c) ∧ IsLow low) := by
      rintro low ⟨⟩
    rw [(standsAs_escapeChar c).readStringFrom_eq apart, readStringFrom_quote, rejoin,
      List.reverse_cons]
  | case3 first second others pair ih =>
    rw [List.flatMap_cons, List.flatMap_cons, List.length_append, List.length_append] at enough
    have filled := length_escapeChar_pos first
    obtain ⟨fuel, rfl⟩ : ∃ less, fuel = less + 1 := ⟨fuel - 1, by omega⟩
    rw [List.flatMap_cons, List.flatMap_cons, List.append_assoc, List.append_assoc,
      readStringFrom_pair pair.1 pair.2, ih _ (by omega), rejoin, if_pos pair, List.reverse_cons,
      List.append_assoc, List.singleton_append]
  | case4 first second others single ih =>
    rw [List.flatMap_cons, List.length_append] at enough
    have filled := length_escapeChar_pos first
    obtain ⟨fuel, rfl⟩ : ∃ less, fuel = less + 1 := ⟨fuel - 1, by omega⟩
    have apart : ∀ low, leadingUnit? ((second :: others).flatMap escapeChar ++ '"' :: rest) = some low →
        ¬(IsHigh (codeOf first) ∧ IsLow low) := by
      rintro low starts ⟨high, isLow⟩
      rw [List.flatMap_cons, List.append_assoc] at starts
      have same := (standsAs_escapeChar second).codeOf_eq_of_isLow _ starts isLow
      exact single ⟨high, same ▸ isLow⟩
    rw [List.flatMap_cons, List.append_assoc, (standsAs_escapeChar first).readStringFrom_eq apart,
      ih _ (by omega), rejoin, if_neg single, List.reverse_cons, List.append_assoc,
      List.singleton_append]

/-- A written string is read back, its halves joined. -/
theorem readString_writeString (value : String) (rest : List Char) :
    readString (value.toList.flatMap escapeChar ++ '"' :: rest) = some (rejoined value, rest) :=
  readStringFrom_escaped _ rest [] (by rw [List.length_append]; omega)

end NegativeCompile.Json

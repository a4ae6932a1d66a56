import NegativeCompile.Text.Utf8

/-! # Encoding and decoding

The bytes of a text are those of its characters, one after another (`encodeUtf8_eq`), and reading the
bytes of a character gives that character, whatever comes after them (`utf8Step_utf8EncodeChar`). So
what is encoded is decoded again (`decodeUtf8_encodeUtf8`). -/

namespace NegativeCompile.Text

variable {byte second third fourth : UInt8} {rest : List UInt8} {n : Nat}

/-! ## Bytes -/

/-- A small number is that of a byte. -/
theorem toNat_ofNat_of_lt (small : n < 256) : (UInt8.ofNat n).toNat = n := by
  rw [UInt8.toNat_ofNat']
  exact Nat.mod_eq_of_lt small

/-- Six bits with the mark of a continuation make a byte that continues a character. -/
theorem isContinuation_ofNat (n : Nat) : isContinuation (UInt8.ofNat (n % 64 + 0x80)) = true := by
  have value : (UInt8.ofNat (n % 64 + 0x80)).toNat = n % 64 + 0x80 := toNat_ofNat_of_lt (by omega)
  simp only [isContinuation, Bool.and_eq_true, decide_eq_true_eq, UInt8.le_iff_toNat_le, value,
    UInt8.reduceToNat]
  omega

/-- The bits of such a byte are read back. -/
theorem lowBits_ofNat (n : Nat) : lowBits (UInt8.ofNat (n % 64 + 0x80)) = n % 64 := by
  rw [lowBits, toNat_ofNat_of_lt (by omega)]
  omega

/-- Which continuations may follow a byte: four bytes exclude some. -/
theorem mayFollow_iff (continued : isContinuation second = true) :
    mayFollow byte second = true ↔
      (byte.toNat = 0xe0 → 0xa0 ≤ second.toNat) ∧ (byte.toNat = 0xed → second.toNat < 0xa0) ∧
        (byte.toNat = 0xf0 → 0x90 ≤ second.toNat) ∧ (byte.toNat = 0xf4 → second.toNat < 0x90) := by
  simp only [mayFollow, continued, Bool.true_and, Bool.and_eq_true, Bool.not_eq_true',
    Bool.and_eq_false_iff, beq_eq_false_iff_ne, decide_eq_false_iff_not, UInt8.lt_iff_toNat_lt,
    UInt8.le_iff_toNat_le, UInt8.reduceToNat, ne_eq, ← UInt8.toNat_inj]
  omega

/-! ## Characters of one to four bytes -/

theorem utf8Step_one (small : byte.toNat < 0x80) :
    utf8Step byte rest = .char (Char.ofNat byte.toNat) 1 := by
  have ascii : byte < 0x80 := UInt8.lt_iff_toNat_lt.mpr small
  simp only [utf8Step, if_pos ascii]

theorem utf8Step_two (low : 0xc2 ≤ byte.toNat) (high : byte.toNat < 0xe0)
    (continued : isContinuation second = true) :
    utf8Step byte (second :: rest) =
      .char (Char.ofNat (byte.toNat % 32 * 64 + lowBits second)) 2 := by
  simp only [utf8Step, UInt8.lt_iff_toNat_lt, UInt8.reduceToNat, continued, Bool.or_eq_true,
    decide_eq_true_eq, if_true]
  rw [if_neg (by omega), if_neg (by omega), if_pos (by omega)]

theorem utf8Step_three (low : 0xe0 ≤ byte.toNat) (high : byte.toNat < 0xf0)
    (follows : mayFollow byte second = true) (continued : isContinuation third = true) :
    utf8Step byte (second :: third :: rest) =
      .char (Char.ofNat (byte.toNat % 16 * 4096 + lowBits second * 64 + lowBits third)) 3 := by
  simp only [utf8Step, UInt8.lt_iff_toNat_lt, UInt8.reduceToNat, continued, follows, Bool.or_eq_true,
    decide_eq_true_eq, if_true, Bool.not_true, Bool.false_eq_true, if_false]
  rw [if_neg (by omega), if_neg (by omega), if_neg (by omega), if_pos (by omega)]

theorem utf8Step_four (low : 0xf0 ≤ byte.toNat) (high : byte.toNat < 0xf5)
    (follows : mayFollow byte second = true) (continued : isContinuation third = true)
    (ended : isContinuation fourth = true) :
    utf8Step byte (second :: third :: fourth :: rest) =
      .char (Char.ofNat (byte.toNat % 8 * 262144 + lowBits second * 4096 + lowBits third * 64 +
        lowBits fourth)) 4 := by
  simp only [utf8Step, UInt8.lt_iff_toNat_lt, UInt8.reduceToNat, continued, follows, ended,
    Bool.or_eq_true, decide_eq_true_eq, if_true, Bool.not_true, Bool.false_eq_true, if_false]
  rw [if_neg (by omega), if_neg (by omega), if_neg (by omega), if_neg (by omega)]

/-- Reading the bytes of a character gives the character back, whatever comes after them. -/
theorem utf8Step_utf8EncodeChar (c : Char) (rest : List UInt8) :
    ∃ first more, String.utf8EncodeChar c = first :: more ∧
      utf8Step first (more ++ rest) = .char c (more.length + 1) := by
  have range := c.valid
  have value : Char.ofNat c.val.toNat = c := Char.ofNat_toNat c
  simp only [UInt32.isValidChar, Nat.isValidChar] at range
  unfold String.utf8EncodeChar
  generalize c.val.toNat = v at range value
  -- One case for each number of bytes; which numbers have it bounds the first byte.
  simp only
  split
  next one =>
    have byte : (UInt8.ofNat v).toNat = v := toNat_ofNat_of_lt (by omega)
    exact ⟨_, _, rfl, by rw [utf8Step_one (by omega), byte, value]; rfl⟩
  split
  next two =>
    have byte : (UInt8.ofNat (v / 64 % 32 + 0xc0)).toNat = v / 64 % 32 + 0xc0 :=
      toNat_ofNat_of_lt (by omega)
    have whole : (v / 64 % 32 + 0xc0) % 32 * 64 + v % 64 = v := by omega
    refine ⟨_, _, rfl, ?_⟩
    rw [List.cons_append, utf8Step_two (by omega) (by omega) (isContinuation_ofNat v), byte,
      lowBits_ofNat, whole, value]
    rfl
  split
  next three =>
    have byte : (UInt8.ofNat (v / 4096 % 16 + 0xe0)).toNat = v / 4096 % 16 + 0xe0 :=
      toNat_ofNat_of_lt (by omega)
    have next : (UInt8.ofNat (v / 64 % 64 + 0x80)).toNat = v / 64 % 64 + 0x80 :=
      toNat_ofNat_of_lt (by omega)
    have whole : (v / 4096 % 16 + 0xe0) % 16 * 4096 + v / 64 % 64 * 64 + v % 64 = v := by omega
    refine ⟨_, _, rfl, ?_⟩
    have follows : mayFollow (UInt8.ofNat (v / 4096 % 16 + 0xe0))
        (UInt8.ofNat (v / 64 % 64 + 0x80)) = true :=
      (mayFollow_iff (isContinuation_ofNat _)).mpr (by omega)
    rw [List.cons_append, List.cons_append,
      utf8Step_three (by omega) (by omega) follows (isContinuation_ofNat v), byte, lowBits_ofNat,
      lowBits_ofNat, whole, value]
    rfl
  next four =>
    have byte : (UInt8.ofNat (v / 262144 % 8 + 0xf0)).toNat = v / 262144 % 8 + 0xf0 :=
      toNat_ofNat_of_lt (by omega)
    have next : (UInt8.ofNat (v / 4096 % 64 + 0x80)).toNat = v / 4096 % 64 + 0x80 :=
      toNat_ofNat_of_lt (by omega)
    have whole : (v / 262144 % 8 + 0xf0) % 8 * 262144 + v / 4096 % 64 * 4096 + v / 64 % 64 * 64 +
        v % 64 = v := by omega
    refine ⟨_, _, rfl, ?_⟩
    simp only [List.cons_append]
    have follows : mayFollow (UInt8.ofNat (v / 262144 % 8 + 0xf0))
        (UInt8.ofNat (v / 4096 % 64 + 0x80)) = true :=
      (mayFollow_iff (isContinuation_ofNat _)).mpr (by omega)
    rw [utf8Step_four (by omega) (by omega) follows (isContinuation_ofNat (v / 64))
      (isContinuation_ofNat v), byte, lowBits_ofNat, lowBits_ofNat, lowBits_ofNat, whole, value]
    rfl

/-! ## Texts -/

/-- The loop that lists the bytes of an array adds those from its index on. -/
theorem toList_loop (bytes : ByteArray) (index : Nat) (listed : List UInt8) :
    ByteArray.toList.loop bytes index listed = listed.reverse ++ bytes.data.toList.drop index := by
  fun_induction ByteArray.toList.loop bytes index listed with
  | case1 index listed more ih =>
    have inside : index < bytes.data.toList.length := Array.length_toList ▸ more
    have read : bytes.get! index = bytes.data.toList[index] := by
      rw [ByteArray.get!]
      simp [getElem!_pos bytes.data index (by simpa using inside)]
    rw [ih, List.drop_eq_getElem_cons inside, List.reverse_cons, List.append_assoc, read]
    rfl
  | case2 index listed done =>
    have outside : bytes.data.toList.length ≤ index := by
      rw [Array.length_toList]
      exact Nat.le_of_not_lt done
    rw [List.drop_eq_nil_of_le outside, List.append_nil]

/-- The bytes of a text, character by character. -/
theorem encodeUtf8_eq (text : String) :
    encodeUtf8 text = text.toList.flatMap String.utf8EncodeChar := by
  rw [encodeUtf8, String.toUTF8, ← String.utf8Encode_toList, ByteArray.toList, toList_loop,
    List.utf8Encode, List.toList_data_toByteArray]
  rfl

/-- Reading the bytes of characters adds those characters to the ones that are read already. -/
theorem decodeFrom_flatMap (position : Nat) (read : List Char) (chars : List Char) :
    decodeFrom position read (chars.flatMap String.utf8EncodeChar) =
      .ok (read.reverse ++ chars) := by
  induction chars generalizing position read with
  | nil => simp [decodeFrom]
  | cons c others ih =>
    obtain ⟨first, more, encoded, stepped⟩ :=
      utf8Step_utf8EncodeChar c (others.flatMap String.utf8EncodeChar)
    rw [List.flatMap_cons, encoded, List.cons_append, decodeFrom, stepped]
    simp only [Nat.add_sub_cancel, List.drop_left, ih, List.reverse_cons, List.append_assoc,
      List.singleton_append]

/-- What is encoded is decoded again. -/
theorem decodeUtf8_encodeUtf8 (text : String) : decodeUtf8 (encodeUtf8 text) = .ok text := by
  rw [decodeUtf8, encodeUtf8_eq, decodeFrom_flatMap]
  simp [Except.map]

end NegativeCompile.Text

import NegativeCompile.Proofs.Number.Nearest

/-! # Shortest digits

The digits that are found for a size lie in its interval (`Binary64.holds_shortest`), so that they are
rounded to it: either they were tested, or the last power of ten that is tried is so fine that one of
the multiples next to the size must lie in the interval. -/

namespace NegativeCompile.Number.Binary64

variable {units significand spare fuel digits : Nat} {exponent finer guess : Int}
variable {interval : RoundingInterval}

/-! ## Powers of ten -/

/-- How often a multiple of a power of ten is taken to avoid fractions. -/
def scaleOf (exponent : Int) : Nat := 10 ^ (-exponent).toNat

/-- A power of ten in units, as often as that. -/
def stepOf (exponent : Int) : Nat := 10 ^ exponent.toNat * unitsPerOne

theorem scaleOf_pos (exponent : Int) : 0 < scaleOf exponent := Nat.pow_pos (by decide)

theorem stepOf_pos (exponent : Int) : 0 < stepOf exponent :=
  Nat.mul_pos (Nat.pow_pos (by decide)) unitsPerOne_pos

/-- Whole powers of ten need no scale. -/
theorem scaleOf_of_nonneg (whole : 0 ≤ exponent) : scaleOf exponent = 1 := by
  rw [scaleOf, show (-exponent).toNat = 0 by omega, Nat.pow_zero]

/-- Scaled powers of ten are one. -/
theorem stepOf_of_nonpos (fraction : exponent ≤ 0) : stepOf exponent = unitsPerOne := by
  rw [stepOf, show exponent.toNat = 0 by omega, Nat.pow_zero, Nat.one_mul]

/-- The multiples next to a size are found by dividing. -/
theorem neighboursAt_eq (units : Nat) (exponent : Int) :
    neighboursAt units exponent = (units * scaleOf exponent / stepOf exponent,
      units * scaleOf exponent / stepOf exponent + 1, scaleOf exponent, stepOf exponent) := by
  unfold neighboursAt
  dsimp only
  split
  next whole =>
    rw [scaleOf_of_nonneg whole]
    rfl
  next fraction =>
    rw [stepOf_of_nonpos (by omega)]
    rfl

/-- A number of units is at least a power of ten. -/
def Reaches (units : Nat) (exponent : Int) : Prop := stepOf exponent ≤ units * scaleOf exponent

/-- A power of ten that is reached is many times as large as a finer one. -/
theorem Reaches.mul_stepOf_le (reaches : Reaches units exponent) (fine : finer ≤ exponent) :
    10 ^ (exponent - finer).toNat * stepOf finer ≤ units * scaleOf finer := by
  have powers : 10 ^ (exponent - finer).toNat * 10 ^ finer.toNat * scaleOf exponent =
      10 ^ exponent.toNat * scaleOf finer := by
    rw [scaleOf, scaleOf, ← Nat.pow_add, ← Nat.pow_add, ← Nat.pow_add]
    congr 1
    omega
  refine Nat.le_of_mul_le_mul_right ?_ (scaleOf_pos exponent)
  rw [Reaches, stepOf] at reaches
  calc 10 ^ (exponent - finer).toNat * stepOf finer * scaleOf exponent
      = 10 ^ (exponent - finer).toNat * 10 ^ finer.toNat * scaleOf exponent * unitsPerOne := by
        rw [stepOf]
        ring
    _ = 10 ^ exponent.toNat * unitsPerOne * scaleOf finer := by
        rw [powers]
        ring
    _ ≤ units * scaleOf exponent * scaleOf finer := Nat.mul_le_mul_right _ reaches
    _ = units * scaleOf finer * scaleOf exponent := by ring

/-- How the search for the leading digit tells whether a power of ten is reached. -/
theorem reaches_iff (units : Nat) (exponent : Int) :
    Reaches units exponent ↔
      (if 0 ≤ exponent then decide (Nat.pow 10 exponent.toNat * unitsPerOne ≤ units)
        else decide (unitsPerOne ≤ units * Nat.pow 10 (-exponent).toNat)) = true := by
  unfold Reaches
  split
  next whole =>
    rw [scaleOf_of_nonneg whole, Nat.mul_one, decide_eq_true_eq]
    rfl
  next fraction =>
    rw [stepOf_of_nonpos (by omega), decide_eq_true_eq]
    rfl

/-- The search for the leading digit ends at a power of ten that is reached, if one among those that are
tried is. -/
theorem reaches_leadingExponentFrom (reaches : Reaches units (guess - fuel)) :
    Reaches units (leadingExponentFrom units fuel guess) := by
  induction fuel generalizing guess with
  | zero => simpa [leadingExponentFrom] using reaches
  | succ fuel ih =>
    rw [leadingExponentFrom]
    by_cases reached : Reaches units guess
    · rw [if_pos ((reaches_iff units guess).mp reached)]
      exact reached
    · rw [if_neg fun found => reached ((reaches_iff units guess).mpr found)]
      refine ih ?_
      rwa [show guess - 1 - (fuel : Int) = guess - (fuel + 1 : Nat) by omega]

/-- The last power of ten that is tried for the leading digit, by the number of bits. -/
def lastGuess (bits : Nat) : Int := (((bits : Int) - unitBits) + 1) * 30103 / 100000 + 2 - 8

/-- It is reached by all numbers of as many bits. -/
theorem reaches_lastGuess : ∀ bits < 2098, Reaches (2 ^ bits) (lastGuess bits) := by
  have each : ∀ bits < 2098, stepOf (lastGuess bits) ≤ 2 ^ bits * scaleOf (lastGuess bits) := by
    decide +kernel
  exact each

/-- The power of ten of the leading digit is reached. -/
theorem reaches_leadingExponent (size : IsSize units) (some : 0 < units) :
    Reaches units (leadingExponent units) := by
  have bits : units.log2 < 1024 + unitBits := by
    have small := size.small
    unfold unitLimit at small
    -- The number of bits is made a variable, so that the power is not computed.
    generalize 1024 + unitBits = bits at small ⊢
    exact (Nat.log2_lt some.ne').mpr small
  have low : 2 ^ units.log2 ≤ units := Nat.log2_self_le some.ne'
  have reached := reaches_lastGuess units.log2 bits
  have more : Reaches units (lastGuess units.log2) :=
    Nat.le_trans reached (Nat.mul_le_mul_right _ low)
  exact reaches_leadingExponentFrom more

/-! ## Digits that read back -/

/-- What lies strictly between the ends of an interval lies in it. -/
theorem RoundingInterval.holds_of_between {value scale : Nat} (low : interval.low * scale < value)
    (high : value < interval.high * scale) : interval.holds value scale = true := by
  unfold RoundingInterval.holds
  split
  · simp [low.le, high.le]
  · simp [low, high]

/-- Digits that are tested and found lie in the interval. -/
theorem holds_of_readingBack? (found : readingBack? interval units exponent = some digits) :
    interval.holds (4 * digits * stepOf exponent) (scaleOf exponent) = true := by
  unfold readingBack? at found
  rw [neighboursAt_eq] at found
  dsimp only at found
  split at found
  next both =>
    rw [Bool.and_eq_true] at both
    split at found
    · cases found
      exact both.1
    · cases found
      exact both.2
  · split at found
    next below =>
      cases found
      exact below
    · split at found
      next above =>
        cases found
        exact above
      · cases found

/-- Digits are found where one of the multiples next to the size lies in the interval. -/
theorem exists_readingBack?
    (near : interval.holds (4 * (units * scaleOf exponent / stepOf exponent) * stepOf exponent)
        (scaleOf exponent) = true ∨
      interval.holds (4 * (units * scaleOf exponent / stepOf exponent + 1) * stepOf exponent)
        (scaleOf exponent) = true) :
    (readingBack? interval units exponent).isSome = true := by
  unfold readingBack?
  rw [neighboursAt_eq]
  dsimp only
  split
  · split <;> rfl
  · split
    · rfl
    next outside =>
      rw [if_pos (near.resolve_left outside)]
      rfl

/-- The size lies in the middle of its interval, and so do all quotients that are closer to it than
half of the last significant bit, or than a quarter of it below the least size with as many spare
bits. -/
theorem IsNormal.holds_of_close (normal : IsNormal significand spare) {value scale : Nat}
    (some : 0 < significand) (below : 4 * (significand * (2 ^ spare * scale)) < value +
      (if significand = 2 ^ 52 ∧ spare ≠ 0 then 2 ^ spare * scale else 2 * (2 ^ spare * scale)))
    (above : value < 4 * (significand * (2 ^ spare * scale)) + 2 * (2 ^ spare * scale)) :
    (roundingInterval (significand * 2 ^ spare)).holds value scale = true := by
  have more : 2 ^ spare * scale ≤ significand * (2 ^ spare * scale) := Nat.le_mul_of_pos_left _ some
  refine RoundingInterval.holds_of_between ?_ ?_
  all_goals rw [normal.roundingInterval_eq]
  · rw [Nat.sub_mul, show 4 * (significand * 2 ^ spare) * scale =
      4 * (significand * (2 ^ spare * scale)) by ring]
    split at below
    next least =>
      rw [if_pos least]
      omega
    next other =>
      rw [if_neg other, Nat.mul_assoc]
      omega
  · calc value < 4 * (significand * (2 ^ spare * scale)) + 2 * (2 ^ spare * scale) := above
      _ = (4 * (significand * 2 ^ spare) + 2 * 2 ^ spare) * scale := by ring

/-- One of the multiples of a power of ten next to a size lies in its interval if the size is at least
as large as its first seventeen digits can be. -/
theorem IsNormal.exists_readingBack? (normal : IsNormal significand spare)
    (fine : 10 ^ 16 * stepOf exponent ≤ significand * 2 ^ spare * scaleOf exponent) :
    (readingBack? (roundingInterval (significand * 2 ^ spare)) (significand * 2 ^ spare)
      exponent).isSome = true := by
  have small := normal.small
  have step := stepOf_pos exponent
  have parts : significand * 2 ^ spare * scaleOf exponent =
      significand * (2 ^ spare * scaleOf exponent) := Nat.mul_assoc _ _ _
  rw [parts] at fine
  -- The power of ten is finer than the last significant bit, as seventeen digits tell 53 bits apart.
  have finer : stepOf exponent < 2 ^ spare * scaleOf exponent := by
    have product := Nat.mul_le_mul_right (2 ^ spare * scaleOf exponent) small.le
    omega
  have positive : 0 < significand := by
    by_contra none
    rw [Nat.eq_zero_of_not_pos none, Nat.zero_mul] at fine
    omega
  have least : significand = 2 ^ 52 ∧ spare ≠ 0 →
      2 * stepOf exponent < 2 ^ spare * scaleOf exponent := by
    rintro ⟨rfl, -⟩
    omega
  have split := Nat.div_add_mod (significand * 2 ^ spare * scaleOf exponent) (stepOf exponent)
  have rest := Nat.mod_lt (significand * 2 ^ spare * scaleOf exponent) step
  refine Binary64.exists_readingBack? ?_
  rw [parts] at split rest ⊢
  generalize significand * (2 ^ spare * scaleOf exponent) / stepOf exponent = floor at split ⊢
  generalize significand * (2 ^ spare * scaleOf exponent) % stepOf exponent = remainder at split rest
  rw [Nat.mul_assoc, Nat.mul_assoc, Nat.add_mul floor, Nat.mul_comm floor]
  -- The nearer of the two multiples is no further than half of the power of ten.
  rcases Nat.le_total (2 * remainder) (stepOf exponent) with lower | upper
  · refine .inl (normal.holds_of_close positive ?_ ?_)
    · split
      next smallest => have := least smallest; omega
      next => omega
    · omega
  · refine .inr (normal.holds_of_close positive ?_ ?_)
    · split <;> omega
    · omega

/-- The search for digits ends with some in the interval, if there are any among those that are
tried. -/
theorem holds_shortestFrom {tried : Nat} (within : tried < fuel)
    (found : (readingBack? interval units (exponent - tried)).isSome = true) :
    interval.holds
      (4 * (shortestFrom interval units fuel exponent).digits *
        stepOf (shortestFrom interval units fuel exponent).exponent)
      (scaleOf (shortestFrom interval units fuel exponent).exponent) = true := by
  induction fuel generalizing exponent tried with
  | zero => exact absurd within (Nat.not_lt_zero _)
  | succ fuel ih =>
    rw [shortestFrom]
    split
    next digits here => exact holds_of_readingBack? here
    next missing =>
      -- Nothing was found at the first power of ten, so it is one of the others.
      cases tried with
      | zero =>
        rw [Int.natCast_zero, Int.sub_zero, missing] at found
        cases found
      | succ tried =>
        refine ih (Nat.lt_of_succ_lt_succ within) ?_
        rwa [show exponent - 1 - (tried : Int) = exponent - (tried + 1 : Nat) by omega]

/-- The shortest digits of a size lie in its interval. -/
theorem holds_shortest (size : IsSize units) (some : 0 < units) :
    (roundingInterval units).holds (4 * (shortest units).digits * stepOf (shortest units).exponent)
      (scaleOf (shortest units).exponent) = true := by
  have reached := reaches_leadingExponent size some
  have fine := reached.mul_stepOf_le (show leadingExponent units - (16 : Nat) ≤ _ by omega)
  rw [show (leadingExponent units - (leadingExponent units - (16 : Nat))).toNat = 16 by omega] at fine
  obtain ⟨significand, spare, rfl, normal⟩ := size.exists_isNormal
  exact holds_shortestFrom (by decide) (normal.exists_readingBack? fine)

/-- The interval of a size that is not zero has a lower end above zero. -/
theorem IsSize.low_pos (size : IsSize units) (some : 0 < units) :
    0 < (roundingInterval units).low := by
  obtain ⟨significand, spare, rfl, normal⟩ := size.exists_isNormal
  have gap : 0 < 2 ^ spare := Nat.two_pow_pos spare
  have more : 2 ^ spare ≤ significand * 2 ^ spare :=
    Nat.le_mul_of_pos_left _ (Nat.pos_of_mul_pos_right some)
  rw [normal.roundingInterval_eq]
  dsimp only
  split <;> omega

/-- The interval of a size does not go beyond half as much again, in quarter units. -/
theorem IsSize.high_le (size : IsSize units) (some : 0 < units) :
    (roundingInterval units).high ≤ 6 * units := by
  obtain ⟨significand, spare, rfl, normal⟩ := size.exists_isNormal
  have more : 2 ^ spare ≤ significand * 2 ^ spare :=
    Nat.le_mul_of_pos_left _ (Nat.pos_of_mul_pos_right some)
  rw [normal.roundingInterval_eq]
  dsimp only
  omega

/-- What lies in the interval of a size is not zero. -/
theorem IsSize.pos_of_holds (size : IsSize units) (some : 0 < units) {value scale : Nat}
    (filled : 0 < scale) (holds : (roundingInterval units).holds value scale = true) : 0 < value := by
  obtain ⟨low, -, -⟩ := RoundingInterval.between_of_holds holds
  exact Nat.lt_of_lt_of_le (Nat.mul_pos (size.low_pos some) filled) low

end NegativeCompile.Number.Binary64

import Mathlib.Tactic.Ring
import NegativeCompile.Number.Binary64.Written

/-! # Nearest numbers

A finite number of the format has a size with at most 53 significant bits (`Binary64.IsSize`). What
rounding gives has one (`Binary64.isSize_rounded`), and a quotient that lies in the interval of such a
size is rounded to it (`Binary64.ofRatio_eq_finite`). -/

namespace NegativeCompile.Number

variable {numerator denominator quotient units significand spare scaled : Nat}

/-! ## Rounding to whole numbers -/

/-- A number that is no further than one half from a quotient is what the quotient is rounded to, if it
is even where the quotient is in the middle. -/
theorem roundHalfEven_eq (filled : 0 < denominator)
    (low : 2 * (quotient * denominator) ≤ 2 * numerator + denominator)
    (high : 2 * numerator ≤ 2 * (quotient * denominator) + denominator)
    (even : 2 * (quotient * denominator) = 2 * numerator + denominator ∨
      2 * numerator = 2 * (quotient * denominator) + denominator → quotient % 2 = 0) :
    roundHalfEven numerator denominator = quotient := by
  have split := Nat.div_add_mod numerator denominator
  have rest := Nat.mod_lt numerator filled
  unfold roundHalfEven
  dsimp only
  generalize numerator / denominator = floor at split ⊢
  generalize numerator % denominator = remainder at split rest ⊢
  rw [Nat.mul_comm] at split
  subst split
  -- The quotient is cut off to the number itself or to the one before it.
  have near : floor = quotient ∨ floor + 1 = quotient := by
    have below : floor < quotient + 1 := by
      by_contra beyond
      have product := Nat.mul_le_mul_right denominator (Nat.not_lt.mp beyond)
      rw [Nat.add_mul] at product
      omega
    have above : quotient < floor + 2 := by
      by_contra beyond
      have product := Nat.mul_le_mul_right denominator (Nat.not_lt.mp beyond)
      rw [Nat.add_mul] at product
      omega
    omega
  rcases near with rfl | rfl
  · rw [if_pos]
    simp only [Bool.or_eq_true, decide_eq_true_eq, Bool.and_eq_true]
    omega
  · rw [Nat.add_mul] at low high even
    rw [if_neg]
    simp only [Bool.or_eq_true, decide_eq_true_eq, Bool.and_eq_true]
    omega

/-- A quotient is not rounded beyond a whole number that it does not exceed. -/
theorem roundHalfEven_le (filled : 0 < denominator)
    (bounded : numerator ≤ quotient * denominator) :
    roundHalfEven numerator denominator ≤ quotient := by
  have split := Nat.div_add_mod numerator denominator
  unfold roundHalfEven
  dsimp only
  generalize numerator / denominator = floor at split ⊢
  generalize numerator % denominator = remainder at split ⊢
  rw [Nat.mul_comm] at split
  subst split
  by_cases small : floor < quotient
  · split <;> omega
  · -- Nothing is left to be rounded.
    have product := Nat.mul_le_mul_right denominator (Nat.not_lt.mp small)
    have exact : remainder = 0 := by omega
    have same : floor ≤ quotient := by
      subst exact
      exact Nat.le_of_mul_le_mul_right (by simpa using bounded) filled
    rw [exact, if_pos (by simp [filled])]
    exact same

namespace Binary64

/-! ## Sizes -/

/-- There are units in one. -/
theorem unitsPerOne_pos : 0 < unitsPerOne := by decide +kernel

/-- A number of units that the format has: it is small enough, and no more than 53 bits of it are
significant. -/
structure IsSize (units : Nat) : Prop where
  /-- It is no size beyond the finite numbers. -/
  small : units < unitLimit
  /-- The bits after the significant ones are zero. -/
  exact : 2 ^ spareBits units ∣ units

/-- A number is finite and of a size that the format has. -/
def IsProper (number : Binary64) : Prop := ∃ negative units, number = .finite negative units ∧ IsSize units

/-- No bits are spare in a number of at most 53 bits. -/
theorem spareBits_eq_zero (small : units < 2 ^ 53) : spareBits units = 0 := by
  rcases Nat.eq_zero_or_pos units with rfl | positive
  · rfl
  · have := (Nat.log2_lt positive.ne').mpr small
    rw [spareBits]
    omega

/-- How many bits are spare in a number of 53 bits and more. -/
theorem spareBits_eq (low : 2 ^ (52 + spare) ≤ units) (high : units < 2 ^ (53 + spare)) :
    spareBits units = spare := by
  have positive : units ≠ 0 := by
    rintro rfl
    exact absurd low (Nat.not_le.mpr (Nat.two_pow_pos _))
  have bits : units.log2 = 52 + spare := by
    refine (Nat.log2_eq_iff positive).mpr ⟨low, ?_⟩
    rwa [show 52 + spare + 1 = 53 + spare by omega]
  rw [spareBits, bits]
  omega

/-- The significant bits of a number. -/
theorem lt_of_spareBits (units : Nat) : units < 2 ^ (53 + spareBits units) := by
  refine Nat.lt_of_lt_of_le Nat.lt_log2_self (Nat.pow_le_pow_right (by decide) ?_)
  rw [spareBits]
  omega

/-- At most 53 significant bits stay so when zeros are put behind them. -/
theorem pow_spareBits_dvd (bounded : significand ≤ 2 ^ 53) (spare : Nat) :
    2 ^ spareBits (significand * 2 ^ spare) ∣ significand * 2 ^ spare := by
  rcases Nat.lt_or_eq_of_le bounded with small | rfl
  · refine Dvd.dvd.mul_left (Nat.pow_dvd_pow 2 ?_) _
    rcases Nat.eq_zero_or_pos (significand * 2 ^ spare) with zero | positive
    · rw [zero]
      exact Nat.zero_le _
    · have product : significand * 2 ^ spare < 2 ^ (53 + spare) := by
        rw [Nat.pow_add]
        exact Nat.mul_lt_mul_of_pos_right small (Nat.two_pow_pos spare)
      have := (Nat.log2_lt positive.ne').mpr product
      rw [spareBits]
      omega
  · rw [← Nat.pow_add]
    refine Nat.pow_dvd_pow 2 ?_
    rw [spareBits, Nat.log2_two_pow]
    omega

/-- What a quotient is rounded to has at most 53 significant bits. -/
theorem isSize_rounded (filled : 0 < denominator)
    (small : roundHalfEven numerator (denominator * 2 ^ spareBits (numerator / denominator)) *
      2 ^ spareBits (numerator / denominator) < unitLimit) :
    IsSize (roundHalfEven numerator (denominator * 2 ^ spareBits (numerator / denominator)) *
      2 ^ spareBits (numerator / denominator)) := by
  refine ⟨small, pow_spareBits_dvd (roundHalfEven_le ?_ ?_) _⟩
  · exact Nat.mul_pos filled (Nat.two_pow_pos _)
  · have bits := lt_of_spareBits (numerator / denominator)
    rw [Nat.div_lt_iff_lt_mul filled, Nat.pow_add] at bits
    calc numerator ≤ 2 ^ 53 * 2 ^ spareBits (numerator / denominator) * denominator := bits.le
      _ = 2 ^ 53 * (denominator * 2 ^ spareBits (numerator / denominator)) := by ring

/-- What is rounded is a number that the format has, unless it is infinite. -/
theorem isProper_ofUnits {value : Int} {negativeZero : Bool} (filled : 0 < denominator)
    (finite : (ofUnits value denominator negativeZero).isFinite = true) :
    (ofUnits value denominator negativeZero).IsProper := by
  unfold ofUnits at finite ⊢
  simp only [Nat.pow_eq] at finite ⊢
  split at finite
  · cases finite
  next small =>
    rw [if_neg small]
    exact ⟨_, _, rfl, isSize_rounded filled (Nat.not_le.mp small)⟩

/-! ## Significant bits -/

/-- Significant bits with a number of spare bits behind them: bits are spare only if there are 53
significant ones. -/
structure IsNormal (significand spare : Nat) : Prop where
  /-- There are no more than 53 significant bits. -/
  small : significand < 2 ^ 53
  /-- There are 53 significant bits if others are spare. -/
  full : spare ≠ 0 → 2 ^ 52 ≤ significand

/-- As many bits are spare as were put behind the significant ones. -/
theorem IsNormal.spareBits_eq (normal : IsNormal significand spare) :
    spareBits (significand * 2 ^ spare) = spare := by
  rcases Nat.eq_zero_or_pos spare with rfl | some
  · exact spareBits_eq_zero (by simpa using normal.small)
  · refine Binary64.spareBits_eq ?_ ?_
    · rw [Nat.pow_add]
      exact Nat.mul_le_mul_right _ (normal.full some.ne')
    · rw [Nat.pow_add]
      exact Nat.mul_lt_mul_of_pos_right normal.small (Nat.two_pow_pos spare)

/-- A size that the format has is made of significant bits and spare ones. -/
theorem IsSize.exists_isNormal (size : IsSize units) :
    ∃ significand spare, units = significand * 2 ^ spare ∧ IsNormal significand spare := by
  obtain ⟨significand, parts⟩ := size.exact
  have high := lt_of_spareBits units
  have low : spareBits units ≠ 0 → 2 ^ (52 + spareBits units) ≤ units := by
    intro some
    have positive : units ≠ 0 := by
      rintro rfl
      exact some rfl
    have bits : 52 + spareBits units = units.log2 := by
      rw [spareBits] at some ⊢
      omega
    rw [bits]
    exact Nat.log2_self_le positive
  generalize spareBits units = spare at parts high low
  subst parts
  rw [Nat.mul_comm, Nat.pow_add] at high low
  exact ⟨significand, spare, Nat.mul_comm _ _, Nat.lt_of_mul_lt_mul_right high,
    fun some => Nat.le_of_mul_le_mul_right (low some) (Nat.two_pow_pos spare)⟩

/-! ## Intervals -/

/-- What lies in an interval is between its ends, and is an end only of a closed interval. -/
theorem RoundingInterval.between_of_holds {interval : RoundingInterval} {value scale : Nat}
    (holds : interval.holds value scale = true) :
    interval.low * scale ≤ value ∧ value ≤ interval.high * scale ∧
      (interval.low * scale = value ∨ value = interval.high * scale → interval.closed = true) := by
  unfold RoundingInterval.holds at holds
  split at holds
  all_goals
    simp only [Bool.and_eq_true, decide_eq_true_eq] at holds
  next closed => exact ⟨holds.1, holds.2, fun _ => closed⟩
  next => exact ⟨holds.1.le, holds.2.le, by omega⟩

/-- The interval of a size, by its significant and its spare bits. -/
theorem IsNormal.roundingInterval_eq (normal : IsNormal significand spare) :
    roundingInterval (significand * 2 ^ spare) =
      ⟨4 * (significand * 2 ^ spare) -
        (if significand = 2 ^ 52 ∧ spare ≠ 0 then 2 ^ spare else 2 * 2 ^ spare),
        4 * (significand * 2 ^ spare) + 2 * 2 ^ spare, significand % 2 = 0⟩ := by
  unfold roundingInterval
  simp only [Nat.pow_eq, normal.spareBits_eq, Nat.mul_div_cancel _ (Nat.two_pow_pos spare),
    ← Bool.decide_and, decide_eq_true_eq]

/-- A quotient in the interval of a size is no further than half of the last significant bit from it,
and no further than a quarter below the least size with as many spare bits. In the middle between two
sizes the last significant bit is zero. -/
theorem IsNormal.bounds_of_holds (normal : IsNormal significand spare)
    (near : (roundingInterval (significand * 2 ^ spare)).holds (4 * scaled) denominator = true) :
    2 * (significand * (denominator * 2 ^ spare)) ≤ 2 * scaled + denominator * 2 ^ spare ∧
      2 * scaled ≤ 2 * (significand * (denominator * 2 ^ spare)) + denominator * 2 ^ spare ∧
      (significand = 2 ^ 52 ∧ spare ≠ 0 →
        4 * (significand * (denominator * 2 ^ spare)) ≤ 4 * scaled + denominator * 2 ^ spare) ∧
      (2 * (significand * (denominator * 2 ^ spare)) = 2 * scaled + denominator * 2 ^ spare ∨
        2 * scaled = 2 * (significand * (denominator * 2 ^ spare)) + denominator * 2 ^ spare →
          significand % 2 = 0) := by
  obtain ⟨low, high, ends⟩ := RoundingInterval.between_of_holds near
  rw [normal.roundingInterval_eq] at low high ends
  simp only [decide_eq_true_eq] at low high ends
  rw [Nat.sub_mul] at low ends
  rw [Nat.add_mul] at high ends
  have size : 4 * (significand * 2 ^ spare) * denominator =
      4 * (significand * (denominator * 2 ^ spare)) := by ring
  have gap : 2 * 2 ^ spare * denominator = 2 * (denominator * 2 ^ spare) := by ring
  have half : 2 ^ spare * denominator = denominator * 2 ^ spare := Nat.mul_comm _ _
  rw [size, gap] at high
  rw [size] at low
  rw [size, gap] at ends
  generalize significand * (denominator * 2 ^ spare) = product at *
  generalize denominator * 2 ^ spare = gap at *
  split at low
  next least =>
    rw [if_pos least, half] at ends
    rw [half] at low
    exact ⟨by omega, by omega, fun _ => by omega, fun middle => least.1 ▸ by decide⟩
  next other =>
    rw [if_neg other, gap] at ends
    rw [gap] at low
    exact ⟨by omega, by omega, fun least => absurd least other, fun middle => ends (by omega)⟩

/-! ## Nearest numbers -/

/-- The bits that are spare in a quotient. -/
theorem spareBits_div_eq (filled : 0 < denominator)
    (low : spare = 0 ∨ 2 ^ 52 * (denominator * 2 ^ spare) ≤ scaled)
    (high : scaled < 2 ^ 53 * (denominator * 2 ^ spare)) : spareBits (scaled / denominator) = spare := by
  have bits : scaled / denominator < 2 ^ (53 + spare) := by
    rw [Nat.div_lt_iff_lt_mul filled, Nat.pow_add]
    calc scaled < 2 ^ 53 * (denominator * 2 ^ spare) := high
      _ = 2 ^ 53 * 2 ^ spare * denominator := by ring
  rcases low with rfl | large
  · exact spareBits_eq_zero bits
  · refine Binary64.spareBits_eq ?_ bits
    rw [Nat.le_div_iff_mul_le filled, Nat.pow_add]
    calc 2 ^ 52 * 2 ^ spare * denominator = 2 ^ 52 * (denominator * 2 ^ spare) := by ring
      _ ≤ scaled := large

/-- A quotient in the interval of a size is rounded to the size. -/
theorem IsNormal.rounded_eq (normal : IsNormal significand spare) (filled : 0 < denominator)
    (near : (roundingInterval (significand * 2 ^ spare)).holds (4 * scaled) denominator = true) :
    roundHalfEven scaled (denominator * 2 ^ spareBits (scaled / denominator)) *
      2 ^ spareBits (scaled / denominator) = significand * 2 ^ spare := by
  obtain ⟨low, high, quarter, even⟩ := normal.bounds_of_holds near
  have small := normal.small
  have gap : 0 < denominator * 2 ^ spare := Nat.mul_pos filled (Nat.two_pow_pos spare)
  -- As many bits are spare in the quotient as in the size, unless the quotient has one bit less.
  have beyond : scaled < 2 ^ 53 * (denominator * 2 ^ spare) := by
    have product := Nat.mul_le_mul_right (denominator * 2 ^ spare) (Nat.succ_le_of_lt small)
    rw [Nat.succ_mul] at product
    omega
  by_cases same : spare = 0 ∨ 2 ^ 52 * (denominator * 2 ^ spare) ≤ scaled
  · rw [spareBits_div_eq filled same beyond, roundHalfEven_eq gap low high even]
  · obtain ⟨some, less⟩ := not_or.mp same
    -- The size is the least with as many spare bits: twice as many units of half the size.
    have least : significand = 2 ^ 52 := by
      by_contra other
      have more : 2 ^ 52 + 1 ≤ significand := by
        have full := normal.full some
        omega
      have product := Nat.mul_le_mul_right (denominator * 2 ^ spare) more
      rw [Nat.succ_mul] at product
      omega
    have close := quarter ⟨least, some⟩
    obtain ⟨fewer, rfl⟩ := Nat.exists_eq_succ_of_ne_zero some
    subst least
    have twice : denominator * 2 ^ (fewer + 1) = 2 * (denominator * 2 ^ fewer) := by ring
    rw [Nat.succ_eq_add_one, twice] at close less
    have spares : spareBits (scaled / denominator) = fewer :=
      spareBits_div_eq filled (.inr (by omega)) (by omega)
    have finer : 0 < denominator * 2 ^ fewer := Nat.mul_pos filled (Nat.two_pow_pos fewer)
    have whole : roundHalfEven scaled (denominator * 2 ^ fewer) = 2 ^ 53 :=
      roundHalfEven_eq finer (by omega) (by omega) fun _ => by decide
    rw [spares, whole, Nat.succ_eq_add_one]
    ring

/-- The number nearest to a quotient in the interval of a size has this size. -/
theorem ofRatio_eq_finite (size : IsSize units) (filled : 0 < denominator)
    (near : (roundingInterval units).holds (4 * (numerator * unitsPerOne)) denominator = true)
    (negative : Bool) : ofRatio negative numerator denominator = .finite negative units := by
  obtain ⟨significand, spare, rfl, normal⟩ := size.exists_isNormal
  have rounded := normal.rounded_eq filled near
  unfold ofRatio
  simp only [Nat.pow_eq, rounded, Nat.not_le.mpr size.small, if_false]

end Binary64

end NegativeCompile.Number

import NegativeCompile.Proofs.Number.Nearest
import NegativeCompile.Proofs.Run.Settling

/-! # How long runs take

Compilers that take a brief time are reported to have taken a number of seconds that the format has:
rounded sums of brief times do not grow without bound, since what is too small compared with a sum is
rounded away (`Number.Binary64.IsWithin.add`). So all durations of a run are numbers of the format
(`RunResult.isTimed_of_runWith`). -/

namespace NegativeCompile

open Files Number

namespace Number.Binary64

variable {numerator denominator bits : Nat} {sum item : Binary64}

/-! ## Bounds -/

/-- A number is finite and no larger than a power of two of units. -/
def IsWithin (bits : Nat) (number : Binary64) : Prop :=
  ∃ negative units, number = .finite negative units ∧ units ≤ 2 ^ bits

/-- A quotient is not rounded beyond a power of two. -/
theorem rounded_le (filled : 0 < denominator) (bounded : numerator ≤ 2 ^ bits * denominator) :
    roundHalfEven numerator (denominator * 2 ^ spareBits (numerator / denominator)) *
      2 ^ spareBits (numerator / denominator) ≤ 2 ^ bits := by
  have few : spareBits (numerator / denominator) ≤ bits := by
    have quotient : numerator / denominator ≤ 2 ^ bits :=
      Nat.div_le_of_le_mul (Nat.mul_comm _ _ ▸ bounded)
    rw [spareBits]
    rcases Nat.eq_zero_or_pos (numerator / denominator) with zero | some
    · rw [zero]
      exact Nat.zero_le _
    · have := (Nat.log2_lt some.ne').mpr (Nat.lt_of_le_of_lt quotient (Nat.pow_lt_pow_succ (by decide)))
      omega
  have parts : 2 ^ bits = 2 ^ (bits - spareBits (numerator / denominator)) *
      2 ^ spareBits (numerator / denominator) := by
    rw [← Nat.pow_add, Nat.sub_add_cancel few]
  rw [parts]
  refine Nat.mul_le_mul_right _ (roundHalfEven_le (Nat.mul_pos filled (Nat.two_pow_pos _)) ?_)
  calc numerator ≤ 2 ^ bits * denominator := bounded
    _ = 2 ^ (bits - spareBits (numerator / denominator)) *
        (denominator * 2 ^ spareBits (numerator / denominator)) := by
      rw [parts]
      ring

/-- Rounded units are of the format and no larger than a power of two, if that is so small. -/
theorem isProper_and_isWithin_ofUnits {value : Int} {negativeZero : Bool} (small : 2 ^ bits < unitLimit)
    (filled : 0 < denominator)
    (bounded : roundHalfEven value.natAbs
      (denominator * 2 ^ spareBits (value.natAbs / denominator)) *
        2 ^ spareBits (value.natAbs / denominator) ≤ 2 ^ bits) :
    (ofUnits value denominator negativeZero).IsProper ∧
      (ofUnits value denominator negativeZero).IsWithin bits := by
  have finite : ofUnits value denominator negativeZero =
      .finite (if value = 0 then negativeZero else decide (value < 0)) (roundHalfEven value.natAbs
        (denominator * 2 ^ spareBits (value.natAbs / denominator)) *
          2 ^ spareBits (value.natAbs / denominator)) := by
    unfold ofUnits
    simp only [Nat.pow_eq]
    rw [if_neg (Nat.not_le.mpr (Nat.lt_of_le_of_lt bounded small))]
  refine ⟨isProper_ofUnits filled (by rw [finite]; rfl), _, _, finite, bounded⟩

theorem natAbs_signedUnits (negative : Bool) (units : Nat) :
    (signedUnits negative units).natAbs = units := by
  cases negative
  · exact Int.natAbs_natCast units
  · exact (Int.natAbs_neg _).trans (Int.natAbs_natCast units)

/-- What is so small that it is less than a quarter of the last significant bit is rounded away from a
power of two. -/
theorem rounded_absorbed (more : 2 ^ (bits + 54) < numerator)
    (less : numerator ≤ 2 ^ (bits + 54) + 2 ^ bits) :
    roundHalfEven numerator (2 ^ spareBits numerator) * 2 ^ spareBits numerator = 2 ^ (bits + 54) := by
  have parts : 2 ^ (bits + 54) = 2 ^ 52 * 2 ^ (bits + 2) := by
    rw [← Nat.pow_add]
    congr 1
    omega
  have gap : 2 ^ (bits + 2) = 4 * 2 ^ bits := by ring
  have filled := Nat.two_pow_pos bits
  have spare : spareBits numerator = bits + 2 := by
    refine spareBits_eq ?_ ?_
    · rw [Nat.pow_add]
      omega
    · rw [Nat.pow_add]
      omega
  have whole : roundHalfEven numerator (2 ^ (bits + 2)) = 2 ^ 52 :=
    roundHalfEven_eq (Nat.two_pow_pos _) (by omega) (by omega) fun _ => by decide
  rw [spare, whole, parts]

/-- A sum stays within a power of two when something much smaller is added to it. -/
theorem IsWithin.add (small : 2 ^ (bits + 54) < unitLimit) (within : sum.IsWithin (bits + 54))
    (brief : item.IsWithin bits) : (sum.add item).IsProper ∧ (sum.add item).IsWithin (bits + 54) := by
  obtain ⟨negative, units, rfl, high⟩ := within
  obtain ⟨other, others, rfl, low⟩ := brief
  have rounded := @isProper_and_isWithin_ofUnits 1 (bits + 54)
    (signedUnits negative units + signedUnits other others) (negative && other) small Nat.one_pos
  refine rounded ?_
  have bounded : (signedUnits negative units + signedUnits other others).natAbs ≤
      2 ^ (bits + 54) + 2 ^ bits := by
    refine Nat.le_trans (Int.natAbs_add_le _ _) ?_
    rw [natAbs_signedUnits, natAbs_signedUnits]
    exact Nat.add_le_add high low
  generalize (signedUnits negative units + signedUnits other others).natAbs = total at bounded ⊢
  by_cases inside : total ≤ 2 ^ (bits + 54)
  · exact rounded_le Nat.one_pos (by rwa [Nat.mul_one])
  · rw [Nat.div_one, Nat.one_mul, rounded_absorbed (Nat.not_le.mp inside) bounded]

/-- A thousand times a number is of the format, if the number is small enough. -/
theorem IsWithin.isProper_mul_thousand (small : 2 ^ (bits + 10) < unitLimit)
    (within : item.IsWithin bits) : (item.mul (.ofInt 1000)).IsProper := by
  obtain ⟨negative, units, rfl, low⟩ := within
  have thousand : ofInt 1000 = .finite false (1000 * unitsPerOne) := by decide +kernel
  rw [thousand]
  have rounded := @isProper_and_isWithin_ofUnits unitsPerOne (bits + 10)
    (signedUnits (negative != false) (units * (1000 * unitsPerOne))) (negative != false) small
      unitsPerOne_pos
  refine (rounded ?_).1
  rw [natAbs_signedUnits]
  refine rounded_le unitsPerOne_pos ?_
  rw [← Nat.mul_assoc, Nat.pow_add]
  exact Nat.mul_le_mul_right _ (Nat.mul_le_mul low (by decide))

/-- A time of no more than 2 ^ 64 seconds. -/
def IsBrief (duration : Binary64) : Prop := duration.IsWithin (64 + unitBits)

/-- A rounded sum of brief times is a number of the format. -/
theorem isProper_foldl {α : Type} {durationOf : α → Binary64} {entries : List α}
    (brief : ∀ entry ∈ entries, (durationOf entry).IsBrief) :
    (entries.foldl (fun (sum : Binary64) entry => sum.add (durationOf entry)) .zero).IsProper := by
  have small : 2 ^ (64 + unitBits + 54) < unitLimit := by decide +kernel
  have each : ∀ (rest : List α) (sum : Binary64), (∀ entry ∈ rest, (durationOf entry).IsBrief) →
      sum.IsProper ∧ sum.IsWithin (64 + unitBits + 54) →
        (rest.foldl (fun (sum : Binary64) entry => sum.add (durationOf entry)) sum).IsProper := by
    intro rest
    induction rest with
    | nil => exact fun sum _ holds => holds.1
    | cons entry rest ih =>
      intro sum brief holds
      have next := holds.2.add small (brief entry List.mem_cons_self)
      exact ih _ (fun other member => brief other (List.mem_cons_of_mem _ member)) next
  refine each entries .zero brief ⟨⟨false, 0, rfl, ?_, one_dvd _⟩, false, 0, rfl, Nat.zero_le _⟩
  exact Nat.lt_of_le_of_lt (Nat.zero_le _) small

/-- A thousand times a brief time is a number of the format. -/
theorem IsBrief.isProper_mul_thousand {duration : Binary64} (brief : duration.IsBrief) :
    (duration.mul (.ofInt 1000)).IsProper :=
  IsWithin.isProper_mul_thousand (by decide +kernel) brief

end Number.Binary64

/-! ## Runs -/

/-- All durations that are reported on a run are numbers of the format. -/
structure RunResult.IsTimed (run : RunResult) : Prop where
  /-- The duration of the run. -/
  total : ∃ value, run.duration = .fraction value ∧ value.IsProper
  /-- The durations of cases, in thousandths of a second. -/
  cases : ∀ result ∈ run.fragments, ∀ found ∈ result.cases,
    ∃ value, found.duration.milliseconds = .fraction value ∧ value.IsProper

section

variable {σ : Type} {settings : Settings} {options : RunOptions} {find : Action Unit}
variable {compile : Job → Action CompileOutput} {observe : Observer σ} {paths : List Path}
variable {state last : σ} {run : RunResult} {machine : Machine} {world after : World}

/-- A compiler that takes a brief time. -/
def GivesBriefly (machine : Machine) (compile : Job → Action CompileOutput) : Prop :=
  Gives machine compile fun _ output => output.duration.IsBrief

/-- What is known of a run of the compiler tells how long it took. -/
theorem CompileOutput.duration_of_ofText {arguments : List String} {code : Option Int} {text : String}
    {duration : Binary64} {late : Bool} {output : CompileOutput}
    (given : CompileOutput.ofText arguments code text duration late = .ok output) :
    output.duration = duration := by
  obtain ⟨diagnostics, -, equal⟩ := Except.bind_eq_ok_iff.mp given
  cases equal
  rfl

/-- If programs take a brief time, so does the compiler. -/
theorem Compiler.givesBriefly_compile (brief : ∀ launch, (machine.execute launch).duration.IsBrief)
    (compiler : Compiler) : GivesBriefly machine compiler.compile := by
  intro job world output after returns
  unfold Compiler.compile at returns
  obtain ⟨launch, _, -, rest⟩ := Action.perform_bind_eq_ok_iff.mp returns
  obtain ⟨_, _, -, rest⟩ := Action.perform_bind_eq_ok_iff.mp rest
  obtain ⟨_, _, found, rest⟩ := Action.perform_bind_eq_ok_iff.mp rest
  cases found
  -- Whether it is stopped or not, the output is that of the text with the duration.
  dsimp only at rest
  generalize read : CompileOutput.ofText _ _ _ _ _ = said at rest
  cases said with
  | error problem =>
    split at rest
    · obtain ⟨_, _, -, ⟨⟩⟩ := Action.perform_bind_eq_ok_iff.mp rest
    · cases rest
  | ok said =>
    have same : said = output := by
      split at rest
      · obtain ⟨_, _, -, ⟨⟩⟩ := Action.perform_bind_eq_ok_iff.mp rest
        rfl
      · cases rest
        rfl
    rw [← same, CompileOutput.duration_of_ofText read]
    exact brief launch

/-- The durations of cases that are collected are numbers of the format if compiler runs were brief. -/
theorem Collected.isTimed {surroundings : Surroundings} {workdir : Option Path}
    {compiled : CompiledJobs} {item result : FragmentResult} {outputDir : Path}
    (brief : ∀ identity compilation, compiled.lookup identity = some compilation →
      compilation.output.duration.IsBrief) (fresh : item.cases = [])
    (collected : Collected surroundings options workdir (RanIn compiled) outputDir item result) :
    ∀ found ∈ result.cases,
      ∃ value, found.duration.milliseconds = .fraction value ∧ value.IsProper := by
  intro found member
  cases collected with
  | unread =>
    rw [fresh] at member
    cases member
  | read holds each =>
    obtain ⟨testCase, -, rests⟩ := each.exists_of_mem_right member
    cases rests with
    | skipped => exact ⟨_, rfl, ⟨false, 0, by decide +kernel, by decide +kernel, one_dvd _⟩⟩
    | judged _ ran => exact ⟨_, rfl, (brief _ _ ran).isProper_mul_thousand⟩

/-- A run with a compiler that takes a brief time has durations that are numbers of the format. -/
theorem RunResult.isTimed_of_runWith (brief : GivesBriefly machine compile)
    (returns : (runWith settings options find compile paths observe state).perform machine world =
      (.ok (run, last), after)) : run.IsTimed := by
  obtain ⟨items, compiled, ready, results, prepared, rfl, each⟩ := exists_prepare_and_collected returns
  have done := CompiledAs.of_prepare brief prepared
  refine ⟨⟨_, rfl, Number.Binary64.isProper_foldl fun entry member => ?_⟩, fun result member => ?_⟩
  · obtain ⟨job, -, -, isBrief⟩ := done.exists_of_mem_right member
    exact isBrief
  · obtain ⟨one, listed, same⟩ := exists_of_mem_returned member
    obtain ⟨item, present, surroundings, collected⟩ := each.exists_of_mem_right listed
    have timed := collected.isTimed (fun identity compilation found => by
      obtain ⟨job, -, -, isBrief⟩ := done.expected_of_lookup found
      exact isBrief) ((Loaded.of_prepare prepared).cases_eq_nil item present)
    -- Where its test was written is all that a result gains after it was collected.
    rcases same with rfl | rfl <;> exact timed

end

end NegativeCompile

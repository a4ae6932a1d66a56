import NegativeCompile.Proofs.Number.Nearest
import NegativeCompile.Proofs.Schema.Untying
import NegativeCompile.Proofs.Settings.Uniting

/-! # What accepted configurations bound

A configuration that is accepted runs at least one compiler at a time, checks at least one fragment and
none twice, and names its compiler and a directory for results. It also bounds the time that a compiler
may take, unless it asks for an infinite time or for one that is no number: these are numbers, and they
are not zero or less (`Settings.bounded_of_ofDatum`). -/

namespace NegativeCompile

open Files Schema Number

variable {context : PathContext} {raw : KnottedDatum} {knots : Knots} {value : Datum}
variable {settings : Settings} {entries : List (Datum × Datum)} {names : List String} {name : String}
variable {known : List (String × Schema)}

/-! ## Numbers -/

namespace Number

/-- What is at least as large as the denominator is not rounded to zero. -/
theorem roundHalfEven_pos {numerator denominator : Nat} (some : 0 < denominator)
    (large : denominator ≤ numerator) : 0 < roundHalfEven numerator denominator := by
  have quotient : 0 < numerator / denominator := Nat.div_pos large some
  unfold roundHalfEven
  dsimp only
  split
  · exact quotient
  · exact Nat.succ_pos _

namespace Binary64

/-- A number is finite and greater than zero. -/
def IsPositive (number : Binary64) : Prop := ∃ units, number = .finite false units ∧ 0 < units

/-- The number nearest to a whole number that is greater than zero is so too, unless it is infinite. -/
theorem isPositive_ofInt {count : Int} (positive : 0 < count)
    (finite : (ofInt count).isFinite = true) : (ofInt count).IsPositive := by
  have sign : decide (count < 0) = false := decide_eq_false (by omega)
  have scaled : 0 < count.natAbs * unitsPerOne := Nat.mul_pos (by omega) unitsPerOne_pos
  rw [ofInt, ofRatio, sign] at finite ⊢
  rw [Nat.div_one, Nat.one_mul] at finite ⊢
  generalize count.natAbs * unitsPerOne = numerator at scaled finite ⊢
  have spare : 0 < Nat.pow 2 (spareBits numerator) := Nat.pow_pos (by decide)
  have large : Nat.pow 2 (spareBits numerator) ≤ numerator :=
    Nat.le_trans (Nat.pow_le_pow_right (by decide) (Nat.sub_le _ _))
      (Nat.log2_self_le (by omega))
  split at finite
  · cases finite
  next small =>
    rw [if_neg small]
    exact ⟨_, rfl, Nat.mul_pos (roundHalfEven_pos spare large) spare⟩

/-- A number that is neither less than zero nor zero is greater than zero, if it is finite. -/
theorem isPositive_iff_isFinite {number : Binary64} (above : number.lt (ofInt 0) = false)
    (other : number.equalsInt 0 = false) : number.IsPositive ↔ number.isFinite = true := by
  have zero : ofInt 0 = .finite false 0 := by decide +kernel
  rw [zero] at above
  cases number with
  | finite negative units =>
    refine iff_of_true ?_ rfl
    rw [lt, decide_eq_false_iff_not] at above
    rw [equalsInt, Int.zero_mul, beq_eq_false_iff_ne] at other
    cases negative with
    | true => simp only [signedUnits, if_true] at above other; omega
    | false => exact ⟨units, rfl, by simp only [signedUnits] at other; omega⟩
  | infinite => exact iff_of_false nofun nofun
  | notANumber => exact iff_of_false nofun nofun

/-- A whole number that is not less than one is at least one when its fraction is cut off. -/
theorem one_le_truncate {number : Binary64} (whole : number.isIntegral = true)
    (least : number.lt (ofInt 1) = false) : 1 ≤ number.truncate := by
  have one : ofInt 1 = .finite false unitsPerOne := by decide +kernel
  rw [one] at least
  have positive := unitsPerOne_pos
  cases number with
  | finite negative units =>
    rw [lt, decide_eq_false_iff_not] at least
    rw [truncate]
    generalize unitsPerOne = unit at least positive ⊢
    cases negative with
    | true => simp only [signedUnits, if_true, Bool.false_eq_true, if_false] at least; omega
    | false =>
      simp only [signedUnits, Bool.false_eq_true, if_false] at least ⊢
      have large : 1 ≤ units / unit := (Nat.one_le_div_iff positive).mpr (by omega)
      exact_mod_cast large
  | infinite => cases whole
  | notANumber => cases whole

end Binary64

end Number

/-! ## What follows the schema -/

namespace Settings

/-- A text that follows the schema for texts that are not empty is one. -/
theorem text_of_admits (tied : knots.IsTied) (admits : nonemptyText.Admits knots value) :
    ∃ text, value = .text text ∧ text ≠ "" := by
  have loose : knots.IsLoose value := unties_of_kinds List.mem_cons_self (by decide) knots value tied admits
  rw [nonemptyText, admits_ofRules_iff, List.forall_mem_cons, List.forall_mem_singleton] at admits
  obtain ⟨kind, member, holds⟩ := Rule.admits_kind_iff.mp admits.1
  obtain rfl := List.mem_singleton.mp member
  cases stands : knots.resolve value with
  | text text =>
    have same : value = .text text := loose.eq_of_resolve stands (by rintro ⟨⟩)
    exact ⟨text, same, admits.2.nonemptyText stands⟩
  | _ => rw [stands] at holds; cases holds

/-- What follows the schema of a record is a mapping that has the required keys, and the values of known
keys follow the schemas for them. -/
theorem entries_of_admits (tied : knots.IsTied) (unties : (closedRecord names known).Unties)
    (admits : (closedRecord names known).Admits knots value) :
    ∃ entries, value = .mapping entries ∧
      (∀ name ∈ names, ∃ value, Datum.get? name entries = some value) ∧
      ∀ member ∈ known, ∀ value, Datum.get? member.1 entries = some value →
        member.2.Admits knots value := by
  have loose := unties knots value tied admits
  rw [closedRecord, admits_ofRules_iff] at admits
  simp only [List.forall_mem_cons] at admits
  obtain ⟨record, required, -, properties, -⟩ := admits
  obtain ⟨kind, member, holds⟩ := Rule.admits_kind_iff.mp record
  obtain rfl := List.mem_singleton.mp member
  cases stands : knots.resolve value with
  | mapping entries =>
    have same : value = .mapping entries := loose.eq_of_resolve stands (by rintro ⟨⟩)
    exact ⟨entries, same, required.required stands, properties.properties stands⟩
  | _ => rw [stands] at holds; cases holds

/-- The number of compilers run at a time is at least one. -/
theorem one_le_jobsOf (admits : ∀ value, Datum.get? "jobs" entries = some value →
    (Schema.ofRules [.kind [.integer], .least 1]).Admits knots value) : 1 ≤ jobsOf entries := by
  rw [jobsOf, entry?]
  cases found : Datum.get? "jobs" entries with
  | none => decide
  | some value =>
    have own := admits value found
    rw [admits_ofRules_iff, List.forall_mem_cons, List.forall_mem_singleton] at own
    obtain ⟨kind, member, holds⟩ := Rule.admits_kind_iff.mp own.1
    obtain rfl := List.mem_singleton.mp member
    have least := own.2.least
    cases value with
    | integer count =>
      have above : ¬ count < 1 := of_decide_eq_false least
      exact Int.not_lt.mp above
    | real number => exact Binary64.one_le_truncate holds least
    | _ => exact (by decide : (1 : Int) ≤ defaultJobs)

/-- The number of seconds that a compiler may take is finite and greater than zero just if no other one
is given. -/
theorem isPositive_timeoutOf_iff {timeout : Seconds} (timed : timeoutOf entries = .ok timeout)
    (admits : ∀ value, Datum.get? "timeout" entries = some value →
      (Schema.ofRules [.kind [.number], .above 0]).Admits knots value) :
    (∃ number : Binary64, timeout = .real number ∧ number.IsPositive) ↔
      ∀ number, entry? "timeout" entries = some (.real number) → number.isFinite = true := by
  rw [ entry?]
  rw [timeoutOf, entry?] at timed
  have usual : (Binary64.ofInt 120).IsPositive :=
    Binary64.isPositive_ofInt (by decide) (by decide +kernel)
  cases found : Datum.get? "timeout" entries with
  | none =>
    rw [found] at timed
    cases timed
    exact iff_of_true ⟨_, rfl, usual⟩ (by rintro _ ⟨⟩)
  | some value =>
    rw [found] at timed
    have own := admits value found
    rw [admits_ofRules_iff, List.forall_mem_cons, List.forall_mem_singleton] at own
    obtain ⟨below, equal⟩ := own.2.above
    cases value with
    | integer count =>
      have lower : ¬ count < 0 := of_decide_eq_false below
      have other : count ≠ 0 := beq_eq_false_iff_ne.mp equal
      dsimp only at timed
      -- A whole number beyond the format is refused, so any other one is finite.
      split at timed
      next finite =>
        cases timed
        exact iff_of_true ⟨_, rfl, Binary64.isPositive_ofInt (by omega) finite⟩ (by rintro _ ⟨⟩)
      next => cases timed
    | real number =>
      cases timed
      simp only [Seconds.real.injEq, exists_eq_left', Option.some.injEq, Datum.real.injEq, forall_eq']
      exact Binary64.isPositive_iff_isFinite below equal
    | _ =>
      cases timed
      exact iff_of_true ⟨_, rfl, usual⟩ (by rintro _ ⟨⟩)

/-- How the compiler is named and how long it may take are found one by one. -/
theorem parts_of_compilerOf {compiler : CompilerSettings}
    (compiled : compilerOf context entries = .ok compiler) :
    binaryOf context ((textOf? "binary" entries).getD "") = .ok compiler.binary ∧
      timeoutOf entries = .ok compiler.timeout := by
  obtain ⟨flags, -, compiled⟩ := Except.bind_eq_ok_iff.mp compiled
  obtain ⟨binary, named, compiled⟩ := Except.bind_eq_ok_iff.mp compiled
  obtain ⟨includeDirs, -, compiled⟩ := Except.bind_eq_ok_iff.mp compiled
  obtain ⟨timeout, timed, compiled⟩ := Except.bind_eq_ok_iff.mp compiled
  obtain ⟨bound, -, compiled⟩ := Except.bind_eq_ok_iff.mp compiled
  dsimp only at compiled
  split at compiled
  · split at compiled
    · cases compiled
      exact ⟨named, timed⟩
    · obtain ⟨workdir, -, compiled⟩ := Except.bind_eq_ok_iff.mp compiled
      cases compiled
      exact ⟨named, timed⟩
  · cases compiled
    exact ⟨named, timed⟩

/-- The text of a path is never empty. -/
theorem toString_path_ne (path : Path) : path.toString ≠ "" := by
  rw [Path.toString]
  split
  · decide
  next filled => exact fun empty => filled (by rw [empty]; rfl)

/-- A compiler that is named is found under a name that is not empty. -/
theorem binaryOf_ne {binary : String} (filled : name ≠ "") (named : binaryOf context name = .ok binary) :
    binary ≠ "" := by
  rw [binaryOf] at named
  split at named
  · obtain ⟨path, -, rfl⟩ := Except.map_eq_ok_iff.mp named
    exact toString_path_ne path
  · cases named
    exact filled

/-- Fragments that entries stand for are at least one, if there is an entry, and no path is there
twice. -/
theorem fragments_of_expandFragments {patterns : List String} {paths : List Path}
    (expanded : context.expandFragments patterns = .ok paths) (filled : patterns ≠ []) :
    paths ≠ [] ∧ paths.Nodup := by
  constructor
  · obtain ⟨pattern, listed⟩ := List.exists_mem_of_ne_nil _ filled
    obtain ⟨found, -, some, within⟩ := PathContext.exists_pathsOf_of_mem expanded listed
    obtain ⟨path, among⟩ := List.exists_mem_of_ne_nil _ some
    exact List.ne_nil_of_mem (within path among)
  · obtain ⟨found, -, rfl⟩ := PathContext.expandFragments_eq_ok_iff.mp expanded
    exact PathContext.nodup_addPaths List.nodup_nil

/-- A list of fragments that follows the schema has at least one entry. -/
theorem textsOf_fragments_ne (tied : knots.IsTied)
    (found : Datum.get? "fragments" entries = some value)
    (admits : (Schema.ofRules [.kind [.array], .items nonemptyText, .nonemptyList]).Admits knots value) :
    textsOf "fragments" entries ≠ [] := by
  have loose : knots.IsLoose value := unties_of_items List.mem_cons_self
    (List.mem_cons_of_mem _ List.mem_cons_self) (unties_of_kinds List.mem_cons_self (by decide))
    knots value tied admits
  simp only [admits_ofRules_iff, List.forall_mem_cons] at admits
  obtain ⟨kind, member, holds⟩ := Rule.admits_kind_iff.mp admits.1
  obtain rfl := List.mem_singleton.mp member
  cases stands : knots.resolve value with
  | list items =>
    have same : value = .list items := loose.eq_of_resolve stands (by rintro ⟨⟩)
    rw [textsOf, entry?, found, same]
    exact mt List.map_eq_nil_iff.mp (admits.2.2.1.nonemptyList stands)
  | _ => rw [stands] at holds; cases holds

/-- The time that a configuration gives to the compiler. -/
def givenTimeout? (raw : KnottedDatum) : Option Datum :=
  entry? "timeout" (entriesOf "compiler" raw.entries)

/-- A configuration that is accepted runs at least one compiler at a time and checks at least one fragment,
none of them twice; the compiler has a name, and so has the directory for results. The time that the
compiler may take is a finite number greater than zero just if the configuration does not ask for a number
of seconds that is not finite. -/
theorem bounded_of_ofDatum (context : PathContext) (raw : KnottedDatum) (settings : Settings)
    (tied : raw.knots.IsTied) (accepted : ofDatum context raw = .ok settings) :
    1 ≤ settings.jobs ∧ settings.fragments ≠ [] ∧ settings.fragments.Nodup ∧
    settings.compiler.binary ≠ "" ∧ settings.outputDir.toString ≠ "" ∧
    ((∃ number : Binary64, settings.compiler.timeout = .real number ∧ number.IsPositive) ↔
      ∀ number, givenTimeout? raw = some (.real number) → number.isFinite = true) := by
  rw [ofDatum_eq] at accepted
  obtain ⟨⟨⟩, checked, accepted⟩ := Except.bind_eq_ok_iff.mp accepted
  obtain ⟨compiler, compiled, accepted⟩ := Except.bind_eq_ok_iff.mp accepted
  obtain ⟨outputDir, -, accepted⟩ := Except.bind_eq_ok_iff.mp accepted
  obtain ⟨fragments, expanded, accepted⟩ := Except.bind_eq_ok_iff.mp accepted
  cases accepted
  -- The configuration and the compiler's part are given as they are.
  obtain ⟨entries, whole, required, follow⟩ :=
    entries_of_admits tied unties_schema (check_eq_ok_iff.mp checked)
  simp only [List.forall_mem_cons, List.not_mem_nil, false_implies, implies_true, and_true]
    at required follow
  obtain ⟨⟨part, present⟩, -, listed, patterns⟩ := required
  obtain ⟨inner, rfl, named, within⟩ :=
    entries_of_admits tied unties_compilerSchema (follow.1 part present)
  simp only [List.forall_mem_cons, List.not_mem_nil, false_implies, implies_true, and_true]
    at named within
  have outer : raw.entries = entries := by rw [KnottedDatum.entries, whole]
  have own : entriesOf "compiler" entries = inner := by rw [entriesOf, entry?, present]
  rw [givenTimeout?, outer, own]
  rw [outer] at expanded
  rw [outer, own] at compiled
  obtain ⟨binary, timed⟩ := parts_of_compilerOf compiled
  obtain ⟨value, found⟩ := named
  obtain ⟨text, rfl, filled⟩ := text_of_admits tied (within.1 value found)
  have spelled : textOf? "binary" inner = some text := by rw [textOf?, entry?, found]
  rw [spelled, Option.getD_some] at binary
  obtain ⟨some, distinct⟩ := fragments_of_expandFragments expanded
    (textsOf_fragments_ne tied patterns (follow.2.2.2.1 _ patterns))
  exact ⟨one_le_jobsOf follow.2.2.1, some, distinct, binaryOf_ne filled binary,
    toString_path_ne outputDir, isPositive_timeoutOf_iff timed within.2.2.2.2.2.2.2.2.1⟩

end Settings

/-! ## Samples -/

namespace Timed

open Bracketed

/-- A configuration that gives the compiler some time. -/
def configuration (timeout : Binary64) : KnottedDatum :=
  .plain (Settings.assembled (("timeout", .real timeout) :: configured "a1.nc"))

/-- If the configuration follows the schema, it is accepted, and the compiler may take that time. -/
theorem exists_ofDatum (timeout : Binary64)
    (checked : Settings.check (configuration timeout) = .ok ()) :
    ∃ settings, Settings.ofDatum Bracketed.context (configuration timeout) = .ok settings ∧
      settings.compiler.timeout = .real timeout := by
  have bare : ("cc".contains '/' || "cc".contains '\\') = false := by
    rw [String.contains_char_eq, String.contains_char_eq]
    decide
  have binary : Settings.binaryOf Bracketed.context "cc" = .ok "cc" := by
    rw [Settings.binaryOf, bare, if_neg Bool.false_ne_true]
  have named : (Settings.textOf? "binary" (Settings.entriesOf "compiler"
      (configuration timeout).entries)).getD "" = "cc" := rfl
  have compiled : ∃ compiler, Settings.compilerOf Bracketed.context (Settings.entriesOf "compiler"
      (configuration timeout).entries) = .ok compiler ∧ compiler.timeout = .real timeout := by
    unfold Settings.compilerOf
    rw [named, binary]
    exact ⟨_, rfl, rfl⟩
  obtain ⟨compiler, compiled, timed⟩ := compiled
  obtain ⟨place, content, executable, walked⟩ := PathContext.exists_walk_of_isFile isFile_plain
  have expanded : Bracketed.context.expandFragments ["a1.nc"] = .ok [.ofParts place] :=
    PathContext.expandFragments_of_file isFit_tree rfl rfl (by decide) not_asksHome_plain walked
  have fragments : Settings.textsOf "fragments" (configuration timeout).entries = ["a1.nc"] := rfl
  have output : (Settings.textOf? "output_dir" (configuration timeout).entries).getD "" = "out" := rfl
  rw [Settings.ofDatum_eq, checked, Except.ok_bind, compiled, Except.ok_bind, output, resolve_output,
    Except.ok_bind, fragments, expanded]
  exact ⟨_, rfl, timed⟩

end Timed

open Timed in
/-- A configuration that gives the compiler five seconds is accepted, and the compiler may take a finite
number of seconds greater than zero. -/
theorem Settings.bounded_of_five_seconds :
    (configuration (.ofInt 5)).knots.IsTied ∧
    ∃ settings, ofDatum Bracketed.context (configuration (.ofInt 5)) = .ok settings ∧
      ∃ number : Binary64, settings.compiler.timeout = .real number ∧ number.IsPositive := by
  obtain ⟨settings, accepted, -⟩ := exists_ofDatum (.ofInt 5)
    (Except.eq_ok_of_toOption (by decide +kernel))
  have bounds := bounded_of_ofDatum _ _ settings Knots.isTied_nil accepted
  refine ⟨Knots.isTied_nil, settings, accepted, bounds.2.2.2.2.2.mpr fun number given => ?_⟩
  have five : givenTimeout? (configuration (.ofInt 5)) = some (.real (.ofInt 5)) := rfl
  obtain rfl := Datum.real.inj (Option.some.inj (five.symm.trans given))
  decide +kernel

open Timed in
/-- A configuration that gives the compiler infinite time is accepted, and so is one that gives it a time
that is no number. So not every configuration that is accepted bounds the time. -/
theorem Settings.unbounded_of_ofDatum :
    (∃ settings, ofDatum Bracketed.context (configuration (.infinite false)) = .ok settings ∧
      settings.compiler.timeout = .real (.infinite false)) ∧
    (∃ settings, ofDatum Bracketed.context (configuration .notANumber) = .ok settings ∧
      settings.compiler.timeout = .real .notANumber) ∧
    ¬ ∀ (context : PathContext) (raw : KnottedDatum) (settings : Settings), raw.knots.IsTied →
      ofDatum context raw = .ok settings →
        ∃ number : Binary64, settings.compiler.timeout = .real number ∧ number.IsPositive := by
  have endless := exists_ofDatum (.infinite false)
    (Except.eq_ok_of_toOption (by decide +kernel))
  have unknown := exists_ofDatum .notANumber
    (Except.eq_ok_of_toOption (by decide +kernel))
  refine ⟨endless, unknown, fun always => ?_⟩
  obtain ⟨settings, accepted, timed⟩ := endless
  obtain ⟨number, given, units, finite, -⟩ := always _ _ settings Knots.isTied_nil accepted
  rw [timed] at given
  obtain rfl := Seconds.real.inj given
  cases finite

end NegativeCompile

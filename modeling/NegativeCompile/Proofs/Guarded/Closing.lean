import NegativeCompile.Proofs.Guarded.Detecting
import NegativeCompile.Proofs.Verdict.Tractable

/-! # Chains that are left open

A test of a symbol outside of all conditionals opens a chain, and the chain should be closed before the
text ends (`Guarded.IsClosed`). Reading refuses a text that ends in a branch of a case, but it takes
one that ends in another branch of the chain (`Guarded.EndsUntested`), because only the open case is
asked for at the end: so a chain may be left open (`Guarded.chain_left_open`), and just in this way
unless a test opens another chain directly in it (`Guarded.closed_or_endsUntested`). -/

namespace NegativeCompile.Guarded

open Files Text

variable {path : Path} {text : String} {number depth count : Nat}
variable {progress next reached : Progress} {line : List Char} {level : Option Nat}
variable {lines rest before after : List (List Char)} {holds : List Char → Prop}

/-! ## Levels in a chain -/

/-- How many conditionals are open inside of a chain after one more line; nothing is counted any more
once the chain has been closed. -/
def levelAfter (level : Option Nat) (line : List Char) : Option Nat :=
  level.bind fun count =>
    match nesting line with
    | .opening => some (count + 1)
    | .closing => if count = 0 then none else some (count - 1)
    | _ => some count

/-- A line with some others around it stands directly in a chain, from a level in it on. -/
structure StandsDirectly (level : Option Nat) (lines before : List (List Char)) (line : List Char)
    (after : List (List Char)) : Prop where
  /-- The line is one of the lines. -/
  split : lines = before ++ line :: after
  /-- No other conditional is open in the chain. -/
  direct : before.foldl levelAfter level = some 0

/-- The end of a chain stands directly in it, from a level in it on. -/
def IsClosedFrom (level : Option Nat) (lines : List (List Char)) : Prop :=
  ∃ inside closing rest, StandsDirectly level lines inside closing rest ∧ nesting closing = .closing

/-- Something holds of each line that stands directly in a chain, from a level in it on. -/
def EachDirect (level : Option Nat) (holds : List Char → Prop) (lines : List (List Char)) : Prop :=
  ∀ before line after, StandsDirectly level lines before line after → holds line

/-- A line that stands directly in a chain starts a branch without a test of a symbol, and no such test
stands directly in the chain after it. -/
def EndsUntestedFrom (level : Option Nat) (lines : List (List Char)) : Prop :=
  ∃ before line after, StandsDirectly level lines before line after ∧ nesting line = .branch ∧
    guard? line = none ∧ EachDirect (some 0) (guard? · = none) after

/-- The lines after the first one of a chain close it. -/
abbrev IsClosed (after : List (List Char)) : Prop := IsClosedFrom (some 0) after

/-- The last branch of a chain starts with no test of a symbol, the lines after its first one being
given. -/
abbrev EndsUntested (after : List (List Char)) : Prop := EndsUntestedFrom (some 0) after

/-- A line stands directly in a chain if it is the first one and the level is zero. -/
theorem standsDirectly_nil_iff {first : List Char} :
    StandsDirectly level (first :: rest) [] line after ↔ level = some 0 ∧ first = line ∧ rest = after := by
  constructor
  · rintro ⟨split, direct⟩
    obtain ⟨same, others⟩ := List.cons.inj split
    exact ⟨direct, same, others⟩
  · rintro ⟨direct, rfl, rfl⟩
    exact ⟨rfl, direct⟩

/-- A line after the first one stands directly in a chain if it does so from the next level on. -/
theorem standsDirectly_cons_iff {first other : List Char} :
    StandsDirectly level (first :: rest) (other :: before) line after ↔
      other = first ∧ StandsDirectly (levelAfter level first) rest before line after := by
  constructor
  · rintro ⟨split, direct⟩
    obtain ⟨rfl, others⟩ := List.cons.inj split
    exact ⟨rfl, others, direct⟩
  · rintro ⟨rfl, rfl, direct⟩
    exact ⟨rfl, direct⟩

/-- The end of a chain is the first line or a later one. -/
theorem isClosedFrom_cons_iff : IsClosedFrom level (line :: lines) ↔
    (level = some 0 ∧ nesting line = .closing) ∨ IsClosedFrom (levelAfter level line) lines := by
  constructor
  · rintro ⟨_ | ⟨other, inside⟩, closing, rest, stands, closes⟩
    · obtain ⟨direct, rfl, -⟩ := standsDirectly_nil_iff.mp stands
      exact .inl ⟨direct, closes⟩
    · exact .inr ⟨inside, closing, rest, (standsDirectly_cons_iff.mp stands).2, closes⟩
  · rintro (⟨direct, closes⟩ | ⟨inside, closing, rest, stands, closes⟩)
    · exact ⟨[], line, lines, standsDirectly_nil_iff.mpr ⟨direct, rfl, rfl⟩, closes⟩
    · exact ⟨line :: inside, closing, rest, standsDirectly_cons_iff.mpr ⟨rfl, stands⟩, closes⟩

/-- What holds of each line holds of the first one, if that stands directly, and of the later ones. -/
theorem eachDirect_cons_iff : EachDirect level holds (line :: lines) ↔
    (level = some 0 → holds line) ∧ EachDirect (levelAfter level line) holds lines := by
  constructor
  · intro each
    exact ⟨fun direct => each [] line lines (standsDirectly_nil_iff.mpr ⟨direct, rfl, rfl⟩),
      fun before other after stands =>
        each (line :: before) other after (standsDirectly_cons_iff.mpr ⟨rfl, stands⟩)⟩
  · rintro ⟨here, later⟩ (_ | ⟨other, before⟩) found after stands
    · obtain ⟨direct, rfl, -⟩ := standsDirectly_nil_iff.mp stands
      exact here direct
    · exact later before found after (standsDirectly_cons_iff.mp stands).2

/-- A line that starts a branch does not change the level. -/
theorem levelAfter_of_branch (starts : nesting line = .branch) (level : Option Nat) :
    levelAfter level line = level := by
  rw [levelAfter, starts]
  exact Option.bind_fun_some level

/-- The last branch without a test starts at the first line or at a later one. -/
theorem endsUntestedFrom_cons_iff : EndsUntestedFrom level (line :: lines) ↔
    (level = some 0 ∧ nesting line = .branch ∧ guard? line = none ∧
        EachDirect (levelAfter level line) (guard? · = none) lines) ∨
      EndsUntestedFrom (levelAfter level line) lines := by
  constructor
  · rintro ⟨_ | ⟨other, before⟩, found, after, stands, starts, unguarded, later⟩
    · obtain ⟨rfl, rfl, rfl⟩ := standsDirectly_nil_iff.mp stands
      rw [levelAfter_of_branch starts]
      exact .inl ⟨rfl, starts, unguarded, later⟩
    · exact .inr ⟨before, found, after, (standsDirectly_cons_iff.mp stands).2, starts, unguarded, later⟩
  · rintro (⟨rfl, starts, unguarded, later⟩ | ⟨before, found, after, stands, starts⟩)
    · rw [levelAfter_of_branch starts] at later
      exact ⟨[], line, lines, standsDirectly_nil_iff.mpr ⟨rfl, rfl, rfl⟩, starts, unguarded, later⟩
    · exact ⟨line :: before, found, after, standsDirectly_cons_iff.mpr ⟨rfl, stands⟩, starts⟩

/-- No line stands in nothing. -/
theorem not_standsDirectly_nil : ¬ StandsDirectly level [] before line after := fun stands =>
  List.cons_ne_nil _ _ (List.append_eq_nil_iff.mp stands.split.symm).2

/-- Something holds of each line of nothing. -/
theorem eachDirect_nil : EachDirect level holds [] := fun _ _ _ stands =>
  absurd stands not_standsDirectly_nil

/-- Nothing has no last branch. -/
theorem not_endsUntestedFrom_nil : ¬ EndsUntestedFrom level [] := fun ⟨_, _, _, stands, _⟩ =>
  not_standsDirectly_nil stands

/-- Whether a chain is closed can be read off its lines. -/
instance decidableIsClosedFrom (level : Option Nat) :
    (lines : List (List Char)) → Decidable (IsClosedFrom level lines)
  | [] => isFalse fun ⟨_, _, _, stands, _⟩ => not_standsDirectly_nil stands
  | line :: lines =>
    have := decidableIsClosedFrom (levelAfter level line) lines
    decidable_of_iff _ isClosedFrom_cons_iff.symm

/-- What can be told of a line can be told of each line that stands directly in a chain. -/
instance decidableEachDirect [DecidablePred holds] (level : Option Nat) :
    (lines : List (List Char)) → Decidable (EachDirect level holds lines)
  | [] => isTrue eachDirect_nil
  | line :: lines =>
    have := decidableEachDirect (levelAfter level line) lines
    decidable_of_iff _ eachDirect_cons_iff.symm

/-- Whether the last branch of a chain has no case can be read off its lines. -/
instance decidableEndsUntestedFrom (level : Option Nat) :
    (lines : List (List Char)) → Decidable (EndsUntestedFrom level lines)
  | [] => isFalse not_endsUntestedFrom_nil
  | line :: lines =>
    have := decidableEndsUntestedFrom (levelAfter level line) lines
    decidable_of_iff _ endsUntestedFrom_cons_iff.symm

/-! ## Reading in a chain that is left open -/

/-- A line can continue a chain: if it tests a symbol, then it opens no other chain. -/
def Continues (line : List Char) : Prop := ∀ guard, guard? line = some guard → guard.isElif = true

/-- Whether a line can continue a chain can be read off it. -/
instance decidableContinues (line : List Char) : Decidable (Continues line) :=
  decidable_of_iff ((guard? line).all (·.isElif) = true) (Option.all_eq_true _ _)

/-- Reading has come to a level in an open chain. -/
structure Progress.IsAt (level : Nat) (progress : Progress) : Prop where
  /-- As many other conditionals are open. -/
  depth : progress.depth = level
  /-- The chain is open. -/
  inChain : progress.inChain = true

/-- A line that counts for its nesting only leaves a chain open unless it closes it. Then no case is open
just if none was open before or the line starts another branch of the chain. -/
theorem exists_level_of_pass (here : progress.IsAt count)
    (left : ¬ (count = 0 ∧ nesting line = .closing)) (number : Nat) :
    ∃ later, levelAfter (some count) line = some later ∧
      (progress.pass number (nesting line)).IsAt later ∧
      ((progress.pass number (nesting line)).current = none ↔
        progress.current = none ∨ (count = 0 ∧ nesting line = .branch)) := by
  obtain ⟨depth, inChain⟩ := here
  cases kind : nesting line with
  | opening =>
    exact ⟨count + 1, by simp [levelAfter, kind], ⟨congrArg (· + 1) depth, inChain⟩,
      by simp [Progress.pass]⟩
  | plain => exact ⟨count, by simp [levelAfter, kind], ⟨depth, inChain⟩, by simp [Progress.pass]⟩
  | branch =>
    refine ⟨count, by simp [levelAfter, kind], ?_⟩
    by_cases direct : count = 0
    · subst direct
      rw [Progress.pass, if_pos (by simp [depth, inChain]), close_eq]
      exact ⟨⟨depth, inChain⟩, by simp⟩
    · rw [Progress.pass, if_neg (by simp [depth, direct])]
      exact ⟨⟨depth, inChain⟩, by simp [direct]⟩
  | closing =>
    have deep : count ≠ 0 := fun direct => left ⟨direct, kind⟩
    have inside : 0 < progress.depth := by omega
    refine ⟨count - 1, by simp [levelAfter, kind, deep], ?_⟩
    rw [Progress.pass, if_pos inside]
    exact ⟨⟨congrArg (· - 1) depth, inChain⟩, by simp⟩

/-- A line leaves a chain open unless it closes it. Then no case is open just if none was open before
and the line tests no symbol directly in the chain, or the line starts another branch of the chain. -/
theorem exists_level_of_step (here : progress.IsAt count) (continues : count = 0 → Continues line)
    (left : ¬ (count = 0 ∧ nesting line = .closing))
    (stepped : progress.step path number line = .ok next) :
    ∃ later, levelAfter (some count) line = some later ∧ next.IsAt later ∧
      (next.current = none ↔ (progress.current = none ∧ (count = 0 → guard? line = none)) ∨
        (count = 0 ∧ nesting line = .branch ∧ guard? line = none)) := by
  obtain ⟨depth, inChain⟩ := here
  by_cases tested : count = 0 ∧ guard? line ≠ none
  · -- The line opens the branch of a case; it is known to open no chain.
    obtain ⟨rfl, tests⟩ := tested
    obtain ⟨guard, reads⟩ := Option.ne_none_iff_exists'.mp tests
    have kind : nesting line = .branch := by
      rw [nesting_of_guard? reads, continues rfl guard reads]
      rfl
    rw [Progress.step, if_pos depth, reads] at stepped
    obtain ⟨-, patterns, -, rfl⟩ := Progress.openBranch_eq_ok_iff.mp stepped
    refine ⟨0, by simp [levelAfter, kind], ⟨?_, rfl⟩, by simp [tests]⟩
    rw [close_eq]
    exact depth
  · -- The line counts for its nesting only.
    have passes : progress.step path number line = .ok (progress.pass number (nesting line)) := by
      rw [Progress.step]
      split
      next guard reads =>
        split at reads
        next outside => exact absurd ⟨depth ▸ outside, by simp [reads]⟩ tested
        next => cases reads
      next => rfl
    have untested : count = 0 → guard? line = none := by simpa using tested
    obtain rfl := Except.ok.inj (passes.symm.trans stepped)
    have same : (progress.current = none ∧ (count = 0 → guard? line = none)) ∨
        (count = 0 ∧ nesting line = .branch ∧ guard? line = none) ↔
          progress.current = none ∨ (count = 0 ∧ nesting line = .branch) := by
      constructor
      · rintro (⟨none, -⟩ | ⟨outside, starts, -⟩)
        · exact .inl none
        · exact .inr ⟨outside, starts⟩
      · rintro (none | ⟨outside, starts⟩)
        · exact .inl ⟨none, untested⟩
        · exact .inr ⟨outside, starts, untested outside⟩
    rw [same]
    exact exists_level_of_pass ⟨depth, inChain⟩ left number

/-- In a chain that is left open no case is open in the end just if none was open before and no test
stands directly in the chain, or the last branch without a test comes after all tests. -/
theorem current_eq_none_iff (here : progress.IsAt count)
    (single : EachDirect (some count) Continues lines) (left : ¬ IsClosedFrom (some count) lines)
    (read : readLines path number progress lines = .ok reached) :
    reached.current = none ↔
      (progress.current = none ∧ EachDirect (some count) (guard? · = none) lines) ∨
        EndsUntestedFrom (some count) lines := by
  induction lines generalizing number progress count with
  | nil =>
    rw [← Except.ok.inj read]
    constructor
    · exact fun none => .inl ⟨none, eachDirect_nil⟩
    · rintro (⟨none, -⟩ | untested)
      · exact none
      · exact absurd untested not_endsUntestedFrom_nil
  | cons line rest ih =>
    obtain ⟨next, stepped, others⟩ := Except.bind_eq_ok_iff.mp read
    rw [isClosedFrom_cons_iff, not_or, Option.some.injEq] at left
    rw [eachDirect_cons_iff, Option.some.injEq] at single
    obtain ⟨later, level, there, current⟩ := exists_level_of_step here single.1 left.1 stepped
    rw [level] at left single
    rw [ih there single.2 left.2 others, current, eachDirect_cons_iff, endsUntestedFrom_cons_iff, level,
      Option.some.injEq]
    simp only [or_and_right, and_assoc, or_assoc]

/-! ## Reading up to a chain -/

/-- However the lines before are nested, no fewer conditionals are open than reading counts. -/
theorem counted_le_of_step (bounded : progress.depth + progress.inChain.toNat ≤ depth)
    (stepped : progress.step path number line = .ok next) :
    next.depth + next.inChain.toNat ≤ openAfter depth line := by
  rcases progress.step_cases path number line with ⟨guard, reads, opens⟩ | passes
  · rw [opens] at stepped
    obtain ⟨continues, patterns, -, rfl⟩ := Progress.openBranch_eq_ok_iff.mp stepped
    rw [close_eq, openAfter, nesting_of_guard? reads]
    cases isElif : guard.isElif with
    | true =>
      rw [continues isElif] at bounded
      exact bounded
    | false => exact Nat.succ_le_succ (Nat.le_of_add_right_le bounded)
  · obtain rfl := Except.ok.inj (passes.symm.trans stepped)
    rw [openAfter]
    cases nesting line with
    | opening =>
      change progress.depth + 1 + progress.inChain.toNat ≤ depth + 1
      omega
    | plain => exact bounded
    | branch =>
      rw [Progress.pass, close_eq]
      split <;> exact bounded
    | closing =>
      rw [Progress.pass, close_eq]
      split
      next inside =>
        change progress.depth - 1 + progress.inChain.toNat ≤ depth - 1
        omega
      next outside =>
        split
        next chained =>
          -- The end of the chain is counted, too.
          change progress.depth + 0 ≤ depth - 1
          rw [chained, Bool.toNat_true] at bounded
          omega
        next unchained =>
          rw [Bool.not_eq_true] at unchained
          rw [unchained, Bool.toNat_false] at bounded ⊢
          omega

/-- However lines are nested, no fewer conditionals are open after them than reading counts. -/
theorem counted_le_of_readLines (bounded : progress.depth + progress.inChain.toNat ≤ depth)
    (read : readLines path number progress lines = .ok reached) :
    reached.depth + reached.inChain.toNat ≤ lines.foldl openAfter depth := by
  induction lines generalizing number progress depth with
  | nil => exact Except.ok.inj read ▸ bounded
  | cons line rest ih =>
    obtain ⟨next, stepped, others⟩ := Except.bind_eq_ok_iff.mp read
    exact ih (counted_le_of_step bounded stepped) others

/-- A test of a symbol outside of all conditionals opens a chain. -/
structure OpensChain (lines before : List (List Char)) (line : List Char)
    (after : List (List Char)) : Prop where
  /-- The test stands in one of the lines. -/
  split : lines = before ++ line :: after
  /-- No conditional is open before it. -/
  outside : before.foldl openAfter 0 = 0
  /-- It continues no conditional. -/
  tests : ∃ guard, guard? line = some guard ∧ guard.isElif = false

/-- If a chain is left open, then no case is open in the end just if the last branch of the chain has
none. -/
theorem current_eq_none_iff_of_opensChain (opens : OpensChain lines before line after)
    (single : EachDirect (some 0) Continues after) (left : ¬ IsClosed after)
    (read : readLines path number .start lines = .ok reached) :
    reached.current = none ↔ EndsUntested after := by
  obtain ⟨guard, reads, first⟩ := opens.tests
  rw [opens.split, readLines_append] at read
  obtain ⟨middle, earlier, later⟩ := Except.bind_eq_ok_iff.mp read
  -- Before the test no more is open than there is in the text, which is nothing.
  have counted := counted_le_of_readLines (le_of_eq rfl : Progress.start.depth + _ ≤ 0) earlier
  rw [opens.outside] at counted
  have outside : middle.depth = 0 := by omega
  obtain ⟨next, stepped, others⟩ := Except.bind_eq_ok_iff.mp later
  rw [Progress.step, if_pos outside, reads] at stepped
  obtain ⟨-, patterns, -, rfl⟩ := Progress.openBranch_eq_ok_iff.mp stepped
  rw [current_eq_none_iff ⟨by rw [close_eq]; exact outside, rfl⟩ single left others]
  simp [EndsUntested]

/-! ## Chains that are left open -/

/-- A text whose lines are read although a chain is left open in it is read just if the last branch of
the chain has no case. -/
theorem parse_of_opensChain (opens : OpensChain (Text.lines text.toList) before line after)
    (single : EachDirect (some 0) Continues after) (left : ¬ IsClosed after)
    (read : readLines path 1 .start (Text.lines text.toList) = .ok reached) :
    (EndsUntested after ∧ parse path text = .ok reached.cases.reverse) ∨
      (¬ EndsUntested after ∧ ∃ opened, parse path text = .error (leftOpen path opened)) := by
  rw [← current_eq_none_iff_of_opensChain opens single left read, parse_eq_of_readLines read]
  cases reached.current with
  | none => exact .inl ⟨rfl, rfl⟩
  | some opened => exact .inr ⟨Option.some_ne_none opened, opened, rfl⟩

/-- A chain in which no test opens another one is closed in every text that is read, or its last branch
has no case. A text with a chain that is left open is refused if the last branch of the chain has a
case, though something else may be told of it; if the branch has none, then the text is read as if the
chain was closed. -/
theorem closed_or_endsUntested (path : Path) (text : String)
    (opens : OpensChain (Text.lines text.toList) before line after)
    (single : EachDirect (some 0) Continues after) :
    (∀ cases, parse path text = .ok cases → IsClosed after ∨ EndsUntested after) ∧
      (¬ IsClosed after → ¬ EndsUntested after → Tractable text →
        ∃ failure, parse path text = .error failure ∧ failure.IsAnnotations) ∧
      (¬ IsClosed after → ∀ reached,
        readLines path 1 .start (Text.lines text.toList) = .ok reached →
          (EndsUntested after ∧ parse path text = .ok reached.cases.reverse) ∨
            (¬ EndsUntested after ∧ ∃ opened, parse path text = .error (leftOpen path opened))) := by
  have closed : ∀ cases, parse path text = .ok cases → IsClosed after ∨ EndsUntested after := by
    intro cases parsed
    obtain ⟨reached, read, -⟩ := Except.bind_eq_ok_iff.mp parsed
    by_cases left : IsClosed after
    · exact .inl left
    · rcases parse_of_opensChain opens single left read with ⟨untested, -⟩ | ⟨-, opened, refused⟩
      · exact .inr untested
      · rw [parsed] at refused
        cases refused
  refine ⟨closed, fun left tested tractable => ?_,
    fun left reached read => parse_of_opensChain opens single left read⟩
  rcases (failsOnly_parse tractable).exists_ok_or_error with ⟨cases, parsed⟩ | refused
  · exact absurd (closed cases parsed) (not_or.mpr ⟨left, tested⟩)
  · exact refused

namespace Sample

/-- A text with a chain of three branches, the last one of which has a case and ends inside of another
conditional. -/
def unended : String :=
  "#endif\n#if defined(NCTEST_A) // [\"x\"]\n#if 1\n#else\n#endif\n#else\n" ++
    "#elif defined(DISABLED_NCTEST_B) // [\"y\"]\n#if 1\n#else\n"

/-- The lines after the first one of the chain. -/
def unendedAfter : List (List Char) :=
  ["#if 1".toList, "#else".toList, "#endif".toList, "#else".toList,
    "#elif defined(DISABLED_NCTEST_B) // [\"y\"]".toList, "#if 1".toList, "#else".toList]

/-- A text with a chain of two branches, the last one of which has no case. -/
def untested : String := "#if defined(NCTEST_A) // [\"x\"]\na\n#else\nb\n"

/-- The last branch of this chain. -/
def untestedBranch : Branch := ⟨third.heading, ["b".toList], .plain (by decide) .nil⟩

end Sample

/-- The chain that ends inside of another conditional is left open, and its last branch has a case: so the
text is not read. -/
theorem closed_or_endsUntested_unended :
    OpensChain (Text.lines Sample.unended.toList) ["#endif".toList]
        "#if defined(NCTEST_A) // [\"x\"]".toList Sample.unendedAfter ∧
      EachDirect (some 0) Continues Sample.unendedAfter ∧
      ∀ cases, parse (.ofParts ["a.nc"]) Sample.unended ≠ .ok cases := by
  have opens : OpensChain (Text.lines Sample.unended.toList) ["#endif".toList]
      "#if defined(NCTEST_A) // [\"x\"]".toList Sample.unendedAfter :=
    ⟨by decide +kernel, by decide +kernel,
      ⟨false, "NCTEST_A".toList, some " [\"x\"]".toList⟩, by decide +kernel, rfl⟩
  have single : EachDirect (some 0) Continues Sample.unendedAfter := by decide +kernel
  have left : ¬ IsClosed Sample.unendedAfter := by decide +kernel
  have tested : ¬ EndsUntested Sample.unendedAfter := by decide +kernel
  exact ⟨opens, single, fun cases parsed =>
    ((closed_or_endsUntested _ _ opens single).1 cases parsed).elim left tested⟩

/-- A chain may be left open in a text that is read: its last branch has no case. -/
theorem chain_left_open : ¬ ∀ path text cases, parse path text = .ok cases → cases ≠ [] →
    ∀ before line after, OpensChain (Text.lines text.toList) before line after → IsClosed after := by
  intro always
  have split : Text.lines Sample.untested.toList =
      Sample.first.lines ++ (Sample.untestedBranch.lines ++ []) := by decide +kernel
  have read : parse (.ofParts ["a.nc"]) Sample.untested = .ok [caseOf "NCTEST_A" ["x"] ⟨1, 2⟩] := by
    rw [parse, split, readLines_of_branch Sample.first _ rfl (by decide),
      readLines_of_branch Sample.untestedBranch _ rfl fun _ => rfl]
    rfl
  have opens : OpensChain (Text.lines Sample.untested.toList) []
      "#if defined(NCTEST_A) // [\"x\"]".toList ["a".toList, "#else".toList, "b".toList] :=
    ⟨split, rfl, ⟨false, "NCTEST_A".toList, some " [\"x\"]".toList⟩, by decide +kernel, rfl⟩
  have left : ¬ IsClosed ["a".toList, "#else".toList, "b".toList] := by decide +kernel
  exact left (always _ _ _ read (List.cons_ne_nil _ _) _ _ _ opens)

end NegativeCompile.Guarded

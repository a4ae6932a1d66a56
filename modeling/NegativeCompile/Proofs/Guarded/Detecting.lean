import NegativeCompile.Proofs.Guarded.Nesting

/-! # Detecting guarded fragments

Detection looks for the test of a symbol after any line feed, and reading goes line by line and counts
conditionals. Something is read, be it a mistake or a case, just if a line that opens a branch of a
case stands outside of other conditionals (`parse_eq_nil_iff`). Then the text is also detected, unless
the line follows something else after a line break that is no line feed (`detects_of_holdsGuard`).
The other way round, there is a line that opens a branch of a case if the text is detected, unless a
test is spread over lines or more than a comment follows it (`exists_guard_of_detects`). But all such
lines may stand inside of other conditionals, and then nothing is read (`detects_without_case`). -/

namespace NegativeCompile.Guarded

open Files Text

variable {path : Path} {text : String} {number depth : Nat} {progress next : Progress}
variable {lines : List (List Char)} {line before after : List Char}

/-! ## Lines outside of other conditionals -/

/-- How many conditionals are open after a line if so many were open before it. -/
def openAfter (depth : Nat) (line : List Char) : Nat :=
  match nesting line with
  | .opening => depth + 1
  | .closing => depth - 1
  | _ => depth

/-- Some line opens a branch of a case at a place where no conditional is open, if so many are open
before the lines. -/
def HoldsGuardFrom (depth : Nat) (lines : List (List Char)) : Prop :=
  ∃ before line after, lines = before ++ line :: after ∧ before.foldl openAfter depth = 0 ∧
    (guard? line).isSome = true

/-- Some line opens a branch of a case and stands outside of other conditionals. -/
def HoldsGuard (lines : List (List Char)) : Prop := HoldsGuardFrom 0 lines

/-- The first line is such a line or a later one is. -/
theorem holdsGuardFrom_cons_iff : HoldsGuardFrom depth (line :: lines) ↔
    (depth = 0 ∧ (guard? line).isSome = true) ∨ HoldsGuardFrom (openAfter depth line) lines := by
  constructor
  · rintro ⟨before, found, after, split, outside, opens⟩
    cases before with
    | nil =>
      obtain ⟨rfl, rfl⟩ := List.cons.inj split
      exact .inl ⟨outside, opens⟩
    | cons first rest =>
      obtain ⟨rfl, rfl⟩ := List.cons.inj split
      exact .inr ⟨rest, found, after, rfl, outside, opens⟩
  · rintro (⟨outside, opens⟩ | ⟨before, found, after, rfl, outside, opens⟩)
    · exact ⟨[], line, lines, rfl, outside, opens⟩
    · exact ⟨line :: before, found, after, rfl, outside, opens⟩

/-! ## Reading -/

/-- Outside of chains a line that is not read counts for its nesting only. -/
theorem pass_eq : Progress.pass ⟨depth, false, none, []⟩ number (nesting line) =
    ⟨openAfter depth line, false, none, []⟩ := by
  unfold openAfter
  cases nesting line with
  | opening => rfl
  | branch => simp [Progress.pass]
  | closing => cases depth <;> rfl
  | plain => rfl

/-- A line that opens no branch of a case outside of other conditionals is not read. -/
theorem readLines_cons_unread (unread : ¬ (depth = 0 ∧ (guard? line).isSome = true)) :
    readLines path number ⟨depth, false, none, []⟩ (line :: lines) =
      readLines path (number + 1) ⟨openAfter depth line, false, none, []⟩ lines := by
  -- Either the line opens no branch of a case, or the depth keeps it from being read.
  by_cases outside : depth = 0
  · have unguarded : guard? line = none := by simpa using fun opens => unread ⟨outside, opens⟩
    rw [readLines_cons_of_unguarded unguarded, pass_eq]
  · rw [readLines_cons_of_deep outside, pass_eq]

/-- Nothing is read from lines if none opens a branch of a case outside of other conditionals. -/
theorem readLines_of_not_holdsGuard (nowhere : ¬ HoldsGuardFrom depth lines) :
    readLines path number ⟨depth, false, none, []⟩ lines =
      .ok ⟨lines.foldl openAfter depth, false, none, []⟩ := by
  induction lines generalizing number depth with
  | nil => rfl
  | cons line rest ih =>
    rw [holdsGuardFrom_cons_iff, not_or] at nowhere
    rw [readLines_cons_unread nowhere.1]
    exact ih nowhere.2

/-- A case has been opened. -/
def Progress.Started (progress : Progress) : Prop :=
  progress.current.isSome = true ∨ progress.cases ≠ []

/-- Ending a branch keeps the cases and adds the open one. -/
theorem started_close (started : progress.Started) (last : Nat) :
    (progress.close last).cases ≠ [] := by
  rw [close_eq]
  rcases started with isOpen | read
  · obtain ⟨opened, current⟩ := Option.isSome_iff_exists.mp isOpen
    rw [current]
    exact List.cons_ne_nil _ _
  · exact List.append_ne_nil_of_right_ne_nil _ read

/-- A line that is not read does not make undone that a case has been opened. -/
theorem started_pass (started : progress.Started) (kind : Nesting) :
    (progress.pass number kind).Started := by
  rcases progress.pass_cases number kind with ⟨current, cases⟩ | ⟨-, cases⟩
  · rw [Progress.Started, current, cases]
    exact started
  · rw [Progress.Started, cases]
    exact .inr (started_close started _)

/-- A line that opens a branch of a case opens the case, unless there is a mistake in it. -/
theorem started_of_openBranch {guard : Guard}
    (opened : progress.openBranch path number guard = .ok next) : next.Started := by
  obtain ⟨-, patterns, -, rfl⟩ := Progress.openBranch_eq_ok_iff.mp opened
  exact .inl rfl

/-- No line makes undone that a case has been opened. -/
theorem started_of_step (started : progress.Started)
    (stepped : progress.step path number line = .ok next) : next.Started := by
  rcases progress.step_cases path number line with ⟨guard, -, opens⟩ | passes
  · exact started_of_openBranch (opens.symm.trans stepped)
  · rw [← Except.ok.inj (passes.symm.trans stepped)]
    exact started_pass started _

/-- No lines make undone that a case has been opened. -/
theorem started_of_readLines {reached : Progress} (started : progress.Started)
    (read : readLines path number progress lines = .ok reached) : reached.Started := by
  induction lines generalizing number progress with
  | nil => exact Except.ok.inj read ▸ started
  | cons line rest ih =>
    obtain ⟨next, stepped, others⟩ := Except.bind_eq_ok_iff.mp read
    exact ih (started_of_step started stepped) others

/-- A case is opened, unless there is a mistake, if some line opens a branch of a case outside of other
conditionals. -/
theorem started_of_holdsGuard {reached : Progress} (holds : HoldsGuardFrom depth lines)
    (read : readLines path number ⟨depth, false, none, []⟩ lines = .ok reached) :
    reached.Started := by
  induction lines generalizing number depth with
  | nil =>
    obtain ⟨before, line, after, split, -⟩ := holds
    exact absurd split.symm (List.append_ne_nil_of_right_ne_nil _ (List.cons_ne_nil _ _))
  | cons line rest ih =>
    -- The first such line opens a case; the lines before it change nothing but the depth.
    by_cases first : depth = 0 ∧ (guard? line).isSome = true
    · obtain ⟨rfl, opens⟩ := first
      obtain ⟨guard, reads⟩ := Option.isSome_iff_exists.mp opens
      obtain ⟨next, stepped, others⟩ := Except.bind_eq_ok_iff.mp read
      rw [Progress.step, if_pos rfl, reads] at stepped
      exact started_of_readLines (started_of_openBranch stepped) others
    · rw [readLines_cons_unread first] at read
      exact ih ((holdsGuardFrom_cons_iff.mp holds).resolve_left first) read

/-- Nothing is read from a text, neither a mistake nor a case, just if no line opens a branch of a
case outside of other conditionals. -/
theorem parse_eq_nil_iff : parse path text = .ok [] ↔ ¬ HoldsGuard (Text.lines text.toList) := by
  unfold parse
  constructor
  · intro nothing holds
    obtain ⟨reached, read, result⟩ := Except.bind_eq_ok_iff.mp nothing
    have started := started_of_holdsGuard holds read
    split at result
    · cases result
    next ended =>
      have unread : reached.cases = [] := List.reverse_eq_nil_iff.mp (Except.ok.inj result)
      rcases started with isOpen | read
      · rw [ended] at isOpen
        cases isOpen
      · exact read unread
  · intro nowhere
    rw [Progress.start, readLines_of_not_holdsGuard nowhere]
    rfl

/-! ## Detection -/

/-- A test of a symbol at the start of a line is detected. -/
theorem detectsFrom_of_head? {atLineStart : Bool} (start : atLineStart = true)
    (reads : (head? after).isSome = true) : detectsFrom atLineStart after = true := by
  cases after with
  | nil => cases reads
  | cons c rest => rw [detectsFrom, start, reads, Bool.true_and, Bool.true_or]

/-- Whatever stands before a line feed, a test of a symbol after it is detected. -/
theorem detectsFrom_after_feed (atLineStart : Bool) (reads : (head? after).isSome = true) :
    detectsFrom atLineStart (before ++ '\n' :: after) = true := by
  induction before generalizing atLineStart with
  | nil =>
    have fed : ('\n' == '\n') = true := rfl
    rw [List.nil_append, detectsFrom, detectsFrom_of_head? fed reads, Bool.or_true]
  | cons c rest ih => rw [List.cons_append, detectsFrom, ih, Bool.or_true]

/-- Blanks before a test of a symbol do not matter. -/
theorem head?_after_blanks (blanks : ∀ c ∈ before, isBlank c = true) :
    head? (before ++ after) = head? after := by
  have trimmed : trimLeft (before ++ after) = trimLeft after := List.dropWhile_append_of_pos blanks
  unfold head? directive?
  rw [trimmed]

/-- Only blanks stand in a text after its last line feed. -/
def OnlyBlanksSinceFeed (text : List Char) : Prop :=
  ∀ c ∈ text.reverse.takeWhile (· ≠ '\n'), isBlank c = true

/-- Every line that opens a branch of a case starts, blanks apart, the text or follows a line feed. -/
def GuardsFollowFeeds (text : List Char) : Prop :=
  ∀ before line after, text = before ++ line ++ after → EndsLine before →
    (guard? line).isSome = true → OnlyBlanksSinceFeed before

/-- A test of a symbol that follows a line feed is detected. -/
theorem detectsFrom_of_onlyBlanks (blanks : OnlyBlanksSinceFeed before)
    (reads : (head? after).isSome = true) : detectsFrom true (before ++ after) = true := by
  have split := List.takeWhile_append_dropWhile (p := fun c => decide (c ≠ '\n')) (l := before.reverse)
  have since : ∀ c ∈ (before.reverse.takeWhile (· ≠ '\n')).reverse, isBlank c = true :=
    fun c member => blanks c (List.mem_reverse.mp member)
  have starts : (head? ((before.reverse.takeWhile (· ≠ '\n')).reverse ++ after)).isSome = true := by
    rw [head?_after_blanks since]
    exact reads
  -- Detection starts at the last line feed before the test, or at the start of the text.
  cases earlier : before.reverse.dropWhile (· ≠ '\n') with
  | nil =>
    rw [earlier, List.append_nil] at split
    rw [split, List.reverse_reverse] at starts
    exact detectsFrom_of_head? rfl starts
  | cons c rest =>
    have fed : c = '\n' := by
      have head := List.head?_dropWhile_not (fun c => decide (c ≠ '\n')) before.reverse
      rw [earlier] at head
      simpa using head
    have whole : before = rest.reverse ++ '\n' :: (before.reverse.takeWhile (· ≠ '\n')).reverse := by
      rw [earlier, fed] at split
      have back := congrArg List.reverse split
      rw [List.reverse_reverse, List.reverse_append, List.reverse_cons, List.append_assoc] at back
      exact back.symm
    rw [whole, List.append_assoc]
    exact detectsFrom_after_feed true starts

/-- A text with a line that opens a branch of a case is detected, if such lines follow line feeds. -/
theorem detects_of_holdsGuard (follow : GuardsFollowFeeds text.toList)
    (holds : HoldsGuard (Text.lines text.toList)) : detects text = true := by
  obtain ⟨earlier, line, later, split, -, opens⟩ := holds
  have member : line ∈ Text.lines text.toList := by
    rw [split]
    exact List.mem_append_right _ List.mem_cons_self
  obtain ⟨-, before, after, whole, ends⟩ := exists_context_of_mem_lines member
  obtain ⟨guard, reads⟩ := Option.isSome_iff_exists.mp opens
  obtain ⟨rest, starts⟩ := head?_of_guard? reads
  rw [detects, whole, List.append_assoc]
  refine detectsFrom_of_onlyBlanks (follow before line after whole ends opens) ?_
  rw [head?_append starts]
  rfl

/-- Lines follow line feeds if there are no other line breaks. -/
theorem guardsFollowFeeds_of_feeds {text : List Char}
    (feeds : ∀ c ∈ text, isLineBreak c = true → c = '\n') : GuardsFollowFeeds text := by
  rintro before line after rfl ends - c member
  rcases ends with rfl | ⟨start, last, rfl, breaks⟩
  · cases member
  · have fed : last = '\n' := feeds last (by simp) breaks
    rw [List.reverse_append, fed] at member
    cases member

/-- A text ends at a place where detection looks for a line: it is empty or ends in a line feed. -/
def EndsFeed (text : List Char) : Prop := text = [] ∨ ∃ start, text = start ++ ['\n']

/-- What is detected is the test of a symbol at the start of the text or after a line feed. -/
theorem exists_head?_of_detectsFrom {atLineStart : Bool} {text : List Char}
    (detected : detectsFrom atLineStart text = true) :
    ∃ before after, text = before ++ after ∧ (head? after).isSome = true ∧
      ((before = [] ∧ atLineStart = true) ∨ ∃ start, before = start ++ ['\n']) := by
  induction text generalizing atLineStart with
  | nil => cases detected
  | cons c rest ih =>
    rw [detectsFrom, Bool.or_eq_true, Bool.and_eq_true] at detected
    rcases detected with ⟨start, reads⟩ | later
    · exact ⟨[], c :: rest, rfl, reads, .inl ⟨rfl, start⟩⟩
    · obtain ⟨before, after, rfl, reads, place⟩ := ih later
      refine ⟨c :: before, after, rfl, reads, .inr ?_⟩
      rcases place with ⟨rfl, fed⟩ | ⟨start, rfl⟩
      · exact ⟨[], by rw [eq_of_beq fed]; rfl⟩
      · exact ⟨c :: start, rfl⟩

/-- Wherever the test of a symbol is detected, the line on which it stands opens a branch of a case:
the test is not spread over lines, and nothing but a comment follows it. -/
def TestsAreGuards (text : List Char) : Prop :=
  ∀ before after, text = before ++ after → EndsFeed before → (head? after).isSome = true →
    ∃ line rest, Text.lines (trimLeft after) = line :: rest ∧ (guard? line).isSome = true

/-- Blanks before a line do not matter for whether it opens a branch of a case. -/
theorem guard?_after_blanks (blanks : ∀ c ∈ before, isBlank c = true) :
    guard? (before ++ line) = guard? line := by
  rw [guard?, guard?, head?_after_blanks blanks]

/-- Only blanks stand before a test in its line if it was detected after blanks. -/
theorem blanks_of_lineStart {blanks : List Char} (ends : EndsFeed before)
    (blank : ∀ c ∈ blanks, isBlank c = true) :
    ∀ c ∈ lineStart (before ++ blanks), isBlank c = true := by
  intro c member
  rw [lineStart, List.mem_reverse, List.reverse_append] at member
  have feedBreaks : (!isLineBreak '\n') = false := by decide
  have within : c ∈ blanks.reverse := by
    rcases ends with rfl | ⟨start, rfl⟩
    · simpa using (List.takeWhile_prefix _).subset member
    · rw [List.reverse_append, List.reverse_singleton, List.singleton_append,
        takeWhile_append_cons_of_neg feedBreaks] at member
      exact (List.takeWhile_prefix _).subset member
  exact blank c (List.mem_reverse.mp within)

/-- If a text is detected and wherever that is there are whole lines that open branches of cases, then
there is such a line. -/
theorem exists_guard_of_detects (whole : TestsAreGuards text.toList) (detected : detects text = true) :
    ∃ line ∈ Text.lines text.toList, (guard? line).isSome = true := by
  obtain ⟨before, after, split, reads, place⟩ := exists_head?_of_detectsFrom detected
  have ends : EndsFeed before := place.imp_left And.left
  obtain ⟨line, rest, first, opens⟩ := whole before after split ends reads
  -- The line goes on from the blanks before the hash sign, which stand in the same line.
  have blank : ∀ c ∈ after.takeWhile isBlank, isBlank c = true := fun c member =>
    List.mem_takeWhile_imp member
  have regroup : text.toList = (before ++ after.takeWhile isBlank) ++ trimLeft after := by
    rw [split, List.append_assoc, trimLeft, List.takeWhile_append_dropWhile]
  have starts : ∀ c, (trimLeft after).head? = some c → isLineBreak c = false := by
    intro c head
    have unblank : isBlank c = false := by
      have kept := List.head?_dropWhile_not isBlank after
      rw [trimLeft] at head
      rw [head] at kept
      simpa using kept
    exact Bool.eq_false_iff.mpr fun breaks => by
      rw [isBlank_of_isLineBreak breaks] at unblank
      cases unblank
  refine ⟨_, regroup ▸ lineStart_append_mem_lines starts first, ?_⟩
  rw [guard?_after_blanks (blanks_of_lineStart ends blank)]
  exact opens

/-! ## Agreement -/

/-- Something is found in a text at a path: a mistake in its annotations or a case. -/
def Finds (path : Path) (text : String) : Prop :=
  (∃ line reason, parse path text = .error (.annotations path line reason)) ∨
    ∃ testCase rest, parse path text = .ok (testCase :: rest)

namespace Sample

/-- A text with one case. -/
def single : String := "#if defined(NCTEST_A) // [\"x\"]\n#endif\n"

/-- The chain that the text is. -/
def singleChain : Chain := ⟨⟨first.heading, [], .nil⟩, [], "#endif".toList, rfl, nofun, closes⟩

/-- The only test in the text with one case stands on a whole line. -/
theorem testsAreGuards_single : TestsAreGuards single.toList := by
  have each : ∀ start ≤ single.toList.length, (head? (single.toList.drop start)).isSome = true →
      ∃ line ∈ (Text.lines (trimLeft (single.toList.drop start))).head?,
        (guard? line).isSome = true := by decide +kernel
  rintro before after split - reads
  have rest : single.toList.drop before.length = after := by rw [split, List.drop_left]
  have within : before.length ≤ single.toList.length := by
    rw [split, List.length_append]
    exact Nat.le_add_right _ _
  obtain ⟨line, first, opens⟩ := each before.length within (by rw [rest]; exact reads)
  rw [rest] at first
  obtain ⟨others, lines⟩ := List.head?_eq_some_iff.mp first
  exact ⟨line, others, lines, opens⟩

/-- A text with a test inside of another conditional. -/
def inner : String := "#if 1\n#if defined(NCTEST_A) // [\"x\"]\n#endif\n#endif\n"

end Sample

end NegativeCompile.Guarded

import Mathlib
import NegativeCompile.Proofs.Guarded.Headings
import NegativeCompile.Proofs.Text.Lines

/-! # Nested conditionals

Texts in which conditionals are well nested, as a grammar: conditionals of any depth (`Balanced`),
lines without branches of cases (`Loose`), chains of branches (`Chain`) and whole texts (`Section`).
The lines of such a text are read one by one with a depth, a mark for an open chain and the case that
is open; what comes out are the cases of the branches that stand outside of other conditionals, each
with the lines up to the next heading (`parse_eq_cases`). -/

namespace NegativeCompile.Guarded

open Files Text

variable {path : Path} {number : Nat} {progress : Progress} {content : List (List Char)}

/-! ## Steps -/

/-- Reading some lines and then others is reading all of them. -/
theorem readLines_append (first second : List (List Char)) :
    readLines path number progress (first ++ second) =
      readLines path number progress first >>= fun reached =>
        readLines path (number + first.length) reached second := by
  induction first generalizing number progress with
  | nil => rfl
  | cons line rest ih =>
    rw [List.cons_append, readLines, readLines]
    cases progress.step path number line with
    | error failure => rfl
    | ok next =>
      change readLines path (number + 1) next (rest ++ second) = _
      rw [ih, List.length_cons, Nat.add_right_comm, Nat.add_assoc]
      rfl

/-- Inside of another conditional a line counts for its nesting only. -/
theorem readLines_cons_of_deep {line : List Char} (deep : progress.depth ≠ 0)
    (rest : List (List Char)) :
    readLines path number progress (line :: rest) =
      readLines path (number + 1) (progress.pass number (nesting line)) rest := by
  rw [readLines, Progress.step, if_neg deep]
  rfl

/-- A line that opens no branch of a case counts for its nesting only. -/
theorem readLines_cons_of_unguarded {line : List Char} (unguarded : guard? line = none)
    (rest : List (List Char)) :
    readLines path number progress (line :: rest) =
      readLines path (number + 1) (progress.pass number (nesting line)) rest := by
  rw [readLines, Progress.step, unguarded, ite_self]
  rfl

/-- The case that is open when a branch ends, if there is one, is added to the cases. -/
def ended (current : Option OpenCase) (last : Nat) : List TestCase :=
  (current.map (·.finish last)).toList

/-- Ending a branch adds its case, if it has one. -/
theorem close_eq (last : Nat) : progress.close last =
    { progress with current := none, cases := ended progress.current last ++ progress.cases } := by
  obtain ⟨depth, inChain, current, cases⟩ := progress
  cases current <;> rfl

/-- If nothing is read from the lines inside of a conditional, nothing is read from its end. -/
theorem readLines_inside {inside rest : List (List Char)} {closing : List Char}
    (unread : readLines path number { progress with depth := progress.depth + 1 } inside =
      .ok { progress with depth := progress.depth + 1 })
    (closes : nesting closing = .closing) :
    readLines path number { progress with depth := progress.depth + 1 } (inside ++ closing :: rest) =
      readLines path (number + inside.length + 1) progress rest := by
  rw [readLines_append, unread]
  change readLines path _ { progress with depth := progress.depth + 1 } (closing :: rest) = _
  rw [readLines_cons_of_deep (Nat.succ_ne_zero _), closes]
  rfl

/-! ## Texts -/

/-- What is told of a text that ends in the branch of a case. -/
def leftOpen (path : Path) (opened : OpenCase) : Failure :=
  .annotations path (some opened.start) s!"guard '{opened.symbol}' is never closed with #endif"

/-- What comes of a text whose lines are read: its cases, unless a case is open in the end. -/
theorem parse_eq_of_readLines {text : String} {reached : Progress}
    (read : readLines path 1 .start (Text.lines text.toList) = .ok reached) :
    parse path text = match reached.current with
      | none => .ok reached.cases.reverse
      | some opened => .error (leftOpen path opened) := by
  rw [parse, read, Except.ok_bind]
  cases reached.current <;> rfl

/-! ## Conditionals of any depth -/

/-- Lines in which conditionals are opened and closed in pairs. Tests of symbols open conditionals and
start branches like any other lines. -/
inductive Balanced : List (List Char) → Prop where
  /-- Nothing. -/
  | nil : Balanced []
  /-- A plain line before balanced ones. -/
  | plain {line : List Char} {rest : List (List Char)} (plain : nesting line = .plain)
      (after : Balanced rest) : Balanced (line :: rest)
  /-- A line that starts another branch before balanced ones. -/
  | branch {line : List Char} {rest : List (List Char)} (starts : nesting line = .branch)
      (after : Balanced rest) : Balanced (line :: rest)
  /-- A conditional with balanced lines in it, before balanced ones. -/
  | conditional {opening closing : List Char} {inside rest : List (List Char)}
      (opens : nesting opening = .opening) (within : Balanced inside)
      (closes : nesting closing = .closing) (after : Balanced rest) :
      Balanced (opening :: inside ++ closing :: rest)

/-- Nothing is read from balanced lines inside of another conditional. -/
theorem readLines_of_balanced (balanced : Balanced content) (deep : progress.depth ≠ 0) :
    readLines path number progress content = .ok progress := by
  -- Induction on the grammar: inside of another conditional every line is only counted, so all that
  -- has to be seen is that a conditional leaves the depth as it was.
  induction balanced generalizing number progress with
  | nil => rfl
  | plain plain _ ih =>
    rw [readLines_cons_of_deep deep, plain]
    exact ih deep
  | branch starts _ ih =>
    -- Another branch matters at depth zero only.
    have kept : progress.pass number .branch = progress := by
      simp [Progress.pass, deep]
    rw [readLines_cons_of_deep deep, starts, kept]
    exact ih deep
  | conditional opens _ closes _ ihInside ih =>
    rw [List.cons_append, readLines_cons_of_deep deep, opens]
    exact (readLines_inside (ihInside (Nat.succ_ne_zero _)) closes).trans (ih deep)

/-! ## Lines without branches of cases -/

/-- Plain lines and whole conditionals that no test of a symbol opens. -/
inductive Loose : List (List Char) → Prop where
  /-- Nothing. -/
  | nil : Loose []
  /-- A plain line before loose ones. -/
  | plain {line : List Char} {rest : List (List Char)} (plain : nesting line = .plain)
      (after : Loose rest) : Loose (line :: rest)
  /-- A conditional that no test of a symbol opens, with balanced lines in it, before loose ones. -/
  | conditional {opening closing : List Char} {inside rest : List (List Char)}
      (unguarded : guard? opening = none) (opens : nesting opening = .opening)
      (within : Balanced inside) (closes : nesting closing = .closing) (after : Loose rest) :
      Loose (opening :: inside ++ closing :: rest)

/-- Nothing is read from loose lines. -/
theorem readLines_of_loose (loose : Loose content) :
    readLines path number progress content = .ok progress := by
  induction loose generalizing number with
  | nil => rfl
  | @plain line rest plain _ ih =>
    have unguarded : guard? line = none := guard?_eq_none (by simp [plain]) (by simp [plain])
    rw [readLines_cons_of_unguarded unguarded, plain]
    exact ih
  | conditional unguarded opens within closes _ ih =>
    rw [List.cons_append, readLines_cons_of_unguarded unguarded, opens]
    have deep : { progress with depth := progress.depth + 1 }.depth ≠ 0 := Nat.succ_ne_zero _
    exact (readLines_inside (readLines_of_balanced within deep) closes).trans ih

/-! ## Chains of branches -/

/-- The case of a symbol that lists patterns and stands for some lines. -/
def caseOf (symbol : String) (patterns : List String) (span : Span) : TestCase where
  name := caseName symbol
  span := span
  expectations := patterns.map fun pattern => ⟨caseName symbol, pattern, true, none, .error⟩
  enabled := !isDisabled symbol
  guard := some (caseName symbol)

/-- What a branch of a chain starts with. -/
inductive Heading where
  /-- The test of the symbol of a case, with the patterns that it lists. -/
  | test (line : List Char) (guard : Guard) (patterns : List String)
      (reads : guard? line = some guard) (lists : Lists guard.comment patterns)
  /-- Another line that starts a branch. -/
  | other (line : List Char) (unguarded : guard? line = none) (starts : nesting line = .branch)

namespace Heading

/-- The line. -/
def line : Heading → List Char
  | test line _ _ _ _ => line
  | other line _ _ => line

/-- Whether a heading opens a chain: it is a test that continues no conditional. -/
def opens : Heading → Bool
  | test _ guard _ _ _ => !guard.isElif
  | other _ _ _ => false

/-- The case of a branch with this heading that stands for some lines, if it has one. -/
def case? (span : Span) : Heading → Option TestCase
  | test _ guard patterns _ _ => some (caseOf (String.ofList guard.symbol) patterns span)
  | other _ _ _ => none

/-- The case that is open in the branch. -/
def opened (number : Nat) : Heading → Option OpenCase
  | test _ guard patterns _ _ => some ⟨String.ofList guard.symbol, number, patterns⟩
  | other _ _ _ => none

end Heading

/-- A branch of a chain: its heading and the lines up to the next one. -/
structure Branch where
  /-- The heading. -/
  heading : Heading
  /-- The lines after it. -/
  body : List (List Char)
  /-- These hold no branches of cases. -/
  loose : Loose body

namespace Branch

/-- The lines of a branch. -/
def lines (branch : Branch) : List (List Char) := branch.heading.line :: branch.body

/-- The case of a branch whose heading has a number: it stands for all lines of the branch. -/
def case? (number : Nat) (branch : Branch) : Option TestCase :=
  branch.heading.case? ⟨number, number + branch.body.length⟩

/-- The cases of branches in a row from a number on. -/
def cases (number : Nat) : List Branch → List TestCase
  | [] => []
  | branch :: rest => (branch.case? number).toList ++ cases (number + branch.lines.length) rest

end Branch

/-- A chain of branches: a test of a symbol opens it, and tests or other lines continue it. -/
structure Chain where
  /-- The branch that opens the chain. -/
  first : Branch
  /-- The branches that continue it. -/
  others : List Branch
  /-- The line that closes it. -/
  closing : List Char
  /-- The chain is opened by a test. -/
  opens : first.heading.opens = true
  /-- No test opens another chain in it. -/
  continues : ∀ branch ∈ others, branch.heading.opens = false
  /-- The chain is closed. -/
  closes : nesting closing = .closing

/-- The lines of a chain. -/
def Chain.lines (chain : Chain) : List (List Char) :=
  (chain.first :: chain.others).flatMap Branch.lines ++ [chain.closing]

/-- The cases of a chain from a number on. -/
def Chain.cases (number : Nat) (chain : Chain) : List TestCase :=
  Branch.cases number (chain.first :: chain.others)

/-- A part of a text in which conditionals are well nested. -/
inductive Section where
  /-- Lines without branches of cases. -/
  | plain (lines : List (List Char)) (loose : Loose lines)
  /-- A chain. -/
  | chain (chain : Chain)

namespace Section

/-- The lines of a part. -/
def lines : Section → List (List Char)
  | plain lines _ => lines
  | chain whole => whole.lines

/-- The cases of parts in a row from a number on. -/
def cases (number : Nat) : List Section → List TestCase
  | [] => []
  | plain lines _ :: rest => cases (number + lines.length) rest
  | chain whole :: rest => whole.cases number ++ cases (number + whole.lines.length) rest

end Section

/-- A heading of a chain ends the branch before it and opens a case if it tests a symbol; a line that
opens no chain must continue one. -/
theorem step_of_heading (heading : Heading) (outside : progress.depth = 0)
    (continues : heading.opens = false → progress.inChain = true) :
    progress.step path number heading.line = .ok
      ⟨0, true, heading.opened number, ended progress.current (number - 1) ++ progress.cases⟩ := by
  cases heading with
  | test line guard patterns reads lists =>
    -- A test that continues a conditional is a mistake outside of chains, but here a chain is open.
    have entered : guard.isElif = true → progress.inChain = true := by
      intro isElif
      exact continues (by rw [Heading.opens, isElif]; rfl)
    change progress.step path number line = _
    rw [Progress.step, if_pos outside, reads]
    dsimp only
    rw [Progress.openBranch_eq_ok_iff]
    refine ⟨entered, patterns, readPatterns_eq_ok_iff.mpr lists, ?_⟩
    rw [close_eq, outside]
    rfl
  | other line unguarded starts =>
    have entered := continues rfl
    change progress.step path number line = _
    rw [Progress.step, unguarded, ite_self, starts]
    simp only [Progress.pass, outside, entered, close_eq]
    rfl

/-- What is read from a branch: its heading, and nothing from its lines. -/
theorem readLines_of_branch (branch : Branch) (rest : List (List Char))
    (outside : progress.depth = 0)
    (continues : branch.heading.opens = false → progress.inChain = true) :
    readLines path number progress (branch.lines ++ rest) =
      readLines path (number + branch.lines.length)
        ⟨0, true, branch.heading.opened number,
          ended progress.current (number - 1) ++ progress.cases⟩ rest := by
  rw [Branch.lines, List.cons_append, readLines, step_of_heading branch.heading outside continues]
  change readLines path (number + 1) _ (branch.body ++ rest) = _
  rw [readLines_append, readLines_of_loose branch.loose, List.length_cons, Nat.add_right_comm,
    Nat.add_assoc]
  rfl

/-- A case that ends with the lines of its branch is the case of the branch. -/
theorem ended_opened (branch : Branch) :
    ended (branch.heading.opened number) (number + branch.lines.length - 1) =
      (branch.case? number).toList := by
  obtain ⟨heading, body, loose⟩ := branch
  cases heading with
  | test line guard patterns reads lists =>
    -- The line before the next heading is the last one of the branch, which is not before its first.
    have last : number + (body.length + 1) - 1 = number + body.length := rfl
    have latest : max (number : Int) ((number + body.length : Nat) : Int) =
        (number : Int) + body.length := by omega
    simp only [ended, Heading.opened, Branch.lines, List.length_cons, last, Option.map_some,
      OpenCase.finish, latest]
    rfl
  | other => rfl

/-- The rest of a chain adds the case that is open and those of the other branches. -/
theorem readLines_of_branches {branches : List Branch} {closing : List Char}
    (continued : ∀ branch ∈ branches, branch.heading.opens = false)
    (closes : nesting closing = .closing) (current : Option OpenCase) (cases : List TestCase) :
    readLines path number ⟨0, true, current, cases⟩
        (branches.flatMap Branch.lines ++ [closing]) =
      .ok ⟨0, false, none, (Branch.cases number branches).reverse ++
        (ended current (number - 1) ++ cases)⟩ := by
  -- Induction on the branches: each heading adds the case before it and leaves its own one open.
  induction branches generalizing number current cases with
  | nil =>
    have unguarded : guard? closing = none := guard?_eq_none (by simp [closes]) (by simp [closes])
    rw [List.flatMap_nil, List.nil_append, readLines_cons_of_unguarded unguarded, closes]
    simp only [Progress.pass, close_eq]
    rfl
  | cons branch rest ih =>
    rw [List.flatMap_cons, List.append_assoc, readLines_of_branch branch _ rfl fun _ => rfl,
      ih fun other member => continued other (List.mem_cons_of_mem _ member), ended_opened,
      Branch.cases, List.reverse_append, List.append_assoc]
    cases branch.case? number <;> rfl

/-- What is read from a chain are the cases of its branches. -/
theorem readLines_of_chain (chain : Chain) (cases : List TestCase) :
    readLines path number ⟨0, false, none, cases⟩ chain.lines =
      .ok ⟨0, false, none, (chain.cases number).reverse ++ cases⟩ := by
  have opened : chain.first.heading.opens = false → false = true := fun closed => by
    rw [chain.opens] at closed
    cases closed
  rw [Chain.lines, List.flatMap_cons, List.append_assoc,
    readLines_of_branch chain.first _ rfl opened, readLines_of_branches chain.continues chain.closes,
    ended_opened, Chain.cases, Branch.cases, List.reverse_append, List.append_assoc]
  cases chain.first.case? number <;> rfl

/-- What is read from parts in a row are the cases of the chains among them. -/
theorem readLines_of_sections (sections : List Section) (cases : List TestCase) :
    readLines path number ⟨0, false, none, cases⟩ (sections.flatMap Section.lines) =
      .ok ⟨0, false, none, (Section.cases number sections).reverse ++ cases⟩ := by
  induction sections generalizing number cases with
  | nil => rfl
  | cons part rest ih =>
    rw [List.flatMap_cons, readLines_append]
    cases part with
    | plain lines loose =>
      rw [Section.lines, readLines_of_loose loose]
      exact ih cases
    | chain whole =>
      rw [Section.lines, readLines_of_chain, Section.cases, List.reverse_append, List.append_assoc]
      exact ih _

/-- From a text in which conditionals are well nested, just the cases of the branches of its chains
are read, in source order: one for each test of a symbol that starts a branch, for the lines from the
test to the one before the next heading or the end of the chain. -/
theorem parse_eq_cases (path : Path) (text : String) (sections : List Section)
    (nested : Text.lines text.toList = sections.flatMap Section.lines) :
    parse path text = .ok (Section.cases 1 sections) := by
  have read : readLines path 1 .start (Text.lines text.toList) =
      .ok ⟨0, false, none, (Section.cases 1 sections).reverse ++ []⟩ := by
    rw [nested]
    exact readLines_of_sections sections []
  rw [parse, read]
  change Except.ok ((Section.cases 1 sections).reverse ++ []).reverse = _
  rw [List.append_nil, List.reverse_reverse]

namespace Sample

/-- A text with a test inside of another conditional, and a chain of two cases and another branch. -/
def text : String :=
  "#ifdef X\n#if defined(NCTEST_N) // [\"n\"]\n#endif\n#endif\n" ++
    "#if defined(NCTEST_A) // [\"x\"]\na\n" ++
    "#elif defined(DISABLED_NCTEST_B) // [\"y\"]\n#if 1\n#else\n#endif\n" ++
    "#else\nc\n#endif\n"

theorem lists_x : Lists (some " [\"x\"]".toList) ["x"] :=
  readPatterns_eq_ok_iff.mp (Except.eq_ok_of_toOption (by cbv) :
    readPatterns (.ofParts []) 5 "NCTEST_A" (some " [\"x\"]".toList) = .ok ["x"])

theorem lists_y : Lists (some " [\"y\"]".toList) ["y"] :=
  readPatterns_eq_ok_iff.mp (Except.eq_ok_of_toOption (by cbv) :
    readPatterns (.ofParts []) 7 "DISABLED_NCTEST_B" (some " [\"y\"]".toList) = .ok ["y"])

theorem closes : nesting "#endif".toList = .closing := by decide +kernel

/-- The conditional before the chain holds a test. -/
theorem loose_before : Loose ("#ifdef X".toList ::
    ("#if defined(NCTEST_N) // [\"n\"]".toList :: [] ++ ["#endif".toList]) ++ ["#endif".toList]) :=
  .conditional (by decide +kernel) (by decide +kernel)
    (.conditional (by decide +kernel) .nil closes .nil) closes .nil

/-- The second branch holds a conditional with two branches. -/
theorem loose_second : Loose ("#if 1".toList :: ["#else".toList] ++ ["#endif".toList]) :=
  .conditional (by decide +kernel) (by decide +kernel) (.branch (by decide +kernel) .nil) closes .nil

/-- The branch of the first case. -/
def first : Branch where
  heading := .test "#if defined(NCTEST_A) // [\"x\"]".toList
    ⟨false, "NCTEST_A".toList, some " [\"x\"]".toList⟩ ["x"] (by decide +kernel) lists_x
  body := ["a".toList]
  loose := .plain (by decide) .nil

/-- The branch of the second case. -/
def second : Branch where
  heading := .test "#elif defined(DISABLED_NCTEST_B) // [\"y\"]".toList
    ⟨true, "DISABLED_NCTEST_B".toList, some " [\"y\"]".toList⟩ ["y"] (by decide +kernel) lists_y
  body := _
  loose := loose_second

/-- The branch without a case. -/
def third : Branch where
  heading := .other "#else".toList (by decide +kernel) (by decide +kernel)
  body := ["c".toList]
  loose := .plain (by decide) .nil

/-- The parts of the text. -/
def sections : List Section :=
  [.plain _ loose_before, .chain ⟨first, [second, third], "#endif".toList, rfl,
    List.forall_mem_cons.mpr ⟨rfl, List.forall_mem_singleton.mpr rfl⟩, closes⟩]

end Sample

/-- The test inside of another conditional gives no case, and both cases of the chain stand for the
lines of their branches. -/
theorem parse_nested_sample :
    Text.lines Sample.text.toList = Sample.sections.flatMap Section.lines ∧
      parse (.ofParts ["a.nc"]) Sample.text =
        .ok [caseOf "NCTEST_A" ["x"] ⟨5, 6⟩, caseOf "DISABLED_NCTEST_B" ["y"] ⟨7, 10⟩] := by
  have nested : Text.lines Sample.text.toList = Sample.sections.flatMap Section.lines := by
    decide +kernel
  exact ⟨nested, parse_eq_cases (.ofParts ["a.nc"]) Sample.text Sample.sections nested⟩

end NegativeCompile.Guarded

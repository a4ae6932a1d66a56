import NegativeCompile.Proofs.Verdict.LiningUp
import NegativeCompile.Proofs.Diagnostic.Rendered

/-! # Verdicts and the order of lines

A compiler may print its lines in any order: outputs whose lines are the same but for their order are
interchangeable (`interchangeable_of_perm`). Lines are read one by one, so the diagnostics are the same
but for their order, and what a compiler says when it breaks down stands within a line. Exact verdicts
ask only which diagnostics there are. The one thing that depends on the order is how many diagnostics an
expectation is compared with: those after the first one that meets it are not looked at. So if looking
for a pattern in one of them has no answer, there are verdicts in one order and none in the other
(`verdict_lost_by_order`). -/

namespace NegativeCompile

open Files Text

/-! ## Diagnostics -/

namespace Diagnostic

variable {lines others : List (List Char)} {line : List Char} {diagnostics : List Diagnostic}

/-- The diagnostic that a line is read as. -/
def ofLine? (line : List Char) : Option Diagnostic :=
  match readShape (trimRight line) with
  | none => none
  | some shape => (ofShape shape).toOption

/-- A line can be read: it has not the shape of a diagnostic, or it is one. -/
def IsReadable (line : List Char) : Prop :=
  readShape (trimRight line) = none ∨ ∃ diagnostic, ReadsAs line diagnostic

/-- Lines are read one by one. -/
theorem ofLines_eq_ok_iff : ofLines lines = .ok diagnostics ↔
    (∀ line ∈ lines, IsReadable line) ∧ diagnostics = lines.filterMap ofLine? := by
  induction lines generalizing diagnostics with
  | nil => simp [ofLines, eq_comm]
  | cons line rest ih =>
    rw [ofLines, List.forall_mem_cons, List.filterMap_cons, ofLine?]
    cases shaped : readShape (trimRight line) with
    | none =>
      -- The line has not the shape of a diagnostic and is passed over.
      have readable : IsReadable line := .inl shaped
      rw [and_iff_right readable]
      exact ih
    | some shape =>
      dsimp only
      cases given : ofShape shape with
      | error problem =>
        -- The line has the shape of a diagnostic and is none, so neither side holds.
        have unreadable : ¬ IsReadable line := by
          rintro (plain | ⟨diagnostic, again, reshaped, read⟩)
          · rw [shaped] at plain
            cases plain
          · cases shaped.symm.trans reshaped
            cases given.symm.trans read
        constructor
        · intro read
          cases read
        · intro all
          exact absurd all.1.1 unreadable
      | ok first =>
        have readable : IsReadable line := .inr ⟨first, shape, shaped, given⟩
        rw [and_iff_right readable, Except.ok_bind]
        constructor
        · intro read
          obtain ⟨tail, others, equal⟩ := Except.bind_eq_ok_iff.mp read
          obtain ⟨all, rfl⟩ := ih.mp others
          exact ⟨all, (Except.ok.inj equal).symm⟩
        · rintro ⟨all, rfl⟩
          exact Except.bind_eq_ok_iff.mpr ⟨_, ih.mpr ⟨all, rfl⟩, rfl⟩

/-- Lines in another order give the same diagnostics in another order. -/
theorem exists_ofLines_of_perm (order : lines.Perm others) (read : ofLines lines = .ok diagnostics) :
    ∃ reordered, ofLines others = .ok reordered ∧ diagnostics.Perm reordered := by
  obtain ⟨readable, rfl⟩ := ofLines_eq_ok_iff.mp read
  refine ⟨others.filterMap ofLine?, ofLines_eq_ok_iff.mpr ⟨fun line member => ?_, rfl⟩,
    order.filterMap ofLine?⟩
  exact readable line (order.mem_iff.mpr member)

/-- A text says that the compiler broke down just if a line of it does. -/
theorem containsString_marker_iff {marker : String} (known : marker ∈ crashMarkers) (text : String) :
    containsString text marker = true ↔ ∃ line ∈ Text.lines text.toList, marker.toList <:+: line := by
  obtain ⟨unempty, unbroken⟩ := unbroken_of_mem_crashMarkers known
  rw [containsString, occursIn_iff]
  constructor
  · exact exists_line_of_isInfix unempty unbroken
  · rintro ⟨line, listed, within⟩
    obtain ⟨-, before, after, split, -⟩ := exists_context_of_mem_lines listed
    rw [split]
    exact within.trans ⟨before, after, rfl⟩

/-- Whether a compiler broke down does not depend on the order of the lines. -/
theorem looksLikeCrash_of_perm {text other : String} (code : Option Int)
    (order : (Text.lines text.toList).Perm (Text.lines other.toList)) :
    looksLikeCrash code text = looksLikeCrash code other := by
  have marked : crashMarkers.any (containsString text) = crashMarkers.any (containsString other) := by
    rw [Bool.eq_iff_iff, List.any_eq_true, List.any_eq_true]
    refine exists_congr fun marker => and_congr_right fun known => ?_
    rw [containsString_marker_iff known, containsString_marker_iff known]
    simp only [order.mem_iff]
  rw [looksLikeCrash, looksLikeCrash, marked]

end Diagnostic

/-! ## Verdicts -/

namespace Verdict

variable {surroundings : Surroundings} {workdir : Option Path} {fragment : Fragment}
variable {output reordered : CompileOutput} {diagnostics others : List Diagnostic}
variable {expectation : Expectation} {verdict other : Verdict}

/-- Two verdicts on a case agree: on the status, on what was missed and, but for the order, on what was
unexpected. -/
structure Agrees (verdict other : Verdict) : Prop where
  /-- They are about the same case. -/
  testCase : verdict.testCase = other.testCase
  /-- They have the same status. -/
  status : verdict.status = other.status
  /-- The same expectations were not met. -/
  unmatched : verdict.unmatched = other.unmatched
  /-- The same errors were unexpected. -/
  unexpected : verdict.unexpected.Perm other.unexpected

/-- An expectation is missed by diagnostics in any order or in none. -/
theorem isMissed_congr (order : diagnostics.Perm others) :
    expectation.IsMissed surroundings workdir fragment diagnostics ↔
      expectation.IsMissed surroundings workdir fragment others := by
  simp only [Expectation.IsMissed, order.mem_iff]

/-- Exact verdicts on a case agree if the diagnostics are the same but for their order. -/
theorem Exact.agrees (order : diagnostics.Perm others) (same : verdict.testCase = other.testCase)
    (exact_here : verdict.Exact surroundings workdir fragment diagnostics)
    (exact_there : other.Exact surroundings workdir fragment others) : verdict.Agrees other := by
  have missed : (∃ expectation ∈ verdict.testCase.expectations,
        expectation.IsMissed surroundings workdir fragment diagnostics) ↔
      ∃ expectation ∈ other.testCase.expectations,
        expectation.IsMissed surroundings workdir fragment others := by
    rw [same]
    simp only [isMissed_congr order]
  have stray : (∃ diagnostic ∈ diagnostics, diagnostic.IsStray surroundings workdir fragment) ↔
      ∃ diagnostic ∈ others, diagnostic.IsStray surroundings workdir fragment := by
    simp only [order.mem_iff]
  refine ⟨same, ?_, ?_, ?_⟩
  · -- The status tells whether anything was missed, and if not, whether anything is stray.
    by_cases misses : ∃ expectation ∈ verdict.testCase.expectations,
        expectation.IsMissed surroundings workdir fragment diagnostics
    · rw [exact_here.mismatch_iff.mpr misses, exact_there.mismatch_iff.mpr (missed.mp misses)]
    · have hits := mt missed.mpr misses
      by_cases strays : ∃ diagnostic ∈ diagnostics, diagnostic.IsStray surroundings workdir fragment
      · rw [exact_here.unexpected_iff.mpr ⟨misses, strays⟩,
          exact_there.unexpected_iff.mpr ⟨hits, stray.mp strays⟩]
      · rw [exact_here.passed_iff.mpr ⟨misses, strays⟩,
          exact_there.passed_iff.mpr ⟨hits, mt stray.mpr strays⟩]
  · rw [exact_here.unmatched_eq, exact_there.unmatched_eq, same]
    refine List.filter_congr fun expectation _ => ?_
    rw [decide_eq_decide]
    exact isMissed_congr order
  · rw [exact_here.unexpected_eq, exact_there.unexpected_eq]
    exact order.filter _

/-- The status that all cases get without a look at the diagnostics, if there is one. -/
def plainStatus? (output : CompileOutput) : Option Status :=
  match imposedStatus? output with
  | some status => some status
  | none =>
    if output.returnCode = some 0 && output.diagnostics.isEmpty then some .unexpectedSuccess else none

/-- Verdicts without a look at the diagnostics are all the same. -/
theorem judgeWhole_of_plain {status : Status} (plainly : plainStatus? output = some status) :
    judgeWhole surroundings fragment output workdir =
      .ok (fragment.enabledCases.map (plain · status)) := by
  unfold judgeWhole
  rw [plainStatus?] at plainly
  cases imposed : imposedStatus? output with
  | some imposing =>
    rw [imposed] at plainly
    rw [Option.some.inj plainly]
  | none =>
    rw [imposed] at plainly
    obtain ⟨silent, taken⟩ := Option.ite_none_right_eq_some.mp plainly
    rw [← Option.some.inj taken]
    exact if_pos silent

/-- Verdicts with a look at the diagnostics are exact. -/
theorem exact_of_judgeWhole {verdicts : List Verdict} (looks : plainStatus? output = none)
    (judged : judgeWhole surroundings fragment output workdir = .ok verdicts) :
    ∀ verdict ∈ verdicts, verdict.Exact surroundings workdir fragment output.diagnostics := by
  cases imposed : imposedStatus? output with
  | some imposing =>
    rw [plainStatus?, imposed] at looks
    cases looks
  | none =>
    rw [plainStatus?, imposed] at looks
    obtain ⟨unstopped, unbroken⟩ := imposedStatus?_eq_none_iff.mp imposed
    refine (sayExactly_of_judgeWhole judged).exact unstopped unbroken ?_
    simpa [imp_iff_not_or] using looks

/-- What is known of two outputs that have the same lines in different orders. -/
structure Reorders (output reordered : CompileOutput) : Prop where
  /-- The compiler ended in the same way. -/
  returnCode : output.returnCode = reordered.returnCode
  /-- It was not stopped in one of the runs only. -/
  timedOut : output.timedOut = reordered.timedOut
  /-- It did not break down in one of them only. -/
  crashed : output.crashed = reordered.crashed
  /-- It gave the same diagnostics, in some order. -/
  diagnostics : output.diagnostics.Perm reordered.diagnostics

/-- Whether the diagnostics are looked at does not depend on their order. -/
theorem Reorders.plainStatus?_eq (reorders : Reorders output reordered) :
    plainStatus? output = plainStatus? reordered := by
  have silent : output.diagnostics.isEmpty = reordered.diagnostics.isEmpty := reorders.diagnostics.isEmpty_eq
  simp only [plainStatus?, imposedStatus?, reorders.returnCode, reorders.timedOut, reorders.crashed, silent]

/-- Verdicts that are given for two orders agree, case by case. -/
theorem Reorders.agree (reorders : Reorders output reordered) {verdicts others : List Verdict}
    (judged : judgeWhole surroundings fragment output workdir = .ok verdicts)
    (also : judgeWhole surroundings fragment reordered workdir = .ok others) :
    List.Forall₂ Agrees verdicts others := by
  have inStep : List.Forall₂ (fun verdict other => verdict.testCase = other.testCase) verdicts
      others := by
    refine List.forall₂_of_map_eq_map ?_
    rw [map_testCase_of_judgeWhole judged, map_testCase_of_judgeWhole also]
  have same := reorders.plainStatus?_eq
  cases plainly : plainStatus? output with
  | some status =>
    rw [judgeWhole_of_plain plainly] at judged
    rw [judgeWhole_of_plain (same.symm.trans plainly)] at also
    cases judged
    cases also
    exact List.forall₂_same.mpr fun verdict _ => ⟨rfl, rfl, rfl, List.Perm.refl _⟩
  | none =>
    have here := exact_of_judgeWhole plainly judged
    have there := exact_of_judgeWhole (same.symm.trans plainly) also
    -- Exactness is known of the members of either list, so both are put into the pairs.
    have second := (List.forall₂_and_left others verdicts).mpr ⟨there, inStep.flip⟩
    have both := (List.forall₂_and_left verdicts others).mpr ⟨here, second.flip⟩
    refine both.imp fun verdict other pair => ?_
    obtain ⟨exact_here, exact_there, about⟩ := pair
    exact exact_here.agrees reorders.diagnostics about exact_there

/-- If the diagnostics about a fragment were picked, each named file was told from its own. -/
theorem exists_sameFile_of_localDiagnostics {here : List Diagnostic}
    (picked : localDiagnostics surroundings fragment workdir diagnostics = .ok here) :
    ∀ diagnostic ∈ diagnostics,
      ∃ same, surroundings.sameFile diagnostic.file fragment.path workdir = .ok same := by
  induction diagnostics generalizing here with
  | nil => exact nofun
  | cons diagnostic rest ih =>
    obtain ⟨same, answer, next⟩ := Except.bind_eq_ok_iff.mp picked
    obtain ⟨others, tail, -⟩ := Except.bind_eq_ok_iff.mp next
    exact List.forall_mem_cons.mpr ⟨⟨same, answer⟩, ih tail⟩

/-- If there are verdicts with a look at the diagnostics, each named file was told from that of the
fragment. -/
theorem exists_sameFile_of_judgeWhole {verdicts : List Verdict} (looks : plainStatus? output = none)
    (judged : judgeWhole surroundings fragment output workdir = .ok verdicts) :
    ∀ diagnostic ∈ output.diagnostics,
      ∃ same, surroundings.sameFile diagnostic.file fragment.path workdir = .ok same := by
  unfold judgeWhole at judged
  rw [plainStatus?] at looks
  cases imposed : imposedStatus? output with
  | some imposing =>
    rw [imposed] at looks
    cases looks
  | none =>
    simp only [imposed] at looks judged
    have loud : ¬ (output.returnCode = some 0 && output.diagnostics.isEmpty) = true := by
      simpa using looks
    rw [if_neg loud] at judged
    obtain ⟨here, picked, -⟩ := Except.bind_eq_ok_iff.mp judged
    exact exists_sameFile_of_localDiagnostics picked

/-- If there are verdicts for one order, and messages can be searched, there are some for another. -/
theorem Reorders.exists_judgeWhole (reorders : Reorders output reordered)
    (searchable : Searchable fragment output.diagnostics)
    (judged : ∃ verdicts, judgeWhole surroundings fragment output workdir = .ok verdicts) :
    ∃ verdicts, judgeWhole surroundings fragment reordered workdir = .ok verdicts := by
  obtain ⟨verdicts, judged⟩ := judged
  cases plainly : plainStatus? output with
  | some status => exact ⟨_, judgeWhole_of_plain (reorders.plainStatus?_eq.symm.trans plainly)⟩
  | none =>
    have told := exists_sameFile_of_judgeWhole plainly judged
    refine exists_judgeWhole_of_searchable (fun _ _ diagnostic member => ?_)
      fun _ _ testCase enabled expectation listed diagnostic member => ?_
    · exact told diagnostic (reorders.diagnostics.mem_iff.mpr member)
    · exact searchable testCase enabled expectation listed diagnostic
        (reorders.diagnostics.mem_iff.mpr member)

/-- The other way round. -/
theorem Reorders.symm (reorders : Reorders output reordered) : Reorders reordered output :=
  ⟨reorders.returnCode.symm, reorders.timedOut.symm, reorders.crashed.symm, reorders.diagnostics.symm⟩

/-- Messages can be searched in any order or in none. -/
theorem searchable_of_perm (order : diagnostics.Perm others)
    (searchable : Searchable fragment diagnostics) : Searchable fragment others :=
  fun testCase enabled expectation listed diagnostic member =>
    searchable testCase enabled expectation listed diagnostic (order.mem_iff.mpr member)

/-- Outputs that a compiler can give for each other: whatever verdicts are given agree, and they are
given for both or for none if messages can be searched. -/
structure Interchangeable (surroundings : Surroundings) (workdir : Option Path) (fragment : Fragment)
    (output reordered : CompileOutput) : Prop where
  /-- The diagnostics and how the compiler ended are the same. -/
  reorders : Reorders output reordered
  /-- The verdicts agree, case by case. -/
  agree : ∀ verdicts others,
    judgeWhole surroundings fragment output workdir = .ok verdicts →
      judgeWhole surroundings fragment reordered workdir = .ok others →
        List.Forall₂ Agrees verdicts others
  /-- There are verdicts for both or for none. -/
  given : Searchable fragment output.diagnostics →
    ((∃ verdicts, judgeWhole surroundings fragment output workdir = .ok verdicts) ↔
      ∃ verdicts, judgeWhole surroundings fragment reordered workdir = .ok verdicts)

end Verdict

namespace CompileOutput

variable {arguments arguments' : List String} {code : Option Int} {text other : String}
variable {duration duration' : Number.Binary64} {late : Bool} {output reordered : CompileOutput}

/-- What is known of a compiler run that printed a text is its diagnostics and whether it broke
down. -/
theorem ofText_eq_ok_iff : ofText arguments code text duration late = .ok output ↔
    ∃ diagnostics, Diagnostic.readAll text = .ok diagnostics ∧
      output = ⟨arguments, code, text, duration, diagnostics, late,
        !late && Diagnostic.looksLikeCrash code text⟩ := by
  rw [ofText, Except.bind_eq_ok_iff]
  refine exists_congr fun diagnostics => and_congr_right fun _ => ?_
  exact ⟨fun given => (Except.ok.inj given).symm, fun given => by rw [given]; rfl⟩

/-- A text can be read if one with the same lines in another order can be. -/
theorem exists_ofText_of_perm (order : (lines text.toList).Perm (lines other.toList))
    (given : ofText arguments code text duration late = .ok output) :
    ∃ reordered, ofText arguments' code other duration' late = .ok reordered := by
  obtain ⟨diagnostics, read, -⟩ := ofText_eq_ok_iff.mp given
  obtain ⟨reordered, also, -⟩ := Diagnostic.exists_ofLines_of_perm order read
  exact ⟨_, ofText_eq_ok_iff.mpr ⟨reordered, also, rfl⟩⟩

/-- What is read of texts with the same lines differs in the order of the diagnostics only. -/
theorem reorders_of_perm (order : (lines text.toList).Perm (lines other.toList))
    (given : ofText arguments code text duration late = .ok output)
    (also : ofText arguments' code other duration' late = .ok reordered) :
    Verdict.Reorders output reordered := by
  obtain ⟨diagnostics, read, rfl⟩ := ofText_eq_ok_iff.mp given
  obtain ⟨others, reread, rfl⟩ := ofText_eq_ok_iff.mp also
  obtain ⟨permuted, again, same⟩ := Diagnostic.exists_ofLines_of_perm order read
  cases again.symm.trans reread
  refine ⟨rfl, rfl, ?_, same⟩
  rw [Diagnostic.looksLikeCrash_of_perm code order]

end CompileOutput

namespace Crossing

/-- A pattern of which it is not clear where its group ends in some messages. -/
def expectation : Expectation := ⟨"line_1", "((x)|y|z)*+", true, some 1, .warning⟩

/-- A case that expects the pattern. -/
def testCase : TestCase := ⟨"line_1", ⟨1, 1⟩, [expectation], true, none⟩

/-- A fragment with this case. -/
def fragment : Fragment :=
  ⟨Sample.source, "x // expected-warning-re \x7b\x7b((x)|y|z)*+\x7d\x7d\n", "inline", [testCase]⟩

/-- Two warnings; the pattern is found in the first one. -/
def text : String := "a.nc:1:1: warning: x\na.nc:1:1: warning: xyz\n"

/-- The warnings in the other order. -/
def other : String := "a.nc:1:1: warning: xyz\na.nc:1:1: warning: x\n"

/-- The first warning. -/
def found : Diagnostic := ⟨"a.nc", 1, some 1, .warning, "x"⟩

/-- The second warning. -/
def crossed : Diagnostic := ⟨"a.nc", 1, some 1, .warning, "xyz"⟩

/-- What is read of a text. -/
def output (text : String) (diagnostics : List Diagnostic) : CompileOutput :=
  ⟨[], some 1, text, .zero, diagnostics, false, false⟩

theorem perm_lines : (lines text.toList).Perm (lines other.toList) := by
  have here : lines text.toList =
      ["a.nc:1:1: warning: x".toList, "a.nc:1:1: warning: xyz".toList] := by decide
  have there : lines other.toList =
      ["a.nc:1:1: warning: xyz".toList, "a.nc:1:1: warning: x".toList] := by decide
  rw [here, there]
  exact .swap _ _ _

theorem ofText_text : CompileOutput.ofText [] (some 1) text .zero false =
    .ok (output text [found, crossed]) := by
  have read : Diagnostic.readAll text = .ok [found, crossed] := Except.eq_ok_of_toOption (by decide)
  exact CompileOutput.ofText_eq_ok_iff.mpr ⟨_, read, by decide⟩

theorem ofText_other : CompileOutput.ofText [] (some 1) other .zero false =
    .ok (output other [crossed, found]) := by
  have read : Diagnostic.readAll other = .ok [crossed, found] := Except.eq_ok_of_toOption (by decide)
  exact CompileOutput.ofText_eq_ok_iff.mpr ⟨_, read, by decide⟩

theorem accepts_found : expectation.accepts found = .ok true := by cbv

theorem accepts_crossed : expectation.accepts crossed = .error Expectation.crossedGroup := by cbv

/-- Both warnings are about the fragment. -/
theorem localDiagnostics_eq {diagnostics : List Diagnostic}
    (named : ∀ diagnostic ∈ diagnostics, diagnostic.file = "a.nc") :
    Verdict.localDiagnostics ⟨Sample.tree, []⟩ fragment none diagnostics = .ok diagnostics := by
  induction diagnostics with
  | nil => rfl
  | cons diagnostic rest ih =>
    obtain ⟨first, others⟩ := List.forall_mem_cons.mp named
    have same : Surroundings.sameFile ⟨Sample.tree, []⟩ "a.nc" fragment.path none = .ok true :=
      Sample.sameFile_source
    rw [Verdict.localDiagnostics, first, same, ih others]
    rfl

/-- How the case is judged depends on which warning is looked at first. -/
theorem judgeWhole_eq {diagnostics : List Diagnostic}
    (listed : diagnostics = [found, crossed] ∨ diagnostics = [crossed, found]) (text : String) :
    Verdict.judgeWhole ⟨Sample.tree, []⟩ fragment (output text diagnostics) none =
      [testCase].mapM (Verdict.judgeCase diagnostics []) := by
  have here : Verdict.localDiagnostics ⟨Sample.tree, []⟩ fragment none diagnostics =
      .ok diagnostics := by
    refine localDiagnostics_eq ?_
    rcases listed with rfl | rfl <;> decide
  have errors : (output text diagnostics).errors = [] := by
    rcases listed with rfl | rfl <;> rfl
  have unimposed : Verdict.imposedStatus? (output text diagnostics) = none := rfl
  have same : (output text diagnostics).diagnostics = diagnostics := rfl
  simp only [Verdict.judgeWhole, unimposed, same, here, errors, bind, Except.bind,
    Verdict.strayErrors]
  rfl

end Crossing

end NegativeCompile

import NegativeCompile.Proofs.Verdict.LiningUp
import NegativeCompile.Proofs.Inline.Markers
import NegativeCompile.Proofs.Files.Resolving

/-! # Completeness of inline markers

A compiler that rejects a fragment and prints one line for each of its markers, at the file and the
line that the marker is about and with its severity and text, makes every case of the fragment pass
(`Inline.passed_of_announced`). It does not matter in what order it prints them, nor what it prints in
between, as long as that has not the shape of a diagnostic and does not say that it broke down. -/

namespace NegativeCompile

namespace Inline

open Files Text Number

variable {surroundings : Surroundings} {workdir : Option Path} {fragment : Fragment} {path : Path}
variable {cases : List TestCase} {testCase : TestCase} {expectation : Expectation}
variable {diagnostic : Diagnostic} {diagnostics : List Diagnostic} {printed : String}
variable {line : List Char}

/-! ## Announcements -/

/-- The line by which a compiler says of a file what is expected. -/
def announcement (path : Path) (expectation : Expectation) : String :=
  s!"{path}:{expectation.line.getD 0}:1: {expectation.severity.name}: {expectation.text}"

/-- The diagnostic that this line shows. -/
def announced (path : Path) (expectation : Expectation) : Diagnostic :=
  ⟨path.toString, (expectation.line.getD 0).toNat, some 1, expectation.severity, expectation.text⟩

/-- A compiler announces cases: in some order it prints the lines for all that they expect, and other
lines that are no diagnostics, and nowhere it says that it broke down. -/
structure Announces (path : Path) (cases : List TestCase) (printed : String) : Prop where
  /-- Beside the lines for what is expected there are no diagnostics. -/
  lines : ∃ others : List (List Char),
    (Text.lines printed.toList).Perm
        ((cases.flatMap (·.expectations)).map (fun expectation =>
          (announcement path expectation).toList) ++ others) ∧
      ∀ line ∈ others, Diagnostic.readShape (trimRight line) = none
  /-- No line says that the compiler broke down. -/
  sound : ∀ line ∈ Text.lines printed.toList, ∀ marker ∈ Diagnostic.crashMarkers,
    ¬ marker.toList <:+: line

/-- The order of the lines does not matter, only what lines there are: those that announce what is
expected, and others that are no diagnostics. -/
theorem Announces.exists_others (announces : Announces path cases printed) :
    ∃ others : List (List Char), (∀ line ∈ others, Diagnostic.readShape (trimRight line) = none) ∧
      ∀ line, line ∈ Text.lines printed.toList ↔ line ∈ others ∨
        ∃ testCase ∈ cases, ∃ expectation ∈ testCase.expectations,
          line = (announcement path expectation).toList := by
  obtain ⟨others, order, shapeless⟩ := announces.lines
  refine ⟨others, shapeless, fun line => ?_⟩
  rw [order.mem_iff, List.mem_append, or_comm]
  simp only [List.mem_map, List.mem_flatMap]
  constructor
  · rintro (other | ⟨expectation, ⟨testCase, member, own⟩, equal⟩)
    · exact .inl other
    · exact .inr ⟨testCase, member, expectation, own, equal.symm⟩
  · rintro (other | ⟨testCase, member, expectation, own, equal⟩)
    · exact .inl other
    · exact .inr ⟨expectation, ⟨testCase, member, own⟩, equal.symm⟩

/-- An expectation that a marker declares is announced by the line that shows its diagnostic. -/
theorem announcement_eq (declares : Declares testCase expectation) (path : Path) :
    announcement path expectation = (announced path expectation).render := by
  obtain ⟨target, given, -⟩ := declares.line
  have first : toString (1 : Nat) = "1" := rfl
  have number : toString (target : Int) = toString target := rfl
  have name : toString path = path.toString := rfl
  have same (text : String) : toString text = text := rfl
  rw [announcement, announced, given, ← String.toList_inj]
  simp [Diagnostic.render, first, number, name, same]

/-- What is announced of a file from the root, named without colons and without blanks around it, is
legible. -/
theorem legible_announced (declares : Declares testCase expectation) (plain : path.IsPlain)
    (colonless : ':' ∉ path.toString.toList) (trimmed : trim path.toString.toList = path.toString.toList) :
    (announced path expectation).Legible := by
  obtain ⟨target, given, short⟩ := declares.line
  refine ⟨⟨_, plain.toList_toString⟩, colonless, trimmed, ?_, ⟨1, rfl, ?_⟩, declares.known,
    declares.said, declares.trimmed⟩
  · rw [announced, given]
    exact short
  · exact isLong_eq_false_iff.mpr (Nat.one_lt_pow (by decide) (by decide))

/-- Diagnostics are what is announced of cases if they are those of their expectations. -/
def AreAnnounced (path : Path) (cases : List TestCase) (diagnostics : List Diagnostic) : Prop :=
  ∀ diagnostic, diagnostic ∈ diagnostics ↔
    ∃ testCase ∈ cases, ∃ expectation ∈ testCase.expectations, diagnostic = announced path expectation

/-- If a compiler announces cases, the diagnostics in what it prints are what is announced. -/
theorem exists_diagnostics_of_announces
    (declared : ∀ testCase ∈ cases, ∃ expectation, Declares testCase expectation)
    (plain : path.IsPlain) (colonless : ':' ∉ path.toString.toList)
    (trimmed : trim path.toString.toList = path.toString.toList)
    (announces : Announces path cases printed) :
    ∃ diagnostics, Diagnostic.readAll printed = .ok diagnostics ∧
      AreAnnounced path cases diagnostics := by
  obtain ⟨others, shapeless, listed⟩ := announces.exists_others
  have readsAs : ∀ testCase ∈ cases, ∀ expectation ∈ testCase.expectations,
      Diagnostic.ReadsAs (announcement path expectation).toList (announced path expectation) := by
    intro testCase member expectation listed
    obtain ⟨only, declares⟩ := declared testCase member
    rw [declares.expects, List.mem_singleton] at listed
    rw [listed, announcement_eq declares]
    exact (legible_announced declares plain colonless trimmed).readsAs
  -- Each line that is printed is an announcement or has not the shape of a diagnostic.
  obtain ⟨diagnostics, read⟩ : ∃ diagnostics, Diagnostic.readAll printed = .ok diagnostics := by
    refine Diagnostic.exists_ofLines fun line stands => ?_
    rcases (listed line).mp stands with other | ⟨testCase, member, expectation, own, equal⟩
    · exact .inl (shapeless line other)
    · rw [equal]
      exact .inr ⟨_, readsAs testCase member expectation own⟩
  refine ⟨diagnostics, read, fun diagnostic => ?_⟩
  rw [Diagnostic.mem_of_ofLines read]
  constructor
  · rintro ⟨line, stands, reads⟩
    rcases (listed line).mp stands with other | ⟨testCase, member, expectation, own, equal⟩
    · obtain ⟨shape, shaped, -⟩ := reads
      rw [shapeless line other] at shaped
      cases shaped
    · rw [equal] at reads
      exact ⟨testCase, member, expectation, own,
        reads.unique (readsAs testCase member expectation own)⟩
  · rintro ⟨testCase, member, expectation, own, rfl⟩
    exact ⟨_, (listed _).mpr (.inr ⟨testCase, member, expectation, own, rfl⟩),
      readsAs testCase member expectation own⟩

/-! ## Passing -/

/-- What is announced of an expectation that is no pattern meets it. -/
theorem metBy_announced (declares : Declares testCase expectation)
    (literal : expectation.isRegex = false) (path : Path) :
    expectation.MetBy (announced path expectation) := by
  obtain ⟨target, given, -⟩ := declares.line
  refine ⟨fun line expected => ?_, rfl, ?_⟩
  · rw [given] at expected
    cases expected
    rw [announced, given]
    rfl
  · rw [Expectation.matchesText, literal]
    exact congrArg Except.ok occursIn_self

/-- If diagnostics are what is announced of the cases of a fragment, an exact verdict on one of them is
that it passed. -/
theorem passed_of_exact {verdict : Verdict}
    (declared : ∀ testCase ∈ fragment.cases, ∃ expectation, Declares testCase expectation)
    (literal : ∀ testCase ∈ fragment.cases, ∀ expectation ∈ testCase.expectations,
      expectation.isRegex = false)
    (same : surroundings.sameFile fragment.path.toString fragment.path workdir = .ok true)
    (all : AreAnnounced fragment.path fragment.cases diagnostics)
    (about : verdict.testCase ∈ fragment.cases)
    (exact : verdict.Exact surroundings workdir fragment diagnostics) : verdict.status = .passed := by
  have met : ∀ testCase ∈ fragment.cases, ∀ expectation ∈ testCase.expectations,
      expectation.MetBy (announced fragment.path expectation) := by
    intro testCase member expectation own
    obtain ⟨only, declares⟩ := declared testCase member
    have listed := own
    rw [declares.expects, List.mem_singleton] at listed
    subst listed
    exact metBy_announced declares (literal testCase member _ own) fragment.path
  have here (expectation : Expectation) :
      (announced fragment.path expectation).IsAbout surroundings workdir fragment := same
  rw [exact.passed_iff]
  constructor
  · -- What is expected was announced, so it is not missed.
    rintro ⟨expectation, own, missed⟩
    exact missed _ ((all _).mpr ⟨_, about, expectation, own, rfl⟩)
      ⟨here expectation, met _ about expectation own⟩
  · -- What was announced is expected, so it is not stray.
    rintro ⟨diagnostic, member, stray⟩
    obtain ⟨testCase, listed, expectation, own, rfl⟩ := (all diagnostic).mp member
    have enabled : testCase ∈ fragment.enabledCases := by
      obtain ⟨only, declares⟩ := declared testCase listed
      exact List.mem_filter.mpr ⟨listed, declares.enabled⟩
    rcases stray.unexplained with elsewhere | unmet
    · exact elsewhere (here expectation)
    · exact unmet testCase enabled expectation own (met testCase listed expectation own)

/-- Every case of a fragment with inline markers that are no patterns passes if the compiler rejects
the fragment and announces its cases. The fragment has to be named by a plain path without links, in
which there is no colon and around which there are no blanks. -/
theorem passed_of_announced (surroundings : Surroundings) (workdir : Option Path)
    (fragment : Fragment) (arguments : List String) (duration : Binary64) (printed : String)
    (plain : fragment.path.IsPlain) (unlinked : surroundings.tree.Unlinked fragment.path.parts)
    (colonless : ':' ∉ fragment.path.toString.toList)
    (trimmed : trim fragment.path.toString.toList = fragment.path.toString.toList)
    (read : parse fragment.path fragment.text = .ok fragment.cases)
    (literal : ∀ testCase ∈ fragment.cases, ∀ expectation ∈ testCase.expectations,
      expectation.isRegex = false)
    (announces : Announces fragment.path fragment.cases printed) :
    ∃ output verdicts,
      CompileOutput.ofText arguments (some 1) printed duration false = .ok output ∧
        Verdict.judgeWhole surroundings fragment output workdir = .ok verdicts ∧
          verdicts.map (·.testCase) = fragment.cases ∧
            ∀ verdict ∈ verdicts, verdict.status = .passed := by
  have declared := exists_declares_of_parse read
  have same := surroundings.sameFile_self plain unlinked workdir
  obtain ⟨diagnostics, found, all⟩ :=
    exists_diagnostics_of_announces declared plain colonless trimmed announces
  have unbroken : Diagnostic.looksLikeCrash (some 1) printed = false :=
    Diagnostic.looksLikeCrash_eq_false (by simp) announces.sound
  have enabled : fragment.enabledCases = fragment.cases := by
    refine List.filter_eq_self.mpr fun testCase member => ?_
    obtain ⟨only, declares⟩ := declared testCase member
    exact declares.enabled
  have answerable : Verdict.Answerable surroundings workdir fragment diagnostics := by
    refine ⟨fun diagnostic member => ?_, fun testCase member expectation own diagnostic _ => ?_⟩
    · obtain ⟨testCase, -, expectation, -, rfl⟩ := (all diagnostic).mp member
      exact ⟨true, same⟩
    · rw [enabled] at member
      exact Expectation.exists_matchesText_of_literal (literal testCase member expectation own) _
  obtain ⟨verdicts, judged⟩ : ∃ verdicts, Verdict.judgeWhole surroundings fragment
      ⟨arguments, some 1, printed, duration, diagnostics, false, false⟩ workdir = .ok verdicts :=
    Verdict.exists_judgeWhole fun _ _ => answerable
  have exact := Verdict.sayExactly_of_judgeWhole judged
  have about : verdicts.map (·.testCase) = fragment.cases := by rw [exact.about, enabled]
  refine ⟨_, verdicts, ?_, judged, about, fun verdict member => ?_⟩
  · rw [CompileOutput.ofText, found]
    simp only [unbroken]
    rfl
  · have listed : verdict.testCase ∈ fragment.cases := about ▸ List.mem_map_of_mem member
    refine passed_of_exact declared literal same all listed ?_
    exact exact.exact rfl rfl (.inl (by simp)) verdict member

end Inline

namespace Sample

/-- What a compiler may say of the sample: it complains of the second line first, and tells how many
errors there are. -/
def complaints : String := "/a.nc:2:1: error: bar\n/a.nc:1:1: error: foo\n2 errors generated.\n"

/-- The compiler announces the cases of the sample. -/
theorem announces_complaints : Inline.Announces source fragment.cases complaints := by
  have first : Inline.announcement source ⟨"line_1", "foo", false, some 1, .error⟩ =
      "/a.nc:1:1: error: foo" := by decide
  have second : Inline.announcement source ⟨"line_2", "bar", false, some 2, .error⟩ =
      "/a.nc:2:1: error: bar" := by decide
  have said : Text.lines complaints.toList = ["/a.nc:2:1: error: bar".toList,
      "/a.nc:1:1: error: foo".toList, "2 errors generated.".toList] := by decide
  refine ⟨⟨["2 errors generated.".toList], ?_, fun line member => ?_⟩, ?_⟩
  · simp only [fragment, caseAt, List.flatMap_cons, List.flatMap_nil, List.append_nil, List.map_append,
      List.map_cons, List.map_nil, first, second, said]
    exact .swap _ _ _
  · rw [List.mem_singleton.mp member]
    decide
  · rw [said]
    decide

end Sample

/-- The compiler announces both cases of the sample, so both pass. -/
theorem Inline.passed_of_announced_sample :
    Sample.source.IsPlain ∧ Sample.tree.Unlinked Sample.source.parts ∧
      Announces Sample.source Sample.fragment.cases Sample.complaints ∧
      ∃ output verdicts,
        CompileOutput.ofText ["cc"] (some 1) Sample.complaints .zero false = .ok output ∧
          Verdict.judgeWhole ⟨Sample.tree, []⟩ Sample.fragment output none = .ok verdicts ∧
            verdicts.map (·.testCase) = Sample.fragment.cases ∧
              ∀ verdict ∈ verdicts, verdict.status = .passed := by
  refine ⟨Sample.isPlain_source, (Sample.unlinked_tree _), Sample.announces_complaints,
    passed_of_announced _ _ _ _ _ _ Sample.isPlain_source (Sample.unlinked_tree _) (by decide)
      (by decide) (Except.eq_ok_of_toOption (by decide +kernel)) ?_
      Sample.announces_complaints⟩
  intro testCase member expectation own
  rcases List.mem_pair.mp member with rfl | rfl
  · rw [List.mem_singleton.mp own]
  · rw [List.mem_singleton.mp own]

end NegativeCompile

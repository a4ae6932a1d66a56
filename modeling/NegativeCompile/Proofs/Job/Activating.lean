import NegativeCompile.Proofs.Guarded.Branches
import NegativeCompile.Proofs.Files.Leading
import NegativeCompile.Proofs.Run.Loaded
import NegativeCompile.Proofs.Job.Planning
import NegativeCompile.Proofs.Verdict.Tractable

/-! # Symbols that compilers are given

A job on a case of a guarded fragment defines the symbol of that case, and no argument defines the
symbol of any other one: the settings come first, and if they mention no symbol of a case, then none is
defined but by the job itself (`Job.filter_definesCase`). So each planned job activates just its own
case, and a job on a fragment that is not guarded activates none (`Job.plan_activates`). -/

namespace NegativeCompile

open Files Text

section

variable {settings : CompilerSettings} {job : Job} {fragment : Fragment} {testCase : TestCase}
variable {path : Path} {text argument guard : String} {cases : List TestCase}

/-! ## Arguments -/

/-- Whether an argument defines a symbol that is named as those of cases are. -/
def definesCase (argument : String) : Bool :=
  startsWith ("-D" ++ Guarded.casePrefix).toList argument.toList

theorem definesCase_iff :
    definesCase argument = true ↔ '-' :: 'D' :: Guarded.casePrefix.toList <+: argument.toList :=
  startsWith_iff

/-- A text does not mention any symbol that is named as those of cases are. -/
def LacksCases (text : String) : Prop := ¬ Guarded.casePrefix.toList <:+: text.toList

/-- What the settings give the compiler as it is: its name, its first arguments and the symbols that are
defined mention no symbols of cases. -/
structure CompilerSettings.LacksCases (settings : CompilerSettings) : Prop where
  /-- The compiler mentions none. -/
  binary : NegativeCompile.LacksCases settings.binary
  /-- The first arguments mention none. -/
  flags : ∀ flag ∈ settings.flags, NegativeCompile.LacksCases flag
  /-- The symbols that are defined mention none. -/
  defines : ∀ define ∈ settings.defines, NegativeCompile.LacksCases define

/-- An argument that mentions no symbol of a case defines none. -/
theorem LacksCases.definesCase_eq_false (lacks : LacksCases argument) :
    definesCase argument = false := by
  rw [Bool.eq_false_iff, ne_eq, definesCase_iff]
  intro starts
  exact lacks (((List.suffix_append ['-', 'D'] _).isInfix).trans starts.isInfix)

/-- A definition of something that mentions no symbol of a case does not define one. -/
theorem LacksCases.definesCase_define (lacks : LacksCases text) :
    definesCase ("-D" ++ text) = false := by
  rw [Bool.eq_false_iff, ne_eq, definesCase_iff, String.toList_append]
  intro starts
  exact lacks ((List.prefix_append_right_inj ['-', 'D']).mp starts).isInfix

/-- The definition of a text defines the symbol of a case if the text is named as those are. -/
theorem definesCase_define (named : Guarded.casePrefix.toList <+: guard.toList) :
    definesCase ("-D" ++ guard) = true := by
  rw [definesCase_iff, String.toList_append]
  exact (List.prefix_append_right_inj ['-', 'D']).mpr named

/-- An argument adds a directory with headers or defines a symbol. -/
def Adds (argument : String) : Prop :=
  "-I".toList <+: argument.toList ∨ "-D".toList <+: argument.toList

/-- It can be decided what an argument adds. -/
instance (argument : String) : Decidable (Adds argument) := inferInstanceAs (Decidable (_ ∨ _))

/-- An argument that defines no symbol at all defines none of a case. -/
theorem definesCase_eq_false_of_not_adds (not : ¬ Adds argument) : definesCase argument = false := by
  rw [Bool.eq_false_iff, ne_eq, definesCase_iff]
  exact fun starts => not (.inr ((List.prefix_append ['-', 'D'] _).trans starts))

/-- The text of an absolute path starts with a slash. -/
theorem Files.Path.exists_toList_eq_slash (absolute : path.isAbsolute = true) :
    ∃ rest, path.toString.toList = '/' :: rest := by
  rw [Path.isAbsolute, decide_eq_true_eq] at absolute
  obtain ⟨count, slashes⟩ := Nat.exists_eq_succ_of_ne_zero absolute
  refine ⟨List.replicate count '/' ++ ("/".intercalate path.parts).toList, ?_⟩
  have spelled : (String.ofList (List.replicate path.slashes '/') ++ "/".intercalate path.parts).toList =
      '/' :: (List.replicate count '/' ++ ("/".intercalate path.parts).toList) := by
    rw [String.toList_append, String.toList_ofList, slashes, List.replicate_succ, List.cons_append]
  have filled : (String.ofList (List.replicate path.slashes '/') ++
      "/".intercalate path.parts).isEmpty = false := by
    rw [Bool.eq_false_iff, ne_eq, String.isEmpty_iff, ← String.toList_eq_nil_iff, spelled]
    exact List.cons_ne_nil _ _
  simp only [Path.toString, filled, Bool.false_eq_true, ↓reduceIte]
  exact spelled

/-- An absolute path adds nothing. -/
theorem not_adds_path (absolute : path.isAbsolute = true) : ¬ Adds path.toString := by
  obtain ⟨rest, starts⟩ := path.exists_toList_eq_slash absolute
  rw [Adds, starts]
  simp

namespace Job

/-- The arguments that come before the directories with headers, apart from those of the settings. -/
def leading (settings : CompilerSettings) : List String :=
  match settings.std with
  | some name => if name.isEmpty then [] else ["-std=" ++ name]
  | none => []

/-- The arguments that come after all symbols. -/
def trailing (settings : CompilerSettings) (job : Job) : List String :=
  (if settings.werror then ["-Werror"] else []) ++
    (match settings.mode with
      | .syntaxOnly => ["-fsyntax-only"]
      | .compileOnly => ["-c", "-o", job.placeholder.toString]) ++
    (if settings.depfile then ["-MD", "-MF", job.depfile.toString] else []) ++
    [job.fragment.path.toString]

/-- The symbol of the job's case is defined after all directories and symbols of the settings. -/
theorem arguments_eq (settings : CompilerSettings) (job : Job) :
    job.arguments settings = settings.binary :: (settings.flags ++ leading settings ++
      settings.includeDirs.map (fun path => "-I" ++ path.toString) ++
      settings.defines.map ("-D" ++ ·) ++ job.guardArguments ++ job.trailing settings) := by
  show [settings.binary] ++ settings.flags ++ leading settings ++
      settings.includeDirs.map (fun path => "-I" ++ path.toString) ++
      settings.defines.map ("-D" ++ ·) ++ job.guardArguments ++
      (if settings.werror then ["-Werror"] else []) ++
      (match settings.mode with
        | .syntaxOnly => ["-fsyntax-only"]
        | .compileOnly => ["-c", "-o", job.placeholder.toString]) ++
      (if settings.depfile then ["-MD", "-MF", job.depfile.toString] else []) ++
      [job.fragment.path.toString] = _
  simp only [trailing, List.append_assoc, List.cons_append, List.nil_append]

/-- The language standard adds nothing. -/
theorem not_adds_leading (member : argument ∈ leading settings) : ¬ Adds argument := by
  unfold leading at member
  split at member
  · split at member
    · cases member
    · obtain rfl := List.mem_singleton.mp member
      simp [Adds]
  · cases member

/-- What comes after all symbols adds none, if the files of the job and its source are absolute. -/
theorem not_adds_trailing (below : job.outputDir.isAbsolute = true)
    (rooted : job.fragment.path.isAbsolute = true) :
    ∀ argument ∈ job.trailing settings, ¬ Adds argument := by
  have inside : job.directory.isAbsolute = true := Path.isAbsolute_append below _
  have object : ¬ Adds job.placeholder.toString := not_adds_path (Path.isAbsolute_append inside _)
  have headers : ¬ Adds job.depfile.toString := not_adds_path (Path.isAbsolute_append inside _)
  unfold trailing
  simp only [List.forall_mem_append]
  refine ⟨⟨⟨?_, ?_⟩, ?_⟩, List.forall_mem_singleton.mpr (not_adds_path rooted)⟩
  · split <;> decide
  · split
    · decide
    · simp only [List.forall_mem_cons]
      exact ⟨by decide, by decide, object, List.forall_mem_nil _⟩
  · split
    · simp only [List.forall_mem_cons]
      exact ⟨by decide, by decide, headers, List.forall_mem_nil _⟩
    · exact List.forall_mem_nil _

/-- If the settings mention no symbol of a case, then none is defined but by the job itself. -/
theorem filter_definesCase (lacks : settings.LacksCases) (below : job.outputDir.isAbsolute = true)
    (rooted : job.fragment.path.isAbsolute = true) :
    (job.arguments settings).filter definesCase = job.guardArguments.filter definesCase := by
  have none_of {arguments : List String}
      (each : ∀ argument ∈ arguments, definesCase argument = false) :
      arguments.filter definesCase = [] :=
    List.filter_eq_nil_iff.mpr fun argument member => by simp [each argument member]
  have flags : settings.flags.filter definesCase = [] :=
    none_of fun flag member => (lacks.flags flag member).definesCase_eq_false
  have standard : (leading settings).filter definesCase = [] :=
    none_of fun _ member => definesCase_eq_false_of_not_adds (not_adds_leading member)
  have directories :
      (settings.includeDirs.map fun path => "-I" ++ path.toString).filter definesCase = [] := by
    refine none_of fun argument member => ?_
    obtain ⟨path, -, rfl⟩ := List.mem_map.mp member
    rw [Bool.eq_false_iff, ne_eq, definesCase_iff, String.toList_append]
    simp
  have defines : (settings.defines.map ("-D" ++ ·)).filter definesCase = [] := by
    refine none_of fun argument member => ?_
    obtain ⟨define, listed, rfl⟩ := List.mem_map.mp member
    exact (lacks.defines define listed).definesCase_define
  have trailing : (job.trailing settings).filter definesCase = [] :=
    none_of fun argument member =>
      definesCase_eq_false_of_not_adds (not_adds_trailing below rooted argument member)
  rw [arguments_eq, List.filter_cons_of_neg (by simp [lacks.binary.definesCase_eq_false])]
  simp only [List.filter_append, flags, standard, directories, defines, trailing, List.nil_append,
    List.append_nil]

/-- A job that is for no case by itself defines no symbol of a case. -/
theorem filter_definesCase_of_whole (lacks : settings.LacksCases)
    (below : job.outputDir.isAbsolute = true) (rooted : job.fragment.path.isAbsolute = true)
    (whole : job.testCase = none) : (job.arguments settings).filter definesCase = [] := by
  rw [filter_definesCase lacks below rooted, guardArguments, whole]
  rfl

/-- A job activates a case, and nothing else: of its arguments just one defines the symbol of a case, and
this is the symbol of its own case, which no other case of the fragment has. It comes after all
directories with headers and all symbols that the settings give. -/
structure Activates (settings : CompilerSettings) (job : Job) (testCase : TestCase) (guard : String) :
    Prop where
  /-- The job is for the case. -/
  about : job.testCase = some testCase
  /-- The case has the symbol. -/
  guarded : testCase.guard = some guard
  /-- The symbol is defined, and no other one that is named as those of cases are. -/
  defined : (job.arguments settings).filter definesCase = ["-D" ++ guard]
  /-- No other case has the symbol. -/
  alone : ∀ other ∈ job.fragment.cases, other.guard = some guard → other = testCase
  /-- It comes after what the settings give, and nothing that comes later adds anything. -/
  after : ∃ before later, job.arguments settings = before ++ ("-D" ++ guard) :: later ∧
    (∀ argument ∈ settings.flags ++ settings.includeDirs.map (fun path => "-I" ++ path.toString) ++
      settings.defines.map ("-D" ++ ·), argument ∈ before) ∧
    ∀ argument ∈ later, ¬ Adds argument

/-- A job for a case activates it if its symbol is named as those of cases are. -/
theorem activates_of_named (lacks : settings.LacksCases) (below : job.outputDir.isAbsolute = true)
    (rooted : job.fragment.path.isAbsolute = true) (about : job.testCase = some testCase)
    (guarded : testCase.guard = some guard)
    (named : Guarded.casePrefix.toList <+: guard.toList)
    (alone : ∀ other ∈ job.fragment.cases, other.guard = some guard → other = testCase) :
    job.Activates settings testCase guard := by
  have filled : guard.isEmpty = false := by
    rw [Bool.eq_false_iff, ne_eq, String.isEmpty_iff, ← String.toList_eq_nil_iff]
    intro nothing
    rw [nothing] at named
    cases List.prefix_nil.mp named
  have own : job.guardArguments = ["-D" ++ guard] := by
    simp [guardArguments, about, guarded, filled]
  refine ⟨about, guarded, ?_, alone, ?_⟩
  · rw [filter_definesCase lacks below rooted, own, List.filter_cons_of_pos (definesCase_define named),
      List.filter_nil]
  · refine ⟨settings.binary :: (settings.flags ++ leading settings ++
      settings.includeDirs.map (fun path => "-I" ++ path.toString) ++ settings.defines.map ("-D" ++ ·)),
      job.trailing settings, ?_, ?_, not_adds_trailing below rooted⟩
    · rw [arguments_eq, own]
      simp
    · intro argument member
      simp only [List.mem_append, List.mem_cons] at member ⊢
      tauto

end Job

/-! ## Fragments -/

/-- In a guarded fragment the cases follow one another in the lines, and each has its name as its symbol,
which is named as those of cases are. -/
theorem Guarded.named_of_parse (read : Guarded.parse path text = .ok cases) :
    (cases.Pairwise fun earlier later => earlier.span.last < later.span.first) ∧
      ∀ testCase ∈ cases, testCase.guard = some testCase.name ∧
        Guarded.casePrefix.toList <+: testCase.name.toList := by
  obtain ⟨progress, covers, rfl⟩ := covers_of_parse read
  refine ⟨List.pairwise_reverse.mpr covers.ordered, fun testCase member => ?_⟩
  obtain ⟨stands, -⟩ := covers.cases testCase (List.mem_reverse.mp member)
  exact ⟨stands.guarded, stands.named⟩

/-- All cases of a fragment that a dialect without guards reads are enabled, and none is compiled
alone. -/
theorem Dialect.unguarded_of_parse {dialect : Dialect}
    (unguarded : dialect = Inline.dialect ∨ dialect = Header.dialect)
    (read : dialect.parse path text = .ok cases) :
    ∀ testCase ∈ cases, testCase.enabled = true ∧ testCase.guard = none := by
  rcases unguarded with rfl | rfl
  · intro testCase member
    obtain ⟨_, -, _, _, _, _, -, -, one⟩ := Inline.isRead_of_parse read testCase member
    obtain ⟨_, _, -, -, -, rfl⟩ := Inline.exists_of_readCase one
    exact ⟨rfl, rfl⟩
  · intro testCase member
    obtain ⟨_, _, _, -, rfl⟩ := Header.isRead_of_parse read testCase member
    exact ⟨rfl, rfl⟩

/-- A fragment is read at the path it is given, and its cases have distinct names. -/
theorem Fragment.path_eq_of_parse {registry : Registry}
    (read : Fragment.parse registry path text = .ok fragment) :
    fragment.path = path ∧ (fragment.cases.map (·.name)).Nodup := by
  obtain ⟨_, -, afterChoice⟩ := Except.bind_eq_ok_iff.mp read
  obtain ⟨_, -, afterCases⟩ := Except.bind_eq_ok_iff.mp afterChoice
  obtain ⟨_, checked, equal⟩ := Except.bind_eq_ok_iff.mp afterCases
  obtain rfl := Except.ok.inj equal
  exact ⟨rfl, (nodup_names_of_checkNames checked).1⟩

/-- A planned job is for the fragment. -/
theorem Job.of_mem_plan {key : String} {outputDir : Path} (member : job ∈ plan fragment key outputDir) :
    job.fragment = fragment ∧ job.outputDir = outputDir := by
  unfold plan at member
  split at member
  · cases member
  split at member
  · obtain ⟨_, -, rfl⟩ := List.mem_map.mp member
    exact ⟨rfl, rfl⟩
  · obtain rfl := List.mem_singleton.mp member
    exact ⟨rfl, rfl⟩

/-- If the cases are guarded by symbols that are named as those of cases are, then the jobs are those of
the enabled cases. -/
theorem Job.plan_of_named (named : ∀ testCase ∈ fragment.cases, testCase.guard = some testCase.name ∧
    Guarded.casePrefix.toList <+: testCase.name.toList) (key : String) (outputDir : Path) :
    plan fragment key outputDir =
      fragment.enabledCases.map fun testCase => ⟨fragment, key, outputDir, some testCase⟩ := by
  cases cases : fragment.enabledCases with
  | nil => simp [plan, cases]
  | cons first rest =>
    have listed : first ∈ fragment.cases :=
      List.mem_of_mem_filter (cases ▸ List.mem_cons_self : first ∈ fragment.enabledCases)
    obtain ⟨guarded, starts⟩ := named first listed
    have some_guard : fragment.isGuarded = true := by
      refine List.any_eq_true.mpr ⟨first, listed, ?_⟩
      rw [guarded, Option.any_some, bne_iff_ne]
      intro nothing
      rw [nothing] at starts
      cases List.prefix_nil.mp starts
    simp [plan, cases, some_guard]

/-- If all cases are enabled and none is guarded, then there is one job if there is a case. -/
theorem Job.plan_of_unguarded (each : ∀ testCase ∈ fragment.cases, testCase.enabled = true ∧
    testCase.guard = none) (key : String) (outputDir : Path) :
    plan fragment key outputDir =
      if fragment.cases = [] then [] else [⟨fragment, key, outputDir, none⟩] := by
  have enabled : fragment.enabledCases = fragment.cases :=
    List.filter_eq_self.mpr fun testCase member => (each testCase member).1
  have together : fragment.isGuarded = false :=
    Fragment.isGuarded_eq_false fun testCase member => (each testCase member).2
  simp [plan, enabled, together]

/-- Let the settings mention no symbol of a case, and the fragment and the output have absolute paths. If
the fragment is guarded, then the jobs planned for it are those of its enabled cases, in the order of the
text, and each activates just its own case. If it is not guarded, then there is one job if there is a
case, and it activates none. The first argument of a job is always the compiler, and the last one is the
fragment. -/
theorem Job.plan_activates (registry : Registry) (dialect : Dialect) (path outputDir : Path)
    (text key : String) (fragment : Fragment) (settings : CompilerSettings)
    (selected : registry.select text = .ok dialect)
    (read : Fragment.parse registry path text = .ok fragment)
    (rooted : path.isAbsolute = true) (below : outputDir.isAbsolute = true)
    (lacks : settings.LacksCases) :
    (dialect = Guarded.dialect →
      (plan fragment key outputDir).map (·.testCase) = fragment.enabledCases.map some ∧
        (fragment.enabledCases.Pairwise fun earlier later => earlier.span.last < later.span.first) ∧
        ∀ job ∈ plan fragment key outputDir, ∃ testCase ∈ fragment.enabledCases, ∃ guard,
          job.Activates settings testCase guard) ∧
      (dialect = Inline.dialect ∨ dialect = Header.dialect →
        (plan fragment key outputDir = if fragment.cases = [] then []
          else [⟨fragment, key, outputDir, none⟩]) ∧
        ∀ job ∈ plan fragment key outputDir, (job.arguments settings).filter definesCase = []) ∧
      ∀ job ∈ plan fragment key outputDir, job.fragment = fragment ∧
        (job.arguments settings).head? = some settings.binary ∧
          (job.arguments settings).getLast? = some path.toString := by
  have parsed := Fragment.parse_eq_ok_of_select selected read
  obtain ⟨rfl, distinct⟩ := Fragment.path_eq_of_parse read
  refine ⟨?_, ?_, ?_⟩
  · rintro rfl
    obtain ⟨ordered, named⟩ := Guarded.named_of_parse parsed
    have planned := plan_of_named named key outputDir
    refine ⟨by rw [planned, List.map_map]; rfl, ordered.sublist List.filter_sublist, ?_⟩
    intro job member
    rw [planned] at member
    obtain ⟨testCase, enabled, rfl⟩ := List.mem_map.mp member
    have listed := List.mem_of_mem_filter enabled
    obtain ⟨guarded, starts⟩ := named testCase listed
    refine ⟨testCase, enabled, testCase.name,
      activates_of_named lacks below rooted rfl guarded starts fun other also same => ?_⟩
    -- The symbol of a case is its name, and names are distinct.
    rw [(named other also).1] at same
    exact List.inj_on_of_nodup_map distinct also listed (Option.some.inj same)
  · intro unguarded
    have each := Dialect.unguarded_of_parse unguarded parsed
    have planned := plan_of_unguarded each key outputDir
    refine ⟨planned, fun job member => ?_⟩
    have whole : job.testCase = none := by
      rw [planned] at member
      split at member
      · cases member
      · rw [List.mem_singleton.mp member]
    obtain ⟨own, output⟩ := of_mem_plan member
    exact filter_definesCase_of_whole lacks (output ▸ below) (own ▸ rooted) whole
  · intro job member
    obtain ⟨own, -⟩ := of_mem_plan member
    refine ⟨own, ?_, ?_⟩
    · rw [arguments_eq, List.head?_cons]
    · rw [← own]
      exact List.getLast?_concat

end

/-! ## Instances -/

namespace Activated

/-- Settings with all kinds of arguments. -/
def settings : CompilerSettings :=
  { (default : CompilerSettings) with
    binary := "cc", flags := ["-O2", "-DNDEBUG"], std := some "c++17", includeDirs := [.ofParts ["inc"]],
    defines := ["DEBUG"], werror := true, mode := .compileOnly, depfile := true }

theorem lacksCases : settings.LacksCases where
  binary := by unfold LacksCases; decide
  flags := by unfold LacksCases; decide
  defines := by unfold LacksCases; decide

/-- The fragment of a text with a case that is enabled and one that is not. -/
def crossed : Fragment where
  path := .ofParts ["a.nc"]
  text := Guarded.Sample.crossed
  dialect := "guarded"
  cases := [Guarded.caseOf "NCTEST_A" ["x", "y"] ⟨2, 4⟩,
    Guarded.caseOf "DISABLED_NCTEST_B" ["z"] ⟨5, 5⟩]

theorem select_text : Registry.standard.select crossed.text = .ok Guarded.dialect := by
  have detected : Guarded.detects crossed.text = true := by decide +kernel
  rw [Registry.select_standard, detected]
  rfl

theorem parse_text : Fragment.parse .standard crossed.path crossed.text = .ok crossed := by
  have parsed : Guarded.dialect.parse crossed.path crossed.text = .ok crossed.cases :=
    Guarded.Sample.parse_crossed
  rw [Fragment.parse, select_text, Except.ok_bind, parsed]
  rfl

end Activated

open Activated in
/-- For the text with two cases one job is planned, which activates the case that is enabled. -/
theorem Job.plan_activates_crossed :
    Registry.standard.select crossed.text = .ok Guarded.dialect ∧
      Fragment.parse .standard crossed.path crossed.text = .ok crossed ∧
      crossed.path.isAbsolute = true ∧ Path.isAbsolute (.ofParts ["out"]) = true ∧
      settings.LacksCases ∧
      (plan crossed "a.nc" (.ofParts ["out"])).map (·.testCase) = crossed.enabledCases.map some ∧
      ∀ job ∈ plan crossed "a.nc" (.ofParts ["out"]),
        (∃ testCase ∈ crossed.enabledCases, ∃ guard, job.Activates settings testCase guard) ∧
          (job.arguments settings).getLast? = some "/a.nc" := by
  obtain ⟨guarded, -, all⟩ := plan_activates .standard Guarded.dialect crossed.path (.ofParts ["out"])
    crossed.text "a.nc" crossed settings select_text parse_text rfl rfl lacksCases
  obtain ⟨planned, -, activates⟩ := guarded rfl
  exact ⟨select_text, parse_text, rfl, rfl, lacksCases, planned,
    fun job member => ⟨activates job member, (all job member).2.2⟩⟩

end NegativeCompile

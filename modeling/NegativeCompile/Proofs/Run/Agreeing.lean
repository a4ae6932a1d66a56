import NegativeCompile.Proofs.Run.Singling
import NegativeCompile.Testing

/-! # Test items and runs

A test runner collects the items of a fragment and checks them by a run of this fragment alone. What it
says agrees with what a run of all fragments finds out (`items_agree`): there is one item for each
result of a case, in the same order, and each says what the result says; or there is one item for
annotations that cannot be read, which fails with the message of the result. -/

namespace NegativeCompile.Testing

open Files

variable {σ : Type} {settings : Settings} {options : RunOptions} {find : Action Unit}
variable {compile : Job → Action CompileOutput} {outputOf : Job → CompileOutput} {path : Path}
variable {observe : Observer σ} {state last : σ} {item : FragmentResult}
variable {result verified : FragmentResult} {known : KnownResults} {names : List String}
variable {machine : Machine} {world collecting checking after : World}

/-! ## Checking by any compiler -/

/-- What a run finds out about the fragment in a file, with a way to look for the compiler and a way to
compile jobs. -/
def verifyBy (settings : Settings) (find : Action Unit) (compile : Job → Action CompileOutput)
    (path : Path) : Action FragmentResult := do
  let resolved ← (← Action.surroundings).resolve path
  let options : RunOptions := { writeArtifacts := some false }
  let (result, _) ← runWith settings options find compile [resolved] Observer.silent ()
  return result.fragments.headD (.ofError resolved "" "")

/-- A test runner uses the compiler of the settings. -/
theorem verify_eq (settings : Settings) (path : Path) :
    verify settings path = verifyBy settings
      (do let _ ← (Compiler.ofSettings settings.compiler).find)
      (Compiler.ofSettings settings.compiler).compile path :=
  rfl

/-- Check an item, `check` being what runs find out about files. -/
def checkItemBy (check : Path → Action FragmentResult) (known : KnownResults) (item : TestItem) :
    Action (TestOutcome × KnownResults) := do
  match item.kind with
  | .annotations problem => return (.failed s!"malformed annotations: {problem}", known)
  | .testCase name =>
    match known.lookup item.path with
    | some result => return (.ofFragment result name, known)
    | none =>
      match ← observing (check item.path) with
      | .ok result => return (.ofFragment result name, (item.path, result) :: known)
      | .error failure => return (.failed failure.message, known)

/-- Check some items up to a number of failures, `check` being what runs find out about files. -/
def checkItemsBy (check : Path → Action FragmentResult) (known : KnownResults) (limit : Option Nat) :
    List TestItem → Action (List (TestItem × TestOutcome))
  | [] => return []
  | item :: rest => do
    if limit = some 0 then return []
    let (outcome, learned) ← checkItemBy check known item
    let left := if outcome.isFailure then limit.map (· - 1) else limit
    return (item, outcome) :: (← checkItemsBy check learned left rest)

/-- A test runner checks files by runs of their fragments. -/
theorem checkItems_eq (settings : Settings) (known : KnownResults) (limit : Option Nat)
    (items : List TestItem) :
    checkItems settings known limit items = checkItemsBy (verify settings) known limit items := by
  induction items generalizing known limit with
  | nil => rfl
  | cons item rest ih =>
    rw [checkItems, checkItemsBy]
    simp only [ih]
    rfl

section

variable {check : Path → Action FragmentResult}

/-- The items of the cases of a fragment. -/
def itemsOf (path : Path) (names : List String) : List TestItem :=
  names.map fun name => ⟨path, .testCase name⟩

/-- What is said of them, given what a run found out about the fragment. -/
def reportsOf (path : Path) (verified : FragmentResult) (names : List String) :
    List (TestItem × TestOutcome) :=
  names.map fun name => (⟨path, .testCase name⟩, .ofFragment verified name)

/-- Without a bound on failures items are checked one after another. -/
theorem perform_checkItemsBy_cons {rest : List TestItem} {one : TestItem} {outcome : TestOutcome}
    {learned : KnownResults}
    (checked : (checkItemBy check known one).perform machine world = (.ok (outcome, learned), after)) :
    (checkItemsBy check known none (one :: rest)).perform machine world =
      (do
        let others ← checkItemsBy check learned none rest
        return (one, outcome) :: others).perform machine after := by
  have unbounded : ¬ (none : Option Nat) = some 0 := nofun
  rw [checkItemsBy, if_neg unbounded, Action.perform_bind_of_ok checked]
  simp only [Option.map_none, ite_self]

/-- The items of a file are checked by what is known of it. -/
theorem perform_checkItemsBy_of_known (found : known.lookup path = some verified) (names : List String)
    (world : World) :
    (checkItemsBy check known none (itemsOf path names)).perform machine world =
      (.ok (reportsOf path verified names), world) := by
  induction names with
  | nil => rfl
  | cons name rest ih =>
    have one : (checkItemBy check known ⟨path, .testCase name⟩).perform machine world =
        (.ok (.ofFragment verified name, known), world) := by
      rw [checkItemBy]
      simp only [found]
      rfl
    rw [itemsOf, List.map_cons, perform_checkItemsBy_cons one, ← itemsOf,
      Action.perform_bind_of_ok ih]
    rfl

/-- The items of a file are checked by a run of its fragment, which is done at most once. -/
theorem exists_perform_checkItemsBy (unknown : known.lookup path = none) (names : List String)
    (checked : (check path).perform machine world = (.ok verified, after)) :
    ∃ last, (checkItemsBy check known none (itemsOf path names)).perform machine world =
      (.ok (reportsOf path verified names), last) := by
  cases names with
  | nil => exact ⟨world, rfl⟩
  | cons name rest =>
    have observed : (observing (check path)).perform machine world = (.ok (.ok verified), after) := by
      rw [Action.perform_observing, checked]
    have one : (checkItemBy check known ⟨path, .testCase name⟩).perform machine world =
        (.ok (.ofFragment verified name, (path, verified) :: known), after) := by
      rw [checkItemBy]
      simp only [unknown]
      rw [Action.perform_bind_of_ok observed]
      rfl
    have learned : List.lookup path ((path, verified) :: known) = some verified :=
      List.lookup_cons_self
    refine ⟨after, ?_⟩
    rw [itemsOf, List.map_cons, perform_checkItemsBy_cons one, ← itemsOf,
      Action.perform_bind_of_ok (perform_checkItemsBy_of_known learned rest after)]
    rfl

end

/-! ## Collecting -/

/-- The items of a fragment that was read, or the one for annotations that could not be read. -/
def itemsOfRead (path : Path) (item : FragmentResult) : List TestItem :=
  match item.fragment with
  | some fragment => itemsOf path (fragment.cases.map (·.name))
  | none => [⟨path, .annotations (item.error.getD "")⟩]

/-- What could not be read has one item. -/
theorem itemsOfRead_of_error {registry : Registry} {place : Surroundings} {base : Path}
    {problem : String} (read : ReadAs registry place base path item) (error : item.error = some problem) :
    itemsOfRead path item = [⟨path, .annotations problem⟩] := by
  -- What has a message holds no fragment.
  have unread : item.fragment = none := by
    rw [← Option.not_isSome_iff_eq_none, ← read.error_eq_none_iff, error]
    exact Option.some_ne_none problem
  rw [itemsOfRead, unread, error]
  rfl

/-- What was read has an item for each case, by names that are distinct. -/
theorem itemsOfRead_of_cases {registry : Registry} {place : Surroundings} {base : Path}
    {results : List CaseResult} (read : ReadAs registry place base path item) (fine : item.error = none)
    (cases : ∀ fragment, item.fragment = some fragment → (fragment.cases.map (·.name)).Nodup ∧
      results.map (·.testCase) = fragment.cases) :
    itemsOfRead path item = itemsOf path (results.map (·.testCase.name)) ∧
      (results.map (·.testCase.name)).Nodup := by
  obtain ⟨fragment, holds⟩ := Option.isSome_iff_exists.mp (read.error_eq_none_iff.mp fine)
  obtain ⟨distinct, listed⟩ := cases fragment holds
  have names : fragment.cases.map (·.name) = results.map (·.testCase.name) := by
    rw [← listed, List.map_map]
    rfl
  rw [itemsOfRead, holds, ← names]
  exact ⟨rfl, distinct⟩

/-- The items of a file are those of what is read from it. -/
theorem exists_perform_ofFile
    (read : ReadAs collecting.registry ⟨collecting.tree, machine.here⟩ settings.baseDir path item) :
    ∃ last, (TestItem.ofFile path).perform machine collecting =
      (.ok (itemsOfRead path item), last) := by
  obtain ⟨errors, loaded⟩ := loadFragment_perform machine collecting path
  have found := read.load_eq
  -- The attempt returns early, which is an effect of its own, so `rw` does not see the action in it.
  rw [TestItem.ofFile, Action.perform_bind]
  erw [Action.perform_tryCatch]
  cases given : Fragment.load collecting.registry collecting.tree machine.here path with
  | ok fragment =>
    rw [given] at loaded found
    have items : itemsOfRead path item = TestItem.ofFragment path fragment := by
      rw [← Except.ok.inj found]
      simp [TestItem.ofFragment, itemsOfRead, FragmentResult.ofFragment, itemsOf]
    rw [items]
    erw [Action.perform_bind_of_ok loaded]
    exact ⟨_, rfl⟩
  | error failure =>
    rw [given] at loaded found
    erw [Action.perform_bind_of_error loaded]
    cases failure with
    | annotations =>
      rw [← Except.ok.inj found]
      exact ⟨_, rfl⟩
    | _ => cases found

/-- A fragment of a configuration is collected if its name ends as the configuration says. -/
theorem exists_perform_collectFile
    (read : ReadAs collecting.registry ⟨collecting.tree, machine.here⟩ settings.baseDir path item)
    (suffix : path.suffix ∈ settings.suffixes) (listed : path ∈ settings.fragments)
    (resolved : Surroundings.resolve ⟨collecting.tree, machine.here⟩ path = .ok path) :
    ∃ last, (collectFile settings path).perform machine collecting =
      (.ok ⟨itemsOfRead path item, 0⟩, last) := by
  have counts : isListed ⟨collecting.tree, machine.here⟩ settings path = true := by
    rw [isListed, resolved]
    simp [suffix, listed]
  obtain ⟨last, found⟩ := exists_perform_ofFile read
  refine ⟨last, ?_⟩
  rw [collectFile, Action.perform_bind_of_ok Action.perform_surroundings]
  simp only [counts, Bool.not_true, Bool.false_eq_true, ↓reduceIte]
  rw [Action.perform_bind]
  erw [Action.perform_tryCatch, Action.perform_bind_of_ok found]
  rfl

/-! ## What items say -/

/-- An outcome tells what a result of a case says. -/
structure Tells (found : CaseResult) (outcome : TestOutcome) : Prop where
  /-- The item is skipped just if the case was. -/
  skipped : (∃ reason, outcome = .skipped reason) ↔ found.skipped = true
  /-- The item passes just if the case did. -/
  passed : outcome = .passed ↔ found.passed = true
  /-- Otherwise the item fails with all that is known of the case. -/
  failed : found.skipped = false → found.passed = false → outcome = .failed found.describe

/-- A result of a case gives an outcome that tells what it says. -/
theorem tells_ofCase (found : CaseResult) : Tells found (.ofCase found) := by
  rw [TestOutcome.ofCase]
  cases skipped : found.skipped with
  | true =>
    have other : found.passed = false := by
      simp_all [CaseResult.skipped, CaseResult.passed]
    refine ⟨?_, ?_, ?_⟩ <;> simp [skipped, other]
  | false =>
    cases passed : found.passed <;> refine ⟨?_, ?_, ?_⟩ <;> simp [skipped, passed]

/-- The number of a compiler run does not show in an outcome. -/
theorem ofCase_unnumbered (found : CaseResult) :
    TestOutcome.ofCase found.unnumbered = .ofCase found := by
  have describe : found.unnumbered.describe = found.describe := by
    rw [CaseResult.describe, CaseResult.describe, CaseResult.unnumbered]
    cases found.compilation <;> rfl
  rw [TestOutcome.ofCase, describe]
  rfl

/-- The case of an item is found in results that say the same, and so is its outcome. -/
theorem exists_find_of_saysSame (same : SaysSame result verified) (fine : result.error = none)
    (distinct : (result.cases.map (·.testCase.name)).Nodup) {found : CaseResult}
    (member : found ∈ result.cases) :
    ∃ also ∈ verified.cases,
      verified.cases.reverse.find? (·.testCase.name = found.testCase.name) = some also ∧
        also.testCase = found.testCase ∧
          TestOutcome.ofFragment verified found.testCase.name = .ofCase found := by
  have names : verified.cases.map (·.testCase.name) = result.cases.map (·.testCase.name) := by
    have equal := congrArg (List.map (·.testCase.name)) same.cases_eq
    rw [List.map_map, List.map_map] at equal
    exact equal
  have mapped : found.unnumbered ∈ verified.cases.map CaseResult.unnumbered := by
    rw [same.cases_eq]
    exact List.mem_map_of_mem member
  obtain ⟨also, listed, equal⟩ := List.mem_map.mp mapped
  have about := congrArg CaseResult.testCase equal
  change also.testCase = found.testCase at about
  -- Names are distinct, so the last result under the name is the only one.
  have only : verified.cases.reverse.find? (·.testCase.name = found.testCase.name) = some also := by
    rw [← names] at distinct
    refine List.find?_eq_some_of_unique (List.mem_reverse.mpr listed) (by simp [about]) ?_
    intro other among sameName
    rw [← about] at sameName
    exact List.inj_on_of_nodup_map distinct (List.mem_reverse.mp among) listed (by simpa using sameName)
  have unharmed : verified.error = none := same.about.2.2.2.trans fine
  refine ⟨also, listed, only, about, ?_⟩
  simp only [TestOutcome.ofFragment, unharmed, only]
  rw [← ofCase_unnumbered, equal, ofCase_unnumbered]

/-- What a test runner says of a fragment agrees with the result of a run. -/
inductive Agrees (path : Path) (result : FragmentResult) :
    List TestItem → List (TestItem × TestOutcome) → Prop where
  /-- Annotations that could not be read are one item, which fails with the message of the result. -/
  | annotations {problem : String} (error : result.error = some problem) :
      Agrees path result [⟨path, .annotations problem⟩]
        [(⟨path, .annotations problem⟩, .failed ("malformed annotations: " ++ problem))]
  /-- Each result of a case is one item, in the same order, which tells what the result says. -/
  | cases {reports : List (TestItem × TestOutcome)} (fine : result.error = none)
      (each : List.Forall₂ (fun found report =>
        report.1 = ⟨path, .testCase found.testCase.name⟩ ∧ Tells found report.2) result.cases reports) :
      Agrees path result (reports.map Prod.fst) reports

/-- The reports on the items of a fragment agree with a result that says the same. -/
theorem agrees_reportsOf (same : SaysSame result verified) (fine : result.error = none)
    (distinct : (result.cases.map (·.testCase.name)).Nodup) :
    Agrees path result (itemsOf path (result.cases.map (·.testCase.name)))
      (reportsOf path verified (result.cases.map (·.testCase.name))) := by
  have items : itemsOf path (result.cases.map (·.testCase.name)) =
      (reportsOf path verified (result.cases.map (·.testCase.name))).map Prod.fst := by
    simp [itemsOf, reportsOf, Function.comp_def]
  have each : List.Forall₂ (fun found report =>
      report.1 = ⟨path, .testCase found.testCase.name⟩ ∧ Tells found report.2) result.cases
        (reportsOf path verified (result.cases.map (·.testCase.name))) := by
    rw [reportsOf, List.map_map, List.forall₂_map_right_iff, List.forall₂_same]
    intro found member
    obtain ⟨_, -, -, -, outcome⟩ := exists_find_of_saysSame same fine distinct member
    refine ⟨rfl, ?_⟩
    rw [Function.comp, outcome]
    exact tells_ofCase found
  rw [items]
  exact .cases fine each

/-! ## Agreement -/

/-- The settings of the sample with the ending of its fragment. -/
def sampleSettings : Settings := { Sample.settings with suffixes := [".nc"] }

end NegativeCompile.Testing

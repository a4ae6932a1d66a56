import NegativeCompile.Proofs.Action
import NegativeCompile.Proofs.Except
import NegativeCompile.Proofs.Lists
import NegativeCompile.Running

/-! # Results of reading fragments

Reading fragments changes nothing but the records, and what it gives depends on the dialects and the
files alone (`loadFrom_perform`). Every path has one result under its key, and a key stands for one
path, so the key of a result tells which path it is about (`readAs_of_loadedFrom`). What the results have
in common (`Loaded`): a result holds either a fragment, whose cases have distinct names, or a message, and
two results with one key are the same result. Distinct paths have distinct keys (`nodup_keys`). -/

namespace NegativeCompile

open Files

variable {registry : Registry} {place : Surroundings} {base path : Path} {key : String}
variable {machine : Machine} {world : World}

/-! ## One fragment -/

/-- A path has the same key wherever it and the base directory lead to the same. -/
theorem Surroundings.fragmentKey_congr {other : Surroundings}
    (own : place.resolve path = other.resolve path)
    (root : place.resolve base = other.resolve base) :
    place.fragmentKey path (some base) = other.fragmentKey path (some base) := by
  simp only [fragmentKey, own, root]

/-- The result of an attempt to read a fragment: annotations that cannot be read are a result too. -/
def FragmentResult.ofLoad (path : Path) (key : String) :
    Except Failure Fragment → Except Failure FragmentResult
  | .ok fragment => .ok (.ofFragment path key fragment)
  | .error failure =>
    match failure with
    | .annotations _ _ _ => .ok (.ofError path key failure.message)
    | _ => .error failure

/-- A failure is about the annotations of a fragment. -/
def Failure.IsAnnotations (failure : Failure) : Prop :=
  ∃ path line reason, failure = .annotations path line reason

/-- A failure that names annotations is about them. -/
theorem Failure.isAnnotations_annotations (path : Path) (line : Option Nat) (reason : String) :
    IsAnnotations (.annotations path line reason) :=
  ⟨path, line, reason, rfl⟩

/-- A fragment that fails for its annotations only has a result. -/
theorem FragmentResult.exists_ofLoad {found : Except Failure Fragment}
    (only : Except.FailsOnly Failure.IsAnnotations found) (path : Path) (key : String) :
    ∃ item, FragmentResult.ofLoad path key found = .ok item := by
  rcases only.exists_ok_or_error with ⟨fragment, rfl⟩ | ⟨failure, rfl, file, line, reason, rfl⟩
  · exact ⟨_, rfl⟩
  · exact ⟨_, rfl⟩

/-- Reading the fragment at a path for its annotations leaves a record at most. -/
theorem loadFragment_perform (machine : Machine) (world : World) (path : Path) :
    ∃ errors, (Action.loadFragment path).perform machine world =
      (Fragment.load world.registry world.tree machine.here path,
        world.withErrors errors) := by
  rw [Action.loadFragment, Action.perform_bind_of_ok Action.perform_get,
    Action.perform_bind_of_ok Action.perform_read]
  cases Fragment.load world.registry world.tree machine.here path with
  | error failure => exact ⟨world.console.errors, Action.perform_lift_bind_error failure _⟩
  | ok fragment =>
    obtain ⟨errors, noted⟩ := Action.perform_note machine world .reading
      s!"parsed {path} with {fragment.dialect} dialect: {fragment.cases.length} case(s)"
    refine ⟨errors, ?_⟩
    rw [Action.perform_lift_bind_ok, Action.perform_bind_of_ok noted, Action.perform_pure]

/-- Reading one fragment gives its result and leaves records at most. -/
theorem loadOne_perform (machine : Machine) (world : World) (path : Path) (key : String) :
    ∃ errors, (loadOne path key).perform machine world =
      (FragmentResult.ofLoad path key
          (Fragment.load world.registry world.tree machine.here path),
        world.withErrors errors) := by
  obtain ⟨errors, loaded⟩ := loadFragment_perform machine world path
  rw [loadOne, Action.perform_tryCatch, ← bind_pure_comp, Action.perform_bind, loaded]
  cases Fragment.load world.registry world.tree machine.here path with
  | ok fragment => exact ⟨errors, rfl⟩
  | error failure =>
    cases failure with
    | annotations file line reason =>
      obtain ⟨last, noted⟩ := Action.perform_note machine (world.withErrors errors) .running
        s!"structural error in {path}: {(Failure.annotations file line reason).message}"
      refine ⟨last, ?_⟩
      simp only [FragmentResult.ofLoad]
      rw [Action.perform_bind_of_ok noted, Action.perform_pure, World.withErrors_withErrors]
    | _ => exact ⟨errors, rfl⟩

/-! ## Several fragments -/

/-- The results of reading the fragments at some paths, as the dialects and the files have it. -/
def loadedFrom (registry : Registry) (place : Surroundings) (base : Path)
    (known : List (String × Path)) : List Path → Except Failure (List FragmentResult)
  | [] => .ok []
  | path :: rest => do
    let key ← place.fragmentKey path (some base)
    checkKey known path key
    let item ← FragmentResult.ofLoad path key
      (Fragment.load registry place.tree place.here path)
    let others ← loadedFrom registry place base ((key, path) :: known) rest
    return item :: others

/-- Reading fragments gives their results and leaves records at most. -/
theorem loadFrom_perform (machine : Machine) (world : World) (base : Path)
    (known : List (String × Path)) (paths : List Path) :
    ∃ errors, (loadFrom base known paths).perform machine world =
      (loadedFrom world.registry ⟨world.tree, machine.here⟩ base known paths,
        world.withErrors errors) := by
  induction paths generalizing known world with
  | nil => exact ⟨world.console.errors, rfl⟩
  | cons path rest ih =>
    rw [loadFrom, loadedFrom, Action.perform_bind_of_ok Action.perform_surroundings]
    -- A failure of the key, of its check or of reading ends both sides alike: only the last case
    -- goes on.
    cases Surroundings.fragmentKey ⟨world.tree, machine.here⟩ path (some base) with
    | error failure => exact ⟨world.console.errors, Action.perform_lift_bind_error failure _⟩
    | ok key =>
      rw [Action.perform_lift_bind_ok]
      cases checked : checkKey known path key with
      | error failure =>
        refine ⟨world.console.errors, ?_⟩
        rw [Action.perform_lift_bind_error, World.withErrors_errors]
        simp only [bind, Except.bind, checked]
      | ok _ =>
        rw [Action.perform_lift_bind_ok]
        obtain ⟨errors, read⟩ := loadOne_perform machine world path key
        cases one : FragmentResult.ofLoad path key
            (Fragment.load world.registry world.tree machine.here path) with
        | error failure =>
          refine ⟨errors, ?_⟩
          rw [Action.perform_bind_of_error (read.trans (by rw [one]))]
          simp only [bind, Except.bind, checked, one]
        | ok item =>
          obtain ⟨last, others⟩ := ih (world.withErrors errors) ((key, path) :: known)
          refine ⟨last, ?_⟩
          rw [Action.perform_bind_of_ok (read.trans (by rw [one])), Action.perform_bind, others]
          simp only [bind, Except.bind, checked, one, World.withErrors_tree,
            World.withErrors_registry, World.withErrors_withErrors]
          cases loadedFrom world.registry ⟨world.tree, machine.here⟩ base ((key, path) :: known)
              rest <;> rfl

/-! ## Keys -/

/-- Among entries of keys and paths a key stands for one path. -/
def KeysApart (entries : List (String × Path)) : Prop :=
  ∀ entry ∈ entries, ∀ other ∈ entries, entry.1 = other.1 → entry.2 = other.2

/-- A key that passes the check still stands for one path once it is known. -/
theorem KeysApart.cons {known : List (String × Path)} (apart : KeysApart known)
    (checked : checkKey known path key = .ok ()) : KeysApart ((key, path) :: known) := by
  -- The check looked up the first known entry with the key, and the others stand for its path too.
  have agrees : ∀ entry ∈ known, entry.1 = key → entry.2 = path := by
    intro entry member same
    unfold checkKey at checked
    cases found : known.lookup key with
    | none =>
      rw [List.lookup_eq_none_iff] at found
      exact absurd same.symm (by simpa using found entry member)
    | some other =>
      rw [found] at checked
      obtain ⟨before, rest, rfl, -⟩ := List.lookup_eq_some_iff.mp found
      have equal : other = path := by
        by_contra differs
        simp [differs] at checked
      rw [apart entry member (key, other) (by simp) same, equal]
  intro entry member other also same
  rcases List.mem_cons.mp member with rfl | member
  · rcases List.mem_cons.mp also with rfl | also
    · rfl
    · exact (agrees other also same.symm).symm
  · rcases List.mem_cons.mp also with rfl | also
    · exact agrees entry member same
    · exact apart entry member other also same

/-! ## What the results have in common -/

/-- A path is read as a result: under its key, and as what lies there. -/
structure ReadAs (registry : Registry) (place : Surroundings) (base path : Path)
    (item : FragmentResult) : Prop where
  /-- The key is that of the path. -/
  key_eq : place.fragmentKey path (some base) = .ok item.key
  /-- The result is what an attempt to read the fragment gives. -/
  load_eq : FragmentResult.ofLoad path item.key
    (Fragment.load registry place.tree place.here path) = .ok item

/-- The result of an attempt to read a fragment is about its path. -/
theorem FragmentResult.path_eq_of_ofLoad {found : Except Failure Fragment} {item : FragmentResult}
    (read : FragmentResult.ofLoad path key found = .ok item) : item.path = path ∧ item.key = key := by
  unfold FragmentResult.ofLoad at read
  split at read
  · cases read
    exact ⟨rfl, rfl⟩
  · split at read
    · cases read
      exact ⟨rfl, rfl⟩
    · cases read

/-- A path is read as one result only. -/
theorem ReadAs.unique {item other : FragmentResult} (read : ReadAs registry place base path item)
    (also : ReadAs registry place base path other) : item = other := by
  have sameKey : item.key = other.key := by
    have equal := read.key_eq.symm.trans also.key_eq
    exact Except.ok.inj equal
  have equal := read.load_eq.symm.trans (sameKey ▸ also.load_eq)
  exact Except.ok.inj equal

/-- Every path has its result, and among all results, and what was known before, a key stands for
one path. -/
theorem readAs_of_loadedFrom {known : List (String × Path)} {paths : List Path}
    {items : List FragmentResult} (apart : KeysApart known)
    (loaded : loadedFrom registry place base known paths = .ok items) :
    List.Forall₂ (ReadAs registry place base) paths items ∧
      KeysApart (items.map (fun item => (item.key, item.path)) ++ known) := by
  -- What is known grows by each key that passes, so both are kept apart together.
  induction paths generalizing known items with
  | nil =>
    cases loaded
    exact ⟨.nil, apart⟩
  | cons path rest ih =>
    simp only [loadedFrom, Except.bind_eq_ok_iff] at loaded
    obtain ⟨key, keyed, _, checked, item, one, others, more, equal⟩ := loaded
    cases equal
    obtain ⟨samePath, sameKey⟩ := FragmentResult.path_eq_of_ofLoad one
    obtain ⟨reads, all⟩ := ih (apart.cons checked) more
    refine ⟨.cons ⟨?_, ?_⟩ reads, ?_⟩
    · rw [keyed, sameKey]
    · rw [sameKey, one]
    · intro entry member other also
      refine all entry ?_ other ?_
      · simpa [samePath, sameKey, or_left_comm, or_assoc] using member
      · simpa [samePath, sameKey, or_left_comm, or_assoc] using also

end NegativeCompile

namespace NegativeCompile

open Files

variable {registry : Registry} {place : Surroundings} {base path : Path}
variable {machine : Machine} {world after : World}

/-! ## Names -/

/-- Cases whose names pass the check have distinct names, none of which was seen before. -/
theorem nodup_names_of_checkNames {seen cases : List TestCase}
    (checked : checkNames path seen cases = .ok ()) :
    (cases.map (·.name)).Nodup ∧
      ∀ testCase ∈ cases, ∀ earlier ∈ seen, earlier.name ≠ testCase.name := by
  -- A name clashes only with an earlier one, so what was seen belongs to the statement.
  induction cases generalizing seen with
  | nil => exact ⟨List.nodup_nil, fun _ member => absurd member List.not_mem_nil⟩
  | cons testCase rest ih =>
    rw [checkNames] at checked
    cases found : seen.find? (·.name = testCase.name) with
    | some earlier =>
      rw [found] at checked
      cases checked
    | none =>
      rw [found] at checked
      have unseen : ∀ earlier ∈ seen, earlier.name ≠ testCase.name := by
        intro earlier member
        have differs := List.find?_eq_none.mp found earlier member
        simpa using differs
      obtain ⟨distinct, apart⟩ := ih checked
      refine ⟨List.nodup_cons.mpr ⟨?_, distinct⟩, ?_⟩
      · intro again
        obtain ⟨other, member, same⟩ := List.mem_map.mp again
        exact apart other member testCase List.mem_cons_self same.symm
      · intro other member earlier before
        rcases List.mem_cons.mp member with rfl | member
        · exact unseen earlier before
        · exact apart other member earlier (List.mem_cons_of_mem _ before)

/-- The cases of a fragment that was read have distinct names. -/
theorem Fragment.nodup_names_of_load {tree : Tree} {start : Place} {fragment : Fragment}
    (loaded : Fragment.load registry tree start path = .ok fragment) :
    (fragment.cases.map (·.name)).Nodup := by
  simp only [Fragment.load, Fragment.parse, Except.bind_eq_ok_iff] at loaded
  obtain ⟨text, -, dialect, -, cases, -, _, checked, equal⟩ := loaded
  cases equal
  exact (nodup_names_of_checkNames checked).1

/-! ## Results -/

/-- What the results of reading fragments have in common. -/
structure Loaded (items : List FragmentResult) : Prop where
  /-- Results with one key are the same. -/
  eq_of_key : ∀ item ∈ items, ∀ other ∈ items, item.key = other.key → item = other
  /-- There is a message just if there is no fragment. -/
  error_eq_none_iff : ∀ item ∈ items, item.error = none ↔ item.fragment.isSome
  /-- The cases of a fragment have distinct names. -/
  nodup_names : ∀ item ∈ items, ∀ fragment, item.fragment = some fragment →
    (fragment.cases.map (·.name)).Nodup
  /-- No case has a result yet. -/
  cases_eq_nil : ∀ item ∈ items, item.cases = []

/-- A result of reading holds a message just if it holds no fragment. -/
theorem ReadAs.error_eq_none_iff {item : FragmentResult}
    (read : ReadAs registry place base path item) : item.error = none ↔ item.fragment.isSome := by
  have equal := read.load_eq
  unfold FragmentResult.ofLoad at equal
  split at equal
  · rw [← Except.ok.inj equal]
    simp [FragmentResult.ofFragment]
  · split at equal
    · rw [← Except.ok.inj equal]
      simp [FragmentResult.ofError]
    · cases equal

/-- The fragment that a result of reading holds is what was read. -/
theorem ReadAs.load_eq_ok {item : FragmentResult} {fragment : Fragment}
    (read : ReadAs registry place base path item) (holds : item.fragment = some fragment) :
    Fragment.load registry place.tree place.here path = .ok fragment := by
  have equal := read.load_eq
  unfold FragmentResult.ofLoad at equal
  split at equal
  next other loaded =>
    rw [← Except.ok.inj equal] at holds
    rw [loaded, Option.some.inj holds]
  next failure loaded =>
    split at equal
    · rw [← Except.ok.inj equal] at holds
      cases holds
    · cases equal

/-- A result of reading holds no results of cases and has no generated test. -/
theorem ReadAs.isFresh {item : FragmentResult} (read : ReadAs registry place base path item) :
    item.cases = [] ∧ item.artifact = none := by
  have equal := read.load_eq
  unfold FragmentResult.ofLoad at equal
  split at equal
  · rw [← Except.ok.inj equal]
    exact ⟨rfl, rfl⟩
  · split at equal
    · rw [← Except.ok.inj equal]
      exact ⟨rfl, rfl⟩
    · cases equal

/-- A result of reading holds no results of cases. -/
theorem ReadAs.cases_eq_nil {item : FragmentResult}
    (read : ReadAs registry place base path item) : item.cases = [] :=
  read.isFresh.1

/-- The results of reading fragments are those of their paths, and no file is changed. -/
theorem loadFragments_eq_ok {paths : List Path} {items : List FragmentResult}
    (loaded : (loadFragments base paths).perform machine world = (.ok items, after)) :
    List.Forall₂ (ReadAs world.registry ⟨world.tree, machine.here⟩ base) paths items ∧
      KeysApart (items.map fun item => (item.key, item.path)) ∧ after.tree = world.tree := by
  obtain ⟨errors, performed⟩ := loadFrom_perform machine world base [] paths
  rw [loadFragments, performed] at loaded
  obtain ⟨found, rfl⟩ := Prod.mk.inj loaded
  have nothing : KeysApart [] := fun _ member => absurd member List.not_mem_nil
  obtain ⟨reads, apart⟩ := readAs_of_loadedFrom nothing found
  rw [List.append_nil] at apart
  exact ⟨reads, apart, rfl⟩

/-- The results of reading fragments have in common what is expected of them. -/
theorem Loaded.of_loadFragments {paths : List Path} {items : List FragmentResult}
    (loaded : (loadFragments base paths).perform machine world = (.ok items, after)) :
    Loaded items := by
  obtain ⟨reads, apart, -⟩ := loadFragments_eq_ok loaded
  refine ⟨?_, ?_, ?_, ?_⟩
  · intro item member other also sameKey
    obtain ⟨path, -, read⟩ := List.Forall₂.exists_of_mem_right reads member
    obtain ⟨target, -, again⟩ := List.Forall₂.exists_of_mem_right reads also
    -- Equal keys mean equal paths, and a path is read as one result only.
    have samePath := apart (item.key, item.path) (List.mem_map_of_mem member)
      (other.key, other.path) (List.mem_map_of_mem also) sameKey
    have here := (FragmentResult.path_eq_of_ofLoad read.load_eq).1
    have there := (FragmentResult.path_eq_of_ofLoad again.load_eq).1
    have equal : path = target := here.symm.trans (samePath.trans there)
    exact read.unique (equal ▸ again)
  · intro item member
    obtain ⟨path, -, read⟩ := List.Forall₂.exists_of_mem_right reads member
    exact read.error_eq_none_iff
  · intro item member fragment holds
    obtain ⟨path, -, read⟩ := List.Forall₂.exists_of_mem_right reads member
    exact Fragment.nodup_names_of_load (read.load_eq_ok holds)
  · intro item member
    obtain ⟨path, -, read⟩ := List.Forall₂.exists_of_mem_right reads member
    exact read.cases_eq_nil

/-- Distinct paths have distinct keys. -/
theorem nodup_keys {paths : List Path} {items : List FragmentResult} (distinct : paths.Nodup)
    (loaded : (loadFragments base paths).perform machine world = (.ok items, after)) :
    (items.map (·.key)).Nodup := by
  obtain ⟨reads, apart, -⟩ := loadFragments_eq_ok loaded
  have samePaths : items.map (·.path) = paths := by
    clear apart distinct loaded
    induction reads with
    | nil => rfl
    | cons read _ ih => rw [List.map_cons, ih, (FragmentResult.path_eq_of_ofLoad read.load_eq).1]
  rw [← samePaths] at distinct
  refine List.Nodup.map_on ?_ distinct.of_map
  intro item member other also sameKey
  have samePath := apart (item.key, item.path) (List.mem_map_of_mem member)
    (other.key, other.path) (List.mem_map_of_mem also) sameKey
  exact List.inj_on_of_nodup_map distinct member also samePath

end NegativeCompile

import NegativeCompile.Proofs.Run.Loaded

/-! # Keys that clash

Two different paths with one key clash. If every path has a key and fragments fail for their
annotations only, then reading fragments is refused if two of their paths clash, and it gives one
result for each path in all other cases (`loadFragments_outcome`). -/

namespace NegativeCompile

open Files

variable {registry : Registry} {place : Surroundings} {base path first second : Path} {key : String}
variable {known : List (String × Path)} {paths : List Path} {items : List FragmentResult}

/-! ## Clashes -/

/-- What is said of two paths with one key. -/
def clashMessage (first second : Path) (key : String) : String :=
  s!"Fragments {first} and {second} map to the same output key '{key}'"

/-- Two different paths of a list have one key. -/
structure Clash (place : Surroundings) (base : Path) (paths : List Path) (first second : Path)
    (key : String) : Prop where
  /-- The first path is in the list. -/
  first_mem : first ∈ paths
  /-- The second path is in the list. -/
  second_mem : second ∈ paths
  /-- The paths differ. -/
  ne : first ≠ second
  /-- The key is that of the first path. -/
  first_key : place.fragmentKey first (some base) = .ok key
  /-- The key is that of the second path. -/
  second_key : place.fragmentKey second (some base) = .ok key

/-- A key passes its check, or it is that of another path that is known. -/
theorem checkKey_outcome (known : List (String × Path)) (path : Path) (key : String) :
    checkKey known path key = .ok () ∨
      ∃ other, (key, other) ∈ known ∧ other ≠ path ∧
        checkKey known path key = .error (.configuration (clashMessage other path key)) := by
  unfold checkKey
  cases found : known.lookup key with
  | none => exact .inl rfl
  | some other =>
    obtain ⟨before, rest, rfl, -⟩ := List.lookup_eq_some_iff.mp found
    by_cases same : other = path
    · exact .inl (if_pos same)
    · exact .inr ⟨other, by simp, same, if_neg same⟩

/-- Reading fragments, some being known before, gives results or is refused for a clash. -/
theorem loadedFrom_outcome
    (entries : ∀ entry ∈ known, place.fragmentKey entry.2 (some base) = .ok entry.1)
    (keyed : ∀ path ∈ paths, ∃ key, place.fragmentKey path (some base) = .ok key)
    (only : ∀ path ∈ paths, Except.FailsOnly Failure.IsAnnotations
      (Fragment.load registry place.tree place.here path)) :
    (∃ items, loadedFrom registry place base known paths = .ok items) ∨
      ∃ first second key, Clash place base (known.map (·.2) ++ paths) first second key ∧
        loadedFrom registry place base known paths =
          .error (.configuration (clashMessage first second key)) := by
  -- Induction on the paths: each one has its key before the next one is looked at, so the keys of
  -- all paths that are known are right all along.
  induction paths generalizing known with
  | nil => exact .inl ⟨[], rfl⟩
  | cons path rest ih =>
    obtain ⟨key, named⟩ := keyed path List.mem_cons_self
    simp only [loadedFrom, named, Except.ok_bind]
    rcases checkKey_outcome known path key with passed | ⟨other, seen, differ, refused⟩
    · obtain ⟨item, read⟩ := FragmentResult.exists_ofLoad (only path List.mem_cons_self) path key
      have further : ∀ entry ∈ (key, path) :: known,
          place.fragmentKey entry.2 (some base) = .ok entry.1 := by
        intro entry member
        rcases List.mem_cons.mp member with rfl | member
        · exact named
        · exact entries entry member
      rw [passed, read]
      simp only [Except.ok_bind]
      rcases ih further (fun other member => keyed other (List.mem_cons_of_mem _ member))
          (fun other member => only other (List.mem_cons_of_mem _ member)) with
        ⟨items, loaded⟩ | ⟨first, second, shared, clash, refused⟩
      · rw [loaded]
        exact .inl ⟨item :: items, rfl⟩
      · rw [refused]
        refine .inr ⟨first, second, shared, ⟨?_, ?_, clash.ne, clash.first_key, clash.second_key⟩, rfl⟩
        · simpa [or_left_comm] using clash.first_mem
        · simpa [or_left_comm] using clash.second_mem
    · rw [refused]
      refine .inr ⟨other, path, key, ⟨?_, ?_, differ, entries _ seen, named⟩, rfl⟩
      · exact List.mem_append_left _ (List.mem_map.mpr ⟨_, seen, rfl⟩)
      · exact List.mem_append_right _ List.mem_cons_self

/-- No paths clash if their fragments were read. -/
theorem not_clash_of_reads (reads : List.Forall₂ (ReadAs registry place base) paths items)
    (apart : KeysApart (items.map fun item => (item.key, item.path))) :
    ¬ Clash place base paths first second key := by
  rintro ⟨firstMember, secondMember, differ, firstKey, secondKey⟩
  obtain ⟨item, listed, read⟩ := List.Forall₂.exists_of_mem_left reads firstMember
  obtain ⟨other, also, again⟩ := List.Forall₂.exists_of_mem_left reads secondMember
  have sameKey : item.key = other.key := by
    have here := Except.ok.inj (read.key_eq.symm.trans firstKey)
    have there := Except.ok.inj (again.key_eq.symm.trans secondKey)
    exact here.trans there.symm
  have samePath := apart (item.key, item.path) (List.mem_map_of_mem listed)
    (other.key, other.path) (List.mem_map_of_mem also) sameKey
  rw [(FragmentResult.path_eq_of_ofLoad read.load_eq).1,
    (FragmentResult.path_eq_of_ofLoad again.load_eq).1] at samePath
  exact differ samePath

/-- Reading fragments that have keys and fail for their annotations only gives the results of their
paths if no two of these clash, and is refused for a clash otherwise. It leaves records at most. -/
theorem loadFragments_outcome (machine : Machine) (world : World)
    (keyed : ∀ path ∈ paths, ∃ key,
      Surroundings.fragmentKey ⟨world.tree, machine.here⟩ path (some base) = .ok key)
    (only : ∀ path ∈ paths, Except.FailsOnly Failure.IsAnnotations
      (Fragment.load world.registry world.tree machine.here path)) :
    ∃ errors,
      (∃ items, (loadFragments base paths).perform machine world =
          (.ok items, world.withErrors errors) ∧
        List.Forall₂ (ReadAs world.registry ⟨world.tree, machine.here⟩ base) paths items ∧
          ∀ first second key, ¬ Clash ⟨world.tree, machine.here⟩ base paths first second key) ∨
      ∃ first second key, Clash ⟨world.tree, machine.here⟩ base paths first second key ∧
        (loadFragments base paths).perform machine world =
          (.error (.configuration (clashMessage first second key)), world.withErrors errors) := by
  obtain ⟨errors, performed⟩ := loadFrom_perform machine world base [] paths
  refine ⟨errors, ?_⟩
  rw [loadFragments, performed]
  have none : ∀ entry ∈ ([] : List (String × Path)),
      Surroundings.fragmentKey ⟨world.tree, machine.here⟩ entry.2 (some base) = .ok entry.1 :=
    fun _ member => absurd member List.not_mem_nil
  rcases loadedFrom_outcome none keyed only with ⟨items, loaded⟩ | ⟨first, second, key, clash, refused⟩
  · have nothing : KeysApart [] := fun _ member => absurd member List.not_mem_nil
    obtain ⟨reads, apart⟩ := readAs_of_loadedFrom nothing loaded
    rw [List.append_nil] at apart
    refine .inl ⟨items, by rw [loaded], reads, fun first second key => ?_⟩
    exact not_clash_of_reads reads apart
  · exact .inr ⟨first, second, key, clash, by rw [refused]⟩

end NegativeCompile

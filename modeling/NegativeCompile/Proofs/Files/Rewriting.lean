import NegativeCompile.Proofs.Files.Growing

/-! # Writing files again

What is done to a tree by making directories and writing files (`Tree.Written`) lets the tree grow. To
put the same files there again, in the same order, changes nothing (`Tree.Written.put_eq_self`), even if
a file was written more than once. -/

namespace NegativeCompile.Files

variable {before between after tree : Tree} {start place other : Place} {entry new : Entry}
variable {entries : List (Place × Entry)} {puts more : List (Place × Entry)}

/-! ## Entries that are set -/

namespace Tree

/-- An entry at another place is passed over. -/
theorem lookup_cons_of_ne (differ : other ≠ place) :
    List.lookup place ((other, entry) :: entries) = entries.lookup place := by
  have unequal : (place == other) = false := by simpa using Ne.symm differ
  rw [List.lookup_cons, unequal]

/-- An entry that is there already changes nothing. -/
theorem setIn_eq_self (lies : entries.lookup place = some entry) :
    setIn place entry entries = entries := by
  induction entries with
  | nil => cases lies
  | cons first rest ih =>
    obtain ⟨here, lying⟩ := first
    rw [setIn]
    by_cases same : here = place
    · subst same
      rw [List.lookup_cons_self] at lies
      rw [if_pos rfl, Option.some.inj lies]
    · rw [lookup_cons_of_ne same] at lies
      rw [if_neg same, ih lies]

/-- Only the last entry that is set at a place counts. -/
theorem setIn_setIn (place : Place) (entry new : Entry) (entries : List (Place × Entry)) :
    setIn place new (setIn place entry entries) = setIn place new entries := by
  induction entries with
  | nil => simp [setIn]
  | cons first rest ih =>
    by_cases same : first.1 = place
    · simp [setIn, same]
    · simp [setIn, same, ih]

/-- Entries may be set at two places in any order, if one of the places is taken. -/
theorem setIn_comm (differ : place ≠ other) (taken : entries.lookup place ≠ none) :
    setIn other new (setIn place entry entries) = setIn place entry (setIn other new entries) := by
  induction entries with
  | nil => exact absurd rfl taken
  | cons first rest ih =>
    obtain ⟨here, lying⟩ := first
    by_cases same : here = place
    · subst same
      simp [setIn, differ]
    · rw [lookup_cons_of_ne same] at taken
      by_cases also : here = other
      · subst also
        simp [setIn, same]
      · simp [setIn, same, also, ih taken]

/-- What is no link leads nowhere. -/
theorem target?_eq_none (plain : ∀ target, entry ≠ .link target) : entry.target? = none := by
  cases entry with
  | directory => rfl
  | file content executable => rfl
  | link target => exact absurd rfl (plain target)

/-- Where links lead does not change if neither the old nor the new entry is a link. -/
theorem targets_setIn (plain : ∀ target, entry ≠ .link target)
    (unlinked : ∀ target, entries.lookup place ≠ some (.link target)) :
    targets ⟨setIn place entry entries⟩ = targets ⟨entries⟩ := by
  unfold targets
  dsimp only
  induction entries with
  | nil => rw [setIn, List.filterMap_cons, target?_eq_none plain]
  | cons first rest ih =>
    obtain ⟨here, lying⟩ := first
    rw [setIn]
    by_cases same : here = place
    · subst same
      rw [List.lookup_cons_self] at unlinked
      rw [if_pos rfl, List.filterMap_cons, List.filterMap_cons, target?_eq_none plain,
        target?_eq_none fun target link => unlinked target (congrArg some link)]
    · rw [lookup_cons_of_ne same] at unlinked
      rw [if_neg same, List.filterMap_cons, List.filterMap_cons, ih unlinked]

/-- A tree stays as it is if an entry is set that is there already. -/
theorem set_eq_self (below : place ≠ []) (lies : tree.entry? place = some entry) :
    tree.set place entry = tree := by
  rw [ entry?, if_neg (by simpa using below)] at lies
  rw [set, setIn_eq_self lies]

/-- Only the last entry that is set at a place counts. -/
theorem set_set (tree : Tree) (place : Place) (entry new : Entry) :
    (tree.set place entry).set place new = tree.set place new := by
  rw [set, set, set, setIn_setIn]

/-- Entries may be set at two places in any order, if one of the places is taken. -/
theorem set_comm (differ : place ≠ other) (below : place ≠ []) (taken : tree.entry? place ≠ none) :
    (tree.set place entry).set other new = (tree.set other new).set place entry := by
  rw [ entry?, if_neg (by simpa using below)] at taken
  rw [set, set, set, set, setIn_comm differ taken]

/-! ## Puts -/

/-- What has no entry is not the root. -/
theorem ne_root_of_nothing (nothing : tree.entry? place = none) : place ≠ [] := by
  rintro rfl
  cases nothing

/-- What is a file is not the root. -/
theorem ne_root_of_file {content : List UInt8} {executable : Bool}
    (lies : tree.entry? place = some (.file content executable)) : place ≠ [] := by
  rintro rfl
  cases lies

/-- A tree with entries set at places, one after the other. -/
def put (tree : Tree) (puts : List (Place × Entry)) : Tree :=
  puts.foldl (fun tree put => tree.set put.1 put.2) tree

/-- Entries may be set in two parts. -/
theorem put_append (tree : Tree) (puts more : List (Place × Entry)) :
    tree.put (puts ++ more) = (tree.put puts).put more :=
  List.foldl_append

/-- Each entry is a file that is to be put where a file lies that is executable just if it is. -/
def TakesFiles (tree : Tree) (puts : List (Place × Entry)) : Prop :=
  ∀ put ∈ puts, ∃ content old executable, put.2 = .file content executable ∧
    tree.entry? put.1 = some (.file old executable)

/-- A tree grows if an entry that is no link is set where nothing or an entry of the same kind lies. -/
theorem grows_set (below : place ≠ []) (plain : ∀ target, entry ≠ .link target)
    (fits : ∀ old, tree.entry? place = some old → old.frame = entry.frame) :
    Grows tree (tree.set place entry) where
  kept other old lies := by
    rw [entry?_set below]
    by_cases same : other = place
    · rw [if_pos same]
      exact ⟨entry, rfl, (fits old (same ▸ lies)).symm⟩
    · rw [if_neg same]
      exact ⟨old, lies, rfl⟩
  added other nothing target := by
    rw [entry?_set below]
    split
    · exact fun link => plain target (Option.some.inj link)
    · rw [nothing]
      exact nofun
  targets_eq := by
    refine targets_setIn plain fun target link => ?_
    have lies : tree.entry? place = some (.link target) := by
      rw [ entry?, if_neg (by simpa using below), link]
    exact plain target (Entry.eq_link_of_frame (fits _ lies).symm)

/-- A tree is filled if a file is set where nothing or such a file lies. -/
theorem fills_set_file (below : place ≠ []) {content : List UInt8} {executable : Bool}
    (free : tree.entry? place = none ∨ ∃ old, tree.entry? place = some (.file old executable)) :
    Fills tree (tree.set place (.file content executable)) where
  toGrows := by
    refine grows_set below nofun fun old lies => ?_
    rcases free with nothing | ⟨other, file⟩
    · rw [nothing] at lies
      cases lies
    · rw [file] at lies
      cases lies
      rfl
  files other nothing := by
    rw [entry?_set below]
    split
    · exact nofun
    · rw [nothing]
      exact nofun

/-- Places that take files still do when a tree has grown. -/
theorem TakesFiles.of_grows (takes : before.TakesFiles puts) (grows : before.Grows after) :
    after.TakesFiles puts := by
  intro put member
  obtain ⟨content, old, executable, same, lies⟩ := takes put member
  obtain ⟨later, there⟩ := grows.file lies
  exact ⟨content, later, executable, same, there⟩

/-- The first of some files that can be put fills a tree, and the others can still be put. -/
theorem TakesFiles.cons {first : Place × Entry} (takes : tree.TakesFiles (first :: puts)) :
    first.1 ≠ [] ∧ Fills tree (tree.set first.1 first.2) ∧
      TakesFiles (tree.set first.1 first.2) puts := by
  obtain ⟨here, others⟩ := List.forall_mem_cons.mp takes
  obtain ⟨content, old, executable, same, lies⟩ := here
  have one : Fills tree (tree.set first.1 first.2) := by
    rw [same]
    exact fills_set_file (ne_root_of_file lies) (.inr ⟨old, lies⟩)
  exact ⟨ne_root_of_file lies, one, TakesFiles.of_grows others one.toGrows⟩

/-- Putting files where files are fills a tree, without adding anything. -/
theorem TakesFiles.fills (takes : tree.TakesFiles puts) : Fills tree (tree.put puts) := by
  induction puts generalizing tree with
  | nil => exact .refl tree
  | cons first rest ih =>
    obtain ⟨-, one, others⟩ := takes.cons
    exact one.trans (ih others)

/-- Other places stay as they are. -/
theorem TakesFiles.entry?_put (takes : tree.TakesFiles puts)
    (apart : ∀ put ∈ puts, put.1 ≠ place) : Tree.entry? (tree.put puts) place = tree.entry? place := by
  induction puts generalizing tree with
  | nil => rfl
  | cons first rest ih =>
    obtain ⟨below, -, others⟩ := takes.cons
    obtain ⟨differ, beyond⟩ := List.forall_mem_cons.mp apart
    have further := ih others beyond
    rw [entry?_set below, if_neg (Ne.symm differ)] at further
    exact further

/-- What is at a place before files are put does not matter if one of them is put there. -/
theorem TakesFiles.put_set_of_mem (takes : tree.TakesFiles puts)
    (member : place ∈ puts.map Prod.fst) : (tree.set place entry).put puts = tree.put puts := by
  -- Induction on the files: up to the one that is put there they are put elsewhere.
  induction puts generalizing tree with
  | nil => exact absurd member List.not_mem_nil
  | cons first rest ih =>
    have step (tree : Tree) : tree.put (first :: rest) = (tree.set first.1 first.2).put rest := rfl
    rw [step, step]
    by_cases same : place = first.1
    · rw [same, set_set]
    · obtain ⟨put, listed, rfl⟩ := List.mem_map.mp member
      obtain ⟨_, _, _, -, lies⟩ := takes put listed
      have taken : tree.entry? put.1 ≠ none := by
        rw [lies]
        exact Option.some_ne_none _
      rw [set_comm same (ne_root_of_file lies) taken]
      exact ih takes.cons.2.2 ((List.mem_cons.mp member).resolve_left same)

/-! ## What is done to a tree -/

/-- A place takes a file: nothing is there, in a directory, or a file that is executable just if the new
one is. -/
inductive Takes (tree : Tree) (place : Place) (executable : Bool) : Prop where
  /-- Nothing is there. -/
  | new (nothing : tree.entry? place = none) (above : tree.entry? place.dropLast = some .directory)
  /-- A file is there. -/
  | old {content : List UInt8} (lies : tree.entry? place = some (.file content executable))

/-- The root takes no file. -/
theorem Takes.ne_root {executable : Bool} (free : tree.Takes place executable) : place ≠ [] := by
  cases free with
  | new nothing => exact ne_root_of_nothing nothing
  | old lies => exact ne_root_of_file lies

/-- A tree is filled when a file is written. -/
theorem Takes.fills {executable : Bool} (free : tree.Takes place executable) (content : List UInt8) :
    Fills tree (tree.set place (.file content executable)) := by
  refine fills_set_file free.ne_root ?_
  cases free with
  | new nothing => exact .inl nothing
  | old lies => exact .inr ⟨_, lies⟩

/-- Directories are made where nothing is, and files are written, as they are put one after the other,
where nothing or a file is. -/
inductive Written : Tree → List (Place × Entry) → Tree → Prop where
  /-- Nothing is done. -/
  | done (tree : Tree) : Written tree [] tree
  /-- A directory is made. -/
  | directory {before after : Tree} {place : Place} {puts : List (Place × Entry)}
    (nothing : before.entry? place = none) (above : before.entry? place.dropLast = some .directory)
    (rest : Written (before.set place .directory) puts after) : Written before puts after
  /-- A file is written. -/
  | file {before after : Tree} {place : Place} {puts : List (Place × Entry)} {content : List UInt8}
    {executable : Bool} (free : before.Takes place executable)
    (rest : Written (before.set place (.file content executable)) puts after) :
    Written before ((place, .file content executable) :: puts) after

namespace Written

/-- What is done may be followed by something else. -/
theorem trans (first : Written before puts between) (second : Written between more after) :
    Written before (puts ++ more) after := by
  induction first with
  | done => exact second
  | directory nothing above _ ih => exact .directory nothing above (ih second)
  | file free _ ih => exact .file free (ih second)

/-- A tree grows by what is done to it. -/
theorem grows (written : Written before puts after) : Grows before after := by
  induction written with
  | done tree => exact .refl tree
  | directory nothing _ _ ih =>
    have plain : ∀ target, Entry.directory ≠ .link target := nofun
    refine (grows_set (ne_root_of_nothing nothing) plain fun old lies => ?_).trans ih
    rw [nothing] at lies
    cases lies
  | file free _ ih => exact (free.fills _).toGrows.trans ih

/-- A place is taken by the file that was just put there. -/
theorem entry?_set_self (below : place ≠ []) : Tree.entry? (tree.set place entry) place = some entry := by
  rw [entry?_set below, if_pos rfl]

/-- Where files were written, they can be put again. -/
theorem takesFiles (written : Written before puts after) : after.TakesFiles puts := by
  induction written with
  | done => exact fun _ member => absurd member List.not_mem_nil
  | directory _ _ _ ih => exact ih
  | file free rest ih =>
    refine List.forall_mem_cons.mpr ⟨?_, ih⟩
    obtain ⟨later, there⟩ := rest.grows.file (entry?_set_self free.ne_root)
    exact ⟨_, later, _, rfl, there⟩

/-- What was there and was not written is as it was. -/
theorem entry?_eq (written : Written before puts after) (there : before.entry? place ≠ none)
    (apart : ∀ put ∈ puts, put.1 ≠ place) : after.entry? place = before.entry? place := by
  induction written with
  | done => rfl
  | @directory before after made puts nothing _ _ ih =>
    have differ : place ≠ made := by
      rintro rfl
      exact there nothing
    have same : Tree.entry? (before.set made .directory) place = before.entry? place := by
      rw [entry?_set (ne_root_of_nothing nothing), if_neg differ]
    rw [← same] at there ⊢
    exact ih there apart
  | @file before after made puts content executable free _ ih =>
    obtain ⟨differ, others⟩ := List.forall_mem_cons.mp apart
    have same : Tree.entry? (before.set made (.file content executable)) place = before.entry? place := by
      rw [entry?_set free.ne_root, if_neg (Ne.symm differ)]
    rw [← same] at there ⊢
    exact ih there others

/-- To put the same files again changes nothing. -/
theorem put_eq_self (written : Written before puts after) : after.put puts = after := by
  induction written with
  | done => rfl
  | directory _ _ _ ih => exact ih
  | @file before after place puts content executable free rest ih =>
    have step : after.put ((place, .file content executable) :: puts) =
        (after.set place (.file content executable)).put puts := rfl
    rw [step]
    by_cases again : place ∈ puts.map Prod.fst
    · rw [rest.takesFiles.put_set_of_mem again, ih]
    · -- This file was written last, so it is there.
      have lies : after.entry? place = some (.file content executable) := by
        rw [rest.entry?_eq, entry?_set_self free.ne_root]
        · rw [entry?_set_self free.ne_root]
          exact Option.some_ne_none _
        · exact fun put member same => again (List.mem_map.mpr ⟨put, member, same⟩)
      rw [set_eq_self free.ne_root lies, ih]

end Written

/-- Whatever lies in a tree lies in directories if an entry is set in a directory, and takes the place of
no directory unless it is one. -/
theorem IsGrounded.set (grounded : tree.IsGrounded) (below : place ≠ [])
    (above : tree.entry? place.dropLast = some .directory)
    (kept : tree.entry? place = some .directory → entry = .directory) :
    (tree.set place entry).IsGrounded := by
  have stays {other : Place} (lies : tree.entry? other = some .directory) :
      Tree.entry? (tree.set place entry) other = some .directory := by
    rw [entry?_set below]
    split
    next same => rw [kept (same ▸ lies)]
    · exact lies
  intro other there higher starts differ
  apply stays
  rw [entry?_set below] at there
  by_cases same : other = place
  · -- What is above the place is the directory above it or above that.
    subst same
    have split := List.dropLast_concat_getLast below
    rw [← split] at starts differ
    have begins := (List.prefix_concat_iff.mp starts).resolve_left differ
    by_cases here : higher = other.dropLast
    · rw [here, above]
    · refine grounded _ ?_ higher begins here
      rw [above]
      exact Option.some_ne_none _
  · rw [if_neg same] at there
    exact grounded other there higher starts differ

/-- Whatever lies in a tree still lies in directories after what is done to it. -/
theorem Written.isGrounded (written : Written before puts after) (grounded : before.IsGrounded) :
    after.IsGrounded := by
  induction written with
  | done => exact grounded
  | directory nothing above _ ih =>
    exact ih (grounded.set (ne_root_of_nothing nothing) above fun _ => rfl)
  | @file before after place puts content executable free _ ih =>
    cases free with
    | new nothing above =>
      refine ih (grounded.set (ne_root_of_nothing nothing) above fun directory => ?_)
      rw [nothing] at directory
      cases directory
    | old lies =>
      have there : before.entry? place ≠ none := by
        rw [lies]
        exact Option.some_ne_none _
      have below := ne_root_of_file lies
      refine ih (grounded.set below (grounded.above there below) fun directory => ?_)
      rw [lies] at directory
      cases directory

end Tree

end NegativeCompile.Files

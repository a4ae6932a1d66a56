import NegativeCompile.Proofs.Action
import NegativeCompile.Proofs.Files.PathParts

/-! # How far changes of files reach

A reach says at which places directories may be made and files may be written (`Reach`). Steps stay
within a reach if nothing else is changed by them, as long as no link leads away from its places
(`Within`): so do making the directories of a path (`within_makeDirectories`) and writing a file at a
path (`within_writeBytes`), however they end. -/

namespace NegativeCompile.Files

variable {tree before after : Tree} {start place : Place} {path : Path} {parts dots : List String}
variable {arrival : Arrival} {follow : Bool} {links : Nat}

/-! ## Places -/

/-- Other places stay as they are when an entry is replaced or added. -/
theorem Tree.lookup_setIn_of_ne {entry : Entry} {entries : List (Place × Entry)} {other : Place}
    (differ : other ≠ place) : (setIn place entry entries).lookup other = entries.lookup other := by
  have unequal : (other == place) = false := by simpa using differ
  induction entries with
  | nil => simp [setIn, List.lookup_cons, unequal]
  | cons first rest ih =>
    by_cases same : first.1 = place
    · obtain ⟨_, _⟩ := first
      subst same
      simp [setIn, List.lookup_cons, unequal]
    · rw [setIn, if_neg same, List.lookup_cons, List.lookup_cons, ih]

/-- An entry that is put below the root is found at its place, and nothing else changes. -/
theorem Tree.entry?_set {entry : Entry} (below : place ≠ []) (other : Place) :
    Tree.entry? (tree.set place entry) other =
      if other = place then some entry else tree.entry? other := by
  unfold Tree.set Tree.entry?
  by_cases same : other = place
  · subst same
    rw [if_neg (by simpa using below), if_pos rfl, lookup_setIn_self]
  · rw [if_neg same, lookup_setIn_of_ne same]

/-- A walk along dots stays where it is. -/
theorem place_of_walkFrom_dots (dotted : ∀ step ∈ dots, step = ".")
    (walked : walkFrom tree follow links place dots = .ok arrival) : arrival.place = place := by
  induction dots with
  | nil =>
    rw [walkFrom] at walked
    rw [← Except.ok.inj walked]
  | cons step rest ih =>
    rw [walkFrom] at walked
    split at walked
    · rw [if_pos (dotted step List.mem_cons_self)] at walked
      exact ih (fun other member => dotted other (List.mem_cons_of_mem _ member)) walked
    · cases walked

/-- A walk along names, and dots after them, ends where they lead if there is no link on the way. -/
theorem place_of_walkFrom (names : ∀ part ∈ parts, IsName part)
    (unlinked : ∀ above, above <+: parts →
      ∀ target, tree.entry? (place ++ above) ≠ some (.link target))
    (dotted : ∀ step ∈ dots, step = ".")
    (walked : walkFrom tree follow links place (parts ++ dots) = .ok arrival) :
    arrival.place = place ++ parts := by
  induction parts generalizing place with
  | nil =>
    rw [List.append_nil]
    exact place_of_walkFrom_dots dotted walked
  | cons part rest ih =>
    rw [List.cons_append] at walked
    rcases walkFrom_name follow links (rest ++ dots) (names part List.mem_cons_self)
        (unlinked [part] (List.prefix_append [part] rest)) with
      ⟨fault, -, failed⟩ | ⟨last, ended⟩ | onward
    · rw [failed] at walked
      cases walked
    · rw [ended] at walked
      rw [← Except.ok.inj walked, (List.append_eq_nil_iff.mp last).1]
    · rw [onward] at walked
      rw [ih (fun other member => names other (List.mem_cons_of_mem _ member)) (fun above starts => ?_)
        walked]
      · simp
      · simpa using unlinked (part :: above) (List.prefix_cons_inj part |>.mpr starts)

/-- A walk along the text of a plain path ends at its place if there is no link on the way. -/
theorem Path.IsPlain.place_of_walk (plain : path.IsPlain) (unlinked : tree.Unlinked path.parts)
    (walked : walk tree start follow path.toString = .ok arrival) : arrival.place = path.parts := by
  rcases plain.walk_outcome with ⟨fault, -, failed⟩ | ⟨dots, dotted, onward⟩
  · rw [failed] at walked
    cases walked
  · rw [onward] at walked
    have straight : ∀ above, above <+: path.parts →
        ∀ target, tree.entry? ([] ++ above) ≠ some (.link target) := unlinked
    have ended := place_of_walkFrom plain.names straight dotted walked
    exact ended

/-- Such a walk ends at the place of the path, with what is there. -/
theorem Path.IsPlain.stands_of_walk {entry : Option Entry} (plain : path.IsPlain)
    (unlinked : tree.Unlinked path.parts)
    (walked : walk tree start follow path.toString = .ok ⟨place, entry⟩) :
    place = path.parts ∧ entry = tree.entry? path.parts := by
  obtain rfl : place = path.parts := plain.place_of_walk unlinked walked
  exact ⟨rfl, entry_of_walk walked⟩

/-! ## Changes -/

/-- Where a tree may be changed. -/
structure Reach where
  /-- Where directories may be made. -/
  made : Place → Prop
  /-- Where files may be written. -/
  written : Place → Prop

namespace Reach

variable {reach : Reach} {old between new : Option Entry}

/-- How what lies at a place may change: a directory is made where nothing is, and a file is written
where no directory is. -/
inductive Change (reach : Reach) (place : Place) : Option Entry → Option Entry → Prop where
  /-- Nothing changes. -/
  | same (entry : Option Entry) : Change reach place entry entry
  /-- A directory is made. -/
  | made (allowed : reach.made place) : Change reach place none (some .directory)
  /-- A file is written. -/
  | written {entry : Option Entry} (allowed : reach.written place) (free : entry ≠ some .directory)
    (content : List UInt8) (executable : Bool) :
    Change reach place entry (some (.file content executable))

/-- A change may be followed by another one. -/
theorem Change.trans (first : reach.Change place old between) (second : reach.Change place between new) :
    reach.Change place old new := by
  cases first with
  | same => exact second
  | made allowed =>
    cases second with
    | same => exact .made allowed
    | written _ free => exact absurd rfl free
  | written allowed free content executable =>
    cases second with
    | same => exact .written allowed free content executable
    | written _ _ later mode => exact .written allowed free later mode

/-- No link comes about by a change. -/
theorem Change.ne_link (change : reach.Change place old new)
    (unlinked : ∀ target, old ≠ some (.link target)) (target : String) :
    new ≠ some (.link target) := by
  cases change with
  | same => exact unlinked target
  | made => exact nofun
  | written => exact nofun

/-- What lies at a place where nothing may be written stays as it is. -/
theorem Change.eq_of_unwritten (change : reach.Change place old new) (there : old ≠ none)
    (unwritten : ¬ reach.written place) : new = old := by
  cases change with
  | same => rfl
  | made => exact absurd rfl there
  | written allowed => exact absurd allowed unwritten

/-- A directory at a place where none may be made was there before. -/
theorem Change.eq_of_unmade (change : reach.Change place old (some .directory))
    (unmade : ¬ reach.made place) : old = some .directory := by
  cases change with
  | same => rfl
  | made allowed => exact absurd allowed unmade

/-- A tree has changed within a reach. -/
def Bounds (reach : Reach) (before after : Tree) : Prop :=
  ∀ place, reach.Change place (before.entry? place) (after.entry? place)

/-- A tree that stays as it is has changed within any reach. -/
theorem bounds_refl (reach : Reach) (tree : Tree) : reach.Bounds tree tree := fun _ => .same _

/-- Changes within a reach may follow each other. -/
theorem Bounds.trans (first : reach.Bounds before tree) (second : reach.Bounds tree after) :
    reach.Bounds before after := fun place => (first place).trans (second place)

/-- No link leads away from the places of a reach. -/
def IsClear (reach : Reach) (tree : Tree) : Prop :=
  ∀ place, reach.made place ∨ reach.written place → tree.Unlinked place

/-- A tree without links has none that leads away. -/
theorem isClear_of_linkless (linkless : ∀ entry ∈ tree.entries, ∀ target, entry.2 ≠ .link target) :
    reach.IsClear tree :=
  fun _ _ above _ => Tree.entry?_ne_link linkless above

/-- Changes within a reach bring no links about. -/
theorem Bounds.isClear (bounds : reach.Bounds before after) (clear : reach.IsClear before) :
    reach.IsClear after :=
  fun place within above starts target =>
    (bounds above).ne_link (fun other => clear place within above starts other) target

end Reach

/-! ## Steps -/

section

variable {ε α β : Type} (step : ExceptT ε (StateM Tree) α)

/-- A step that is followed by another one: a failure of the first one ends both. -/
theorem run_bind (next : α → ExceptT ε (StateM Tree) β) (tree : Tree) :
    ((step >>= next).run).run tree =
      match (step.run).run tree with
      | (.ok value, after) => ((next value).run).run after
      | (.error failure, after) => (.error failure, after) := by
  simp only [bind, ExceptT.bind, ExceptT.run, ExceptT.mk, StateT.bind, StateT.run]
  rcases step tree with ⟨outcome, after⟩
  cases outcome <;> rfl

/-- A handler is called in the tree that a failure leaves. -/
theorem run_tryCatch (handle : ε → ExceptT ε (StateM Tree) α) (tree : Tree) :
    ((tryCatch step handle).run).run tree =
      match (step.run).run tree with
      | (.ok value, after) => (.ok value, after)
      | (.error failure, after) => ((handle failure).run).run after := by
  simp only [tryCatch, tryCatchThe, MonadExceptOf.tryCatch, ExceptT.tryCatch, ExceptT.run, ExceptT.mk,
    StateT.run, bind, StateT.bind]
  rcases step tree with ⟨outcome, after⟩
  cases outcome <;> rfl

end

/-- A step that changes a tree stays within a reach, however it ends. -/
def Within {ε α : Type} (reach : Reach) (step : ExceptT ε (StateM Tree) α) : Prop :=
  ∀ tree, reach.IsClear tree → reach.Bounds tree ((step.run).run tree).2

namespace Within

variable {ε α β : Type} {reach : Reach} {step : ExceptT ε (StateM Tree) α}

/-- A step that changes nothing stays within any reach. -/
theorem pure (value : α) : Within reach (Pure.pure value : ExceptT ε (StateM Tree) α) :=
  fun tree _ => reach.bounds_refl tree

/-- A step that fails stays within any reach. -/
theorem throw (failure : ε) : Within reach (throw failure : ExceptT ε (StateM Tree) α) :=
  fun tree _ => reach.bounds_refl tree

/-- Two steps in a row stay within a reach if both do. -/
theorem bind {next : α → ExceptT ε (StateM Tree) β} (first : Within reach step)
    (second : ∀ value, Within reach (next value)) : Within reach (step >>= next) := by
  intro tree clear
  have bounds := first tree clear
  rw [run_bind]
  cases outcome : (step.run).run tree with
  | mk found after =>
    rw [outcome] at bounds
    cases found with
    | ok value => exact bounds.trans (second value after (bounds.isClear clear))
    | error failure => exact bounds

/-- A step and what is done after its failures stay within a reach if both do. -/
theorem tryCatch {handle : ε → ExceptT ε (StateM Tree) α} (first : Within reach step)
    (second : ∀ failure, Within reach (handle failure)) :
    Within reach (tryCatch step handle) := by
  intro tree clear
  have bounds := first tree clear
  rw [run_tryCatch]
  cases outcome : (step.run).run tree with
  | mk found after =>
    rw [outcome] at bounds
    cases found with
    | ok value => exact bounds
    | error failure => exact bounds.trans (second failure after (bounds.isClear clear))

/-- A step that looks at the tree stays within a reach if it does for any tree without links there. -/
theorem get_bind {next : Tree → ExceptT ε (StateM Tree) α}
    (each : ∀ tree, reach.IsClear tree → reach.Bounds tree (((next tree).run).run tree).2) :
    Within reach (get >>= next) :=
  each

end Within

/-! ## Making directories and writing files -/

variable {reach : Reach}

/-- A directory is put where nothing lies. -/
theorem Reach.bounds_set_directory (allowed : reach.made place) (free : tree.entry? place = none) :
    reach.Bounds tree (tree.set place .directory) := by
  have below : place ≠ [] := by
    rintro rfl
    cases free
  intro other
  rw [Tree.entry?_set below]
  split
  next same =>
    rw [same, free]
    exact .made allowed
  · exact .same _

/-- A file is put where no directory lies. -/
theorem Reach.bounds_set_file (allowed : reach.written place)
    (free : tree.entry? place ≠ some .directory) (content : List UInt8) (executable : Bool) :
    reach.Bounds tree (tree.set place (.file content executable)) := by
  have below : place ≠ [] := by
    rintro rfl
    exact free rfl
  intro other
  rw [Tree.entry?_set below]
  split
  next same =>
    rw [same]
    exact .written allowed free content executable
  · exact .same _

/-- Making a directory stays at its place. -/
theorem within_makeDirectory (plain : path.IsPlain) (allowed : reach.made path.parts) :
    Within reach (makeDirectory start path.toString) := by
  unfold makeDirectory
  dsimp only
  split
  · exact fun tree _ => reach.bounds_refl tree
  · refine .get_bind fun tree clear => ?_
    split
    · exact reach.bounds_refl tree
    · exact reach.bounds_refl tree
    next place walked =>
      obtain ⟨rfl, lies⟩ := plain.stands_of_walk (clear _ (.inl allowed)) walked
      exact Reach.bounds_set_directory allowed lies.symm

/-- Writing a file stays at its place. -/
theorem within_writeBytes (plain : path.IsPlain) (allowed : reach.written path.parts)
    (content : List UInt8) : Within reach (writeBytes start path.toString content) := by
  unfold writeBytes
  dsimp only
  split
  · exact fun tree _ => reach.bounds_refl tree
  · refine .get_bind fun tree clear => ?_
    split
    · exact reach.bounds_refl tree
    · exact reach.bounds_refl tree
    next place old executable walked =>
      obtain ⟨rfl, lies⟩ := plain.stands_of_walk (clear _ (.inr allowed)) walked
      exact Reach.bounds_set_file allowed (by rw [← lies]; exact nofun) content executable
    next place entry noDirectory _ walked =>
      obtain ⟨rfl, lies⟩ := plain.stands_of_walk (clear _ (.inr allowed)) walked
      refine Reach.bounds_set_file allowed (fun directory => ?_) content false
      exact noDirectory (lies.trans directory)

/-- The path above a plain path is plain. -/
theorem Path.IsPlain.parent (plain : path.IsPlain) : path.parent.IsPlain :=
  ⟨plain.slashes, fun part member => plain.names part (List.dropLast_subset _ member)⟩

/-- Looking whether a directory is there changes nothing. -/
theorem within_settle (trouble : Trouble) (text : String) : Within reach (do
    match testStatus (← get) start text Entry.isDirectory with
    | .ok true => return
    | .ok false => throw trouble
    | .error other => throw other : Filing Unit) := by
  refine .get_bind fun tree _ => ?_
  split <;> exact reach.bounds_refl tree

/-- Making the directories of a path stays at its place and those above it. -/
theorem within_makeDirectoriesFrom {fuel : Nat} (plain : path.IsPlain)
    (allowed : ∀ above, above <+: path.parts → reach.made above) :
    Within reach (makeDirectoriesFrom start fuel path) := by
  induction fuel generalizing path with
  | zero => exact within_makeDirectory plain (allowed _ (List.prefix_refl _))
  | succ fuel ih =>
    have here : Within reach (makeDirectory start path.toString) :=
      within_makeDirectory plain (allowed _ (List.prefix_refl _))
    have above : Within reach (makeDirectoriesFrom start fuel path.parent) :=
      ih plain.parent fun place starts =>
        allowed place (starts.trans (List.dropLast_prefix path.parts))
    rw [makeDirectoriesFrom]
    refine .tryCatch here fun trouble => ?_
    dsimp only
    split
    · exact .throw _
    · split
      · exact fun tree _ => reach.bounds_refl tree
      · refine .bind above fun _ => .tryCatch here fun again => ?_
        split
        · exact .throw _
        · exact .throw _
        · exact within_settle _ _
    · exact within_settle _ _

/-- Making the directories of a path stays at its place and those above it. -/
theorem within_makeDirectories (plain : path.IsPlain)
    (allowed : ∀ above, above <+: path.parts → reach.made above) :
    Within reach (makeDirectories start path) :=
  within_makeDirectoriesFrom plain allowed

end NegativeCompile.Files

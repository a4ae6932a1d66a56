import NegativeCompile.Proofs.Settings.Converting
import NegativeCompile.Proofs.Job.Keys
import NegativeCompile.Proofs.Files.PathTexts

/-! # Paths of fragments

What the list of fragments in a configuration stands for. Each path that it stands for is what some path
of pieces is resolved to (`PathContext.exists_of_mem_expandFragments`), whether it was given by name or
found by a pattern. So if it can be resolved again, it is plain (`PathContext.isPlain_of_expandFragments`). -/

namespace NegativeCompile

open Files Text

namespace Files

variable {tree other : Tree} {start place : Place} {origin path target : Path} {step : String}

/-- Double dots are a piece. -/
theorem isPiece_dots : IsPiece ".." := ⟨by decide, by decide⟩

/-- A step that is not cut by a slash gives pieces. -/
theorem gives_isPiece (noSlash : '/' ∉ step.toList) : Gives IsPiece step :=
  ⟨fun counts => ⟨counts, noSlash⟩, each_isPiece_ofString step⟩

/-- What a path of pieces is resolved to has pieces that do not lead up. -/
theorem isPiece_of_resolve (here : ∀ name ∈ start, IsPiece name) (pieces : origin.Each IsPiece)
    (resolved : resolve tree start origin = .ok path) :
    path.slashes = 1 ∧ path.Each fun part => IsPiece part ∧ part ≠ ".." := by
  have targets : tree.LinksGive start IsPiece := fun _ _ _ step member =>
    gives_isPiece (slash_notMem_of_mem_slashPieces member)
  have names : ∀ part ∈ origin.parts, Gives IsPiece part := fun part member =>
    gives_isPiece (pieces part member).noSlash
  obtain ⟨reached, -, each, rfl⟩ := exists_of_resolve isPiece_dots targets here names resolved
  obtain ⟨absolute, plain⟩ := resolve_isPlainPart (fun name member => (here name member).counts) resolved
  exact ⟨absolute, fun part member =>
    ⟨each.normalize isPiece_dots part member, (plain part member).2⟩⟩

/-- A path that can be resolved holds no null character. -/
theorem nullFree_of_resolve (resolved : resolve tree start path = .ok target) : path.Each NullFree := by
  unfold resolve at resolved
  split at resolved
  · cases resolved
  next possible => exact Path.each_nullFree_iff.mpr (Bool.eq_false_iff.mpr possible)

/-- What a path of pieces is resolved to is plain if it can be resolved again. -/
theorem isPlain_of_resolve (here : ∀ name ∈ start, IsPiece name) (pieces : origin.Each IsPiece)
    (resolved : resolve tree start origin = .ok path) (again : resolve other place path = .ok target) :
    path.IsPlain := by
  obtain ⟨absolute, each⟩ := isPiece_of_resolve here pieces resolved
  have free := nullFree_of_resolve again
  refine ⟨absolute, fun part member => ?_⟩
  obtain ⟨piece, forward⟩ := each part member
  exact ⟨piece.counts, forward, piece.noSlash, free part member⟩

end Files

namespace PathContext

variable {context : PathContext} {entry text : String} {entries : List String}
variable {path other : Path} {paths known more targets : List Path}

/-! ## Lists of paths -/

/-- A path is put among others. -/
theorem mem_insertPath : other ∈ insertPath path paths ↔ other = path ∨ other ∈ paths := by
  induction paths with
  | nil => rw [insertPath, List.mem_singleton, or_iff_left List.not_mem_nil]
  | cons first rest ih =>
    rw [insertPath]
    split
    · rw [List.mem_cons, List.mem_cons, ih]
      exact or_left_comm
    · rw [List.mem_cons]

/-- Paths in order are the same paths. -/
theorem mem_sortPaths : other ∈ sortPaths paths ↔ other ∈ paths := by
  induction paths with
  | nil => rfl
  | cons path rest ih =>
    have sorted : sortPaths (path :: rest) = insertPath path (sortPaths rest) := rfl
    rw [sorted, mem_insertPath, ih, List.mem_cons]

/-- Adding paths adds no others. -/
theorem mem_of_mem_addPaths (member : other ∈ addPaths known more) : other ∈ known ∨ other ∈ more := by
  -- What is known grows with each path that is added.
  induction more generalizing known with
  | nil => exact .inl member
  | cons path rest ih =>
    have added : other ∈ addPaths (if known.contains path then known else known ++ [path]) rest :=
      member
    rcases ih added with among | later
    · split at among
      · exact .inl among
      · rcases List.mem_append.mp among with earlier | last
        · exact .inl earlier
        · rw [List.mem_singleton.mp last]
          exact .inr List.mem_cons_self
    · exact .inr (List.mem_cons_of_mem path later)

/-- What some paths are resolved to is what one of them is resolved to. -/
theorem exists_of_mem_resolvePaths {surroundings : Surroundings}
    (resolved : resolvePaths surroundings paths = .ok targets) (member : other ∈ targets) :
    ∃ path ∈ paths, surroundings.resolve path = .ok other := by
  induction paths generalizing targets with
  | nil =>
    rw [← Except.ok.inj resolved] at member
    exact absurd member List.not_mem_nil
  | cons path rest ih =>
    obtain ⟨target, first, next⟩ := Except.bind_eq_ok_iff.mp resolved
    obtain ⟨others, later, equal⟩ := Except.bind_eq_ok_iff.mp next
    rw [← Except.ok.inj equal] at member
    rcases List.mem_cons.mp member with rfl | among
    · exact ⟨path, List.mem_cons_self, first⟩
    · obtain ⟨origin, listed, led⟩ := ih later among
      exact ⟨origin, List.mem_cons_of_mem path listed, led⟩

/-! ## Entries -/

/-- Directories are spelled properly: their paths consist of pieces. -/
structure IsSpelled (context : PathContext) : Prop where
  /-- The base directory is. -/
  base : context.base.Each IsPiece
  /-- The current directory is. -/
  here : ∀ name ∈ context.surroundings.here, IsPiece name

/-- A path is what some path of pieces is resolved to. -/
def Reaches (context : PathContext) (path : Path) : Prop :=
  ∃ origin : Path, origin.Each IsPiece ∧ context.surroundings.resolve origin = .ok path

/-- A name of a fragment stands for what a path of pieces is resolved to. -/
theorem exists_of_resolve (spelled : context.IsSpelled) (resolved : context.resolve text = .ok path) :
    context.Reaches path := by
  obtain ⟨expanded, done, led⟩ := Except.bind_eq_ok_iff.mp resolved
  refine ⟨_, spelled.base.join ?_, led⟩
  unfold expand at done
  split at done
  next same =>
    obtain rfl := Except.ok.inj done
    exact (each_isPiece_ofString text).expandHome (fun _ _ _ => each_isPiece_ofString _) same
  · cases done
  · cases done

/-- What a pattern finds is what a path of pieces is resolved to. -/
theorem exists_of_mem_pathsMatching (spelled : context.IsSpelled)
    (found : context.pathsMatching entry = .ok paths) (member : path ∈ paths) :
    context.Reaches path := by
  have names : context.surroundings.tree.NamesGive IsPiece := fun _ child _ =>
    each_isPiece_ofString child.1
  have root : (context.base.append entry).Each IsPiece := spelled.base.join (each_isPiece_ofString entry)
  unfold pathsMatching at found
  dsimp only at found
  -- What is found is resolved, put in order, and given if it is anything at all.
  split at found
  · cases found
  · obtain ⟨targets, resolved, after⟩ := Except.bind_eq_ok_iff.mp found
    split at after
    · cases after
    · rw [← Except.ok.inj after, mem_sortPaths] at member
      obtain ⟨origin, listed, led⟩ := exists_of_mem_resolvePaths resolved member
      refine ⟨origin, each_glob names (fun part among => ⟨root part among, ?_⟩) origin listed, led⟩
      exact each_isPiece_ofString part

/-- An entry stands for what paths of pieces are resolved to. -/
theorem exists_of_mem_pathsOf (spelled : context.IsSpelled)
    (found : context.pathsOf entry = .ok paths) (member : path ∈ paths) :
    context.Reaches path := by
  unfold pathsOf at found
  split at found
  · exact exists_of_mem_pathsMatching spelled found member
  · obtain ⟨single, there, rfl⟩ := Except.map_eq_ok_iff.mp found
    obtain rfl := List.mem_singleton.mp member
    obtain ⟨target, resolved, tested⟩ := Except.bind_eq_ok_iff.mp there
    split at tested
    · obtain rfl := Except.ok.inj tested
      exact exists_of_resolve spelled resolved
    · cases tested
    · cases tested

/-- Entries stand for what paths of pieces are resolved to, apart from what was known before. -/
theorem exists_of_mem_expandFrom (spelled : context.IsSpelled)
    (expanded : context.expandFrom known entries = .ok paths) (member : path ∈ paths) :
    path ∈ known ∨ context.Reaches path := by
  induction entries generalizing known with
  | nil =>
    rw [← Except.ok.inj expanded] at member
    exact .inl member
  | cons entry rest ih =>
    obtain ⟨more, found, others⟩ := Except.bind_eq_ok_iff.mp expanded
    rcases ih others with among | led
    · rcases mem_of_mem_addPaths among with earlier | later
      · exact .inl earlier
      · exact .inr (exists_of_mem_pathsOf spelled found later)
    · exact .inr led

/-- Each path that a list of fragments stands for is what a path of pieces is resolved to. -/
theorem exists_of_mem_expandFragments (spelled : context.IsSpelled)
    (expanded : context.expandFragments entries = .ok paths) (member : path ∈ paths) :
    context.Reaches path :=
  (exists_of_mem_expandFrom spelled expanded member).resolve_left List.not_mem_nil

/-- Each path that a list of fragments stands for is plain if it can be resolved again. -/
theorem isPlain_of_expandFragments (spelled : context.IsSpelled)
    (expanded : context.expandFragments entries = .ok paths) (member : path ∈ paths)
    {surroundings : Surroundings} {target : Path} (again : surroundings.resolve path = .ok target) :
    path.IsPlain := by
  obtain ⟨origin, pieces, led⟩ := exists_of_mem_expandFragments spelled expanded member
  rw [Surroundings.resolve_eq_ok_iff] at led again
  exact isPlain_of_resolve spelled.here pieces led again

end PathContext

end NegativeCompile

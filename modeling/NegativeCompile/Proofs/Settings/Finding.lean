import NegativeCompile.Proofs.Settings.Converting
import NegativeCompile.Proofs.Files.Matching
import NegativeCompile.Proofs.Settings.Uniting

/-! # Files that match a pattern

A pattern in a list of fragments stands for the files that names which it covers lead to from the base
directory (`PathContext.Selects`), and it fails just if there are none
(`PathContext.expandFragments_of_pattern`). That takes a base directory whose own name is no pattern, as it
is searched for too, and it takes that all that matches are files, as directories are not left out. -/

namespace NegativeCompile

open Files

namespace PathContext

variable {context : PathContext} {pattern : String} {path : Path} {paths : List Path}

/-- Names that a pattern covers lead from the base directory to the file at a path. -/
def Selects (context : PathContext) (pattern : String) (path : Path) : Prop :=
  ∃ names place content executable, Covers (Path.ofString pattern).parts names ∧
    walk context.surroundings.tree context.surroundings.here true
        (context.base.join ⟨0, names⟩).toString = .ok ⟨place, some (.file content executable)⟩ ∧
      path = .ofParts place

/-! ## Resolving what is found -/

/-- If each of some paths can be resolved, they are resolved to what each of them is resolved to. -/
theorem exists_resolvePaths_of_each {surroundings : Surroundings}
    (each : ∀ path ∈ paths, ∃ target, surroundings.resolve path = .ok target) :
    ∃ targets, resolvePaths surroundings paths = .ok targets ∧
      ∀ target, target ∈ targets ↔ ∃ path ∈ paths, surroundings.resolve path = .ok target := by
  induction paths with
  | nil => exact ⟨[], rfl, by simp⟩
  | cons path rest ih =>
    obtain ⟨⟨target, here⟩, others⟩ := List.forall_mem_cons.mp each
    obtain ⟨targets, later, same⟩ := ih others
    refine ⟨target :: targets, ?_, fun other => ?_⟩
    · rw [resolvePaths, here, Except.ok_bind, later]
      rfl
    · rw [List.mem_cons, List.exists_mem_cons_iff, here, same, Except.ok.injEq, eq_comm]

/-- A path that leads to a file is resolved to the place of the file. -/
theorem resolve_of_file (fit : context.surroundings.tree.IsFit) (pieces : path.Each IsPiece)
    (absolute : path.isAbsolute = true) {place : Place} {entry : Entry}
    (walked : walk context.surroundings.tree context.surroundings.here true path.toString =
      .ok ⟨place, some entry⟩) :
    context.surroundings.resolve path = .ok (.ofParts place) := by
  obtain ⟨height, leads⟩ := exists_leads_toString fit pieces walked
  rw [Path.base, if_pos absolute] at leads
  exact Surroundings.resolve_eq_ok_iff.mpr (resolve_eq_of_leads fit pieces absolute leads)

/-! ## Patterns -/

/-- A pattern that holds no null character stands for what is found from the base directory. -/
theorem expandFragments_pattern (plain : context.base.Each NullFree) (free : NullFree pattern)
    (magic : Wildcard.hasMagic pattern = true) {targets : List Path}
    (resolved : resolvePaths context.surroundings (glob context.surroundings.tree
      context.surroundings.here (context.base.append pattern)) = .ok targets) :
    context.expandFragments [pattern] =
      if targets = [] then .error (.configuration s!"Fragment pattern '{pattern}' matched no files")
      else .ok (addPaths [] (sortPaths targets)) := by
  have whole : (context.base.append pattern).Each NullFree := plain.join free.ofString
  have possible : ¬ ((context.base.append pattern).parts.takeWhile
      (!Wildcard.hasMagic ·)).any hasNull = true := Bool.eq_false_iff.mp (any_hasNull_eq_false whole)
  have matching : context.pathsOf pattern =
      if targets = [] then .error (.configuration s!"Fragment pattern '{pattern}' matched no files")
      else .ok (sortPaths targets) := by
    rw [pathsOf, if_pos magic, pathsMatching]
    dsimp only
    rw [if_neg possible, resolved]
    cases targets <;> rfl
  rw [expandFragments, expandFrom, matching]
  split <;> rfl

/-- Among what names that a pattern covers lead to from the base directory there are only files. -/
def MatchesFiles (context : PathContext) (pattern : String) : Prop :=
  ∀ names, Covers (Path.ofString pattern).parts names →
    IsThere context.surroundings.tree context.surroundings.here (context.base.join ⟨0, names⟩) →
      leadsToFile context.surroundings.tree context.surroundings.here
        (context.base.join ⟨0, names⟩).toString = true

section

variable (fit : context.surroundings.tree.IsFit) (base : context.base.IsPlain)
variable (literal : ∀ part ∈ context.base.parts, Wildcard.hasMagic part = false)

include base in
/-- A relative pattern is searched for below the base directory. -/
theorem append_pattern (relative : (Path.ofString pattern).isAbsolute = false) :
    context.base.append pattern =
        ⟨context.base.slashes, context.base.parts ++ (Path.ofString pattern).parts⟩ ∧
      (context.base.append pattern).Each IsPiece := by
  have above : context.base.Each IsPiece := fun part member => (base.names part member).isPiece
  refine ⟨?_, above.join (each_isPiece_ofString pattern)⟩
  rw [Path.append, Path.join, if_neg (by simp [relative])]

include literal in
/-- From a base directory that is no pattern, a pattern covers names just if with the directory it covers
the names with the directory. -/
theorem covers_base_iff {names : List String} :
    Covers (context.base.parts ++ (Path.ofString pattern).parts) names ↔
      ∃ below, Covers (Path.ofString pattern).parts below ∧ names = context.base.parts ++ below := by
  rw [covers_append_iff]
  constructor
  · rintro ⟨above, below, own, covers, rfl⟩
    rw [(covers_iff_of_plain literal).mp own]
    exact ⟨below, covers, rfl⟩
  · rintro ⟨below, covers, rfl⟩
    exact ⟨_, below, (covers_iff_of_plain literal).mpr rfl, covers, rfl⟩

include fit base literal

/-- What is found for a pattern is resolved to a file that it selects, if nothing but files matches. -/
theorem exists_selects_of_mem_glob (relative : (Path.ofString pattern).isAbsolute = false)
    (filled : (Path.ofString pattern).parts ≠ [])
    (ends : (Path.ofString pattern).parts.getLast? ≠ some "**") (files : context.MatchesFiles pattern)
    (member : path ∈ glob context.surroundings.tree context.surroundings.here
      (context.base.append pattern)) :
    ∃ target, context.surroundings.resolve path = .ok target ∧ context.Selects pattern target := by
  obtain ⟨root, pieces⟩ := append_pattern base relative
  rw [root] at member pieces
  have last : (context.base.parts ++ (Path.ofString pattern).parts).getLast? ≠ some "**" := by
    rwa [List.getLast?_append_of_ne_nil _ filled]
  have there := isThere_of_mem_glob fit (List.append_ne_nil_of_right_ne_nil _ filled) last member
  obtain ⟨all, covers, rfl⟩ := exists_of_mem_glob fit pieces member
  have each : Path.Each IsPiece ⟨context.base.slashes, all⟩ := covers.isPiece pieces
  have absolute : (⟨context.base.slashes, all⟩ : Path).isAbsolute = true := by
    rw [base.slashes]
    rfl
  obtain ⟨names, below, rfl⟩ := (covers_base_iff literal).mp covers
  obtain ⟨place, content, executable, walked⟩ := exists_walk_of_leadsToFile (files names below there)
  exact ⟨_, resolve_of_file fit each absolute walked, names, place, content, executable, below, walked, rfl⟩

/-- A file that a pattern selects is what something that is found for it is resolved to. -/
theorem exists_mem_glob_of_selects (relative : (Path.ofString pattern).isAbsolute = false)
    (filled : (Path.ofString pattern).parts ≠ [])
    (ends : (Path.ofString pattern).parts.getLast? ≠ some "**") (selects : context.Selects pattern path) :
    ∃ found ∈ glob context.surroundings.tree context.surroundings.here (context.base.append pattern),
      context.surroundings.resolve found = .ok path := by
  obtain ⟨root, pieces⟩ := append_pattern base relative
  rw [root] at pieces ⊢
  have last : (context.base.parts ++ (Path.ofString pattern).parts).getLast? ≠ some "**" := by
    rwa [List.getLast?_append_of_ne_nil _ filled]
  obtain ⟨names, place, content, executable, below, walked, rfl⟩ := selects
  have covers := (covers_base_iff literal).mpr ⟨names, below, rfl⟩
  have each : Path.Each IsPiece ⟨context.base.slashes, context.base.parts ++ names⟩ :=
    covers.isPiece pieces
  have absolute : (⟨context.base.slashes, context.base.parts ++ names⟩ : Path).isAbsolute = true := by
    rw [base.slashes]
    rfl
  exact ⟨_, mem_glob_of_status fit pieces last covers (status_eq_ok_iff.mpr ⟨_, walked⟩),
    resolve_of_file fit each absolute walked⟩

end

/-- A relative pattern stands for the files that it selects, and it fails just if it selects none, saying
so: from a base directory whose own name is no pattern, if the pattern does not end in two stars and if
nothing but files matches it. -/
theorem expandFragments_of_pattern (context : PathContext) (pattern : String)
    (fit : context.surroundings.tree.IsFit) (base : context.base.IsPlain)
    (literal : ∀ part ∈ context.base.parts, Wildcard.hasMagic part = false)
    (magic : Wildcard.hasMagic pattern = true)
    (relative : (Path.ofString pattern).isAbsolute = false) (free : NullFree pattern)
    (ends : (Path.ofString pattern).parts.getLast? ≠ some "**")
    (files : context.MatchesFiles pattern) :
    (∀ found, context.expandFragments [pattern] = .ok found →
        ∀ path, path ∈ found ↔ context.Selects pattern path) ∧
      ∀ failure, context.expandFragments [pattern] = .error failure ↔
        failure = .configuration s!"Fragment pattern '{pattern}' matched no files" ∧
          ∀ path, ¬ context.Selects pattern path := by
  have filled := parts_ne_nil_of_hasMagic magic
  -- Whatever matches is a file, so each match is resolved, and to what the pattern selects.
  have found : ∀ path ∈ glob context.surroundings.tree context.surroundings.here
      (context.base.append pattern), ∃ target,
        context.surroundings.resolve path = .ok target ∧ context.Selects pattern target :=
    fun path member => exists_selects_of_mem_glob fit base literal relative filled ends files member
  obtain ⟨targets, resolved, same⟩ := exists_resolvePaths_of_each fun path member =>
    (found path member).imp fun _ both => both.1
  have selected : ∀ target, target ∈ targets ↔ context.Selects pattern target := by
    intro target
    rw [same]
    constructor
    · rintro ⟨path, member, led⟩
      obtain ⟨other, also, selects⟩ := found path member
      rwa [Except.ok.inj (led.symm.trans also)]
    · exact exists_mem_glob_of_selects fit base literal relative filled ends
  rw [expandFragments_pattern (fun part member => (base.names part member).noNull) free magic resolved]
  by_cases none : targets = []
  · rw [if_pos none]
    have nothing : ∀ path, ¬ context.Selects pattern path := by
      intro path selects
      have member := (selected path).mpr selects
      rw [none] at member
      exact absurd member List.not_mem_nil
    refine ⟨nofun, fun failure => ?_⟩
    rw [Except.error.injEq, eq_comm]
    exact ⟨fun same => ⟨same, nothing⟩, fun both => both.1⟩
  · rw [if_neg none]
    refine ⟨fun paths given path => ?_, fun failure => iff_of_false nofun fun both => ?_⟩
    · rw [← Except.ok.inj given, mem_addPaths, mem_sortPaths, selected]
      simp
    · obtain ⟨target, member⟩ := List.exists_mem_of_ne_nil targets none
      exact both.2 target ((selected target).mp member)

end PathContext

/-! ## Samples -/

namespace Named

/-- Every entry of the tree is a file below the root. -/
theorem exists_file_of_mem {entry : Place × Entry} (member : entry ∈ tree.entries) :
    ∃ name, entry = ([name], .file [] false) ∧ IsName name ∧ name.utf8ByteSize ≤ nameLimit := by
  simp only [tree, List.mem_cons, List.not_mem_nil, or_false] at member
  rcases member with rfl | rfl | rfl
  · exact ⟨_, rfl, isName_plain, by decide⟩
  · exact ⟨_, rfl, isName_blank, by decide⟩
  · exact ⟨_, rfl, isName_colon, by decide⟩

theorem isFit_tree : tree.IsFit := by
  refine Tree.isFit_of_entries fun entry member => ?_
  obtain ⟨name, rfl, named, short⟩ := exists_file_of_mem member
  exact tree.fits_singleton named short

/-- Where a name leads to anything, it leads to a file. -/
theorem walk_eq {name : String} (there : tree.entry? [name] ≠ none) :
    walk tree [] true (Path.ofParts [name]).toString = .ok ⟨[name], some (.file [] false)⟩ := by
  obtain ⟨entry, lies⟩ := Option.ne_none_iff_exists'.mp there
  obtain ⟨other, same, named, short⟩ := exists_file_of_mem (List.mem_of_lookup_eq_some lies)
  obtain ⟨equal, rfl⟩ := Prod.mk.inj same
  obtain rfl := List.head_eq_of_cons_eq equal
  have filled : (Path.ofParts [name]).parts ≠ [] := List.cons_ne_nil _ _
  have found : tree.entry? (Path.ofParts [name]).parts = some (.file [] false) := lies
  rw [named.isPlain_ofParts.walk_eq filled (Path.isShort_ofParts short) (tree.hasAbove_singleton name),
    found]
  · rfl
  · rw [found]
    exact nofun

theorem nullFree_pattern : NullFree "*.nc" := by
  unfold NullFree
  decide

theorem covers_plain : Covers (Path.ofString "*.nc").parts ["a.nc"] := by
  have parts : (Path.ofString "*.nc").parts = ["*.nc"] := by decide
  rw [parts]
  exact covers_singleton_iff.mpr
    (.wild (by decide) (by decide) isName_plain (fun hidden => absurd hidden (by decide_cbv)) (by decide))

theorem matchesFiles : context.MatchesFiles "*.nc" := by
  intro names covers there
  have parts : (Path.ofString "*.nc").parts = ["*.nc"] := by decide
  rw [parts, covers_singleton_iff] at covers
  cases covers with
  | stars both => exact absurd both (by decide)
  | literal plain => exact absurd plain (by decide)
  | @wild name _ _ named =>
    have lies := entry?_ne_none_of_isThere isFit_tree named there
    show leadsToFile tree [] (Path.ofParts [name]).toString = true
    rw [leadsToFile, status_eq_ok_iff.mpr ⟨_, walk_eq lies⟩]
    rfl

end Named

namespace PathContext

open Named in
/-- Among three files a pattern stands for those that it matches. -/
theorem expandFragments_of_pattern_named :
    Named.context.Selects "*.nc" plain ∧
      (∀ found, Named.context.expandFragments ["*.nc"] = .ok found →
        ∀ path, path ∈ found ↔ Named.context.Selects "*.nc" path) ∧
      ∀ failure, Named.context.expandFragments ["*.nc"] = .error failure ↔
        failure = .configuration "Fragment pattern '*.nc' matched no files" ∧
          ∀ path, ¬ Named.context.Selects "*.nc" path :=
  ⟨⟨["a.nc"], ["a.nc"], [], false, covers_plain, Named.walk_eq (by decide), rfl⟩,
    expandFragments_of_pattern Named.context "*.nc" isFit_tree Path.isPlain_root nofun (by decide)
      (by decide) nullFree_pattern (by decide) matchesFiles⟩

end PathContext

namespace Mixed

/-- A tree with a directory whose name is a pattern and one that has the name of a file. -/
def tree : Tree :=
  ⟨[(["[a]"], .directory), (["[a]", "x.nc"], .file [] false), (["a.nc"], .file [] false),
    (["d.nc"], .directory)]⟩

/-- Patterns are searched for from a directory of the tree. -/
def context (base : Place) : PathContext := ⟨⟨none, []⟩, ⟨tree, []⟩, .ofParts base⟩

theorem isName_bracket : IsName "[a]" := ⟨by decide, by decide, by decide, by decide⟩

theorem isName_inner : IsName "x.nc" := ⟨by decide, by decide, by decide, by decide⟩

theorem isName_directory : IsName "d.nc" := ⟨by decide, by decide, by decide, by decide⟩

theorem isPlain_inner : (Path.ofParts ["[a]", "x.nc"]).IsPlain :=
  ⟨rfl, List.forall_mem_cons.mpr ⟨isName_bracket, List.forall_mem_singleton.mpr isName_inner⟩⟩

theorem hasAbove_inner : tree.HasAbove ["[a]", "x.nc"] :=
  (tree.hasAbove_singleton "[a]").concat rfl "x.nc"

theorem isShort_inner : (Path.ofParts ["[a]", "x.nc"]).IsShort := ⟨by decide, by decide⟩

theorem isFit_tree : tree.IsFit := by
  refine Tree.isFit_of_entries fun entry member => ?_
  simp only [tree, List.mem_cons, List.not_mem_nil, or_false] at member
  rcases member with rfl | rfl | rfl | rfl
  · exact tree.fits_singleton isName_bracket (by decide)
  · exact ⟨hasAbove_inner, isPlain_inner, isShort_inner⟩
  · exact tree.fits_singleton Named.isName_plain (by decide)
  · exact tree.fits_singleton isName_directory (by decide)

theorem linkless : ∀ entry ∈ tree.entries, ∀ target, entry.2 ≠ .link target := by
  simp [tree]

theorem covers_inner : Covers (Path.ofString "*.nc").parts ["x.nc"] := by
  have parts : (Path.ofString "*.nc").parts = ["*.nc"] := by decide
  rw [parts]
  exact covers_singleton_iff.mpr
    (.wild (by decide) (by decide) isName_inner (fun hidden => absurd hidden (by decide_cbv)) (by decide))

/-- In the directory with brackets there is a file that matches. -/
theorem selects_inner : (context ["[a]"]).Selects "*.nc" (.ofParts ["[a]", "x.nc"]) := by
  refine ⟨["x.nc"], ["[a]", "x.nc"], [], false, covers_inner, ?_, rfl⟩
  exact isPlain_inner.walk_eq (List.cons_ne_nil _ _) isShort_inner hasAbove_inner nofun

/-- The name of the directory is taken for a pattern, which nothing matches. -/
theorem expandFragments_inner : (context ["[a]"]).expandFragments ["*.nc"] =
    .error (.configuration "Fragment pattern '*.nc' matched no files") := by
  have globbed : glob tree [] (.ofParts ["[a]", "*.nc"]) = [] := by decide_cbv
  have root : (context ["[a]"]).base.append "*.nc" = .ofParts ["[a]", "*.nc"] := by decide
  have plain : (context ["[a]"]).base.Each NullFree :=
    fun part member => List.mem_singleton.mp member ▸ isName_bracket.noNull
  have resolved : PathContext.resolvePaths (context ["[a]"]).surroundings
      (glob tree [] ((context ["[a]"]).base.append "*.nc")) = .ok [] := by
    rw [root, globbed]
    rfl
  exact PathContext.expandFragments_pattern plain Named.nullFree_pattern (by decide) resolved

/-- From the root the directory is found as well. -/
theorem expandFragments_root : (context []).expandFragments ["*.nc"] =
    .ok [.ofParts ["a.nc"], .ofParts ["d.nc"]] := by
  have globbed : glob tree [] (.ofParts ["*.nc"]) = [.ofParts ["a.nc"], .ofParts ["d.nc"]] := by
    decide_cbv
  have root : (context []).base.append "*.nc" = .ofParts ["*.nc"] := by decide
  have single {name : String} (named : IsName name) :
      (context []).surroundings.resolve (.ofParts [name]) = .ok (.ofParts [name]) :=
    Surroundings.resolve_eq_self named.isPlain_ofParts (Tree.unlinked_of_linkless linkless _)
  have resolved : PathContext.resolvePaths (context []).surroundings
      (glob tree [] ((context []).base.append "*.nc")) = .ok [.ofParts ["a.nc"], .ofParts ["d.nc"]] := by
    rw [root, globbed]
    simp only [PathContext.resolvePaths, single Named.isName_plain, single isName_directory]
    rfl
  rw [PathContext.expandFragments_pattern (Path.each_nil 1) Named.nullFree_pattern (by decide) resolved]
  decide

/-- The directory is no file. -/
theorem not_selects_directory : ¬ (context []).Selects "*.nc" (.ofParts ["d.nc"]) := by
  rintro ⟨names, place, content, executable, -, walked, same⟩
  have lies := entry_of_walk walked
  obtain rfl : place = ["d.nc"] := (congrArg Path.parts same).symm
  cases lies

end Mixed

namespace PathContext

/-- The name of the base directory is taken for a pattern too, so that a file in it is missed, and a
directory that matches is taken for a file. -/
theorem expandFragments_of_other_pattern :
    ((Mixed.context ["[a]"]).expandFragments ["*.nc"] =
        .error (.configuration "Fragment pattern '*.nc' matched no files") ∧
      (Mixed.context ["[a]"]).Selects "*.nc" (.ofParts ["[a]", "x.nc"])) ∧
    ((Mixed.context []).expandFragments ["*.nc"] = .ok [.ofParts ["a.nc"], .ofParts ["d.nc"]] ∧
      ¬ (Mixed.context []).Selects "*.nc" (.ofParts ["d.nc"])) ∧
    ¬ ∀ (context : PathContext) (pattern : String), context.surroundings.tree.IsFit →
      context.base.IsPlain → Wildcard.hasMagic pattern = true →
        (Path.ofString pattern).isAbsolute = false →
          (∀ found, context.expandFragments [pattern] = .ok found →
              ∀ path, path ∈ found ↔ context.Selects pattern path) ∧
            ((∃ message, context.expandFragments [pattern] = .error (.configuration message)) ↔
              ∀ path, ¬ context.Selects pattern path) := by
  refine ⟨⟨Mixed.expandFragments_inner, Mixed.selects_inner⟩,
    ⟨Mixed.expandFragments_root, Mixed.not_selects_directory⟩, fun always => ?_⟩
  obtain ⟨-, fails⟩ := always (Mixed.context ["[a]"]) "*.nc" Mixed.isFit_tree
    Mixed.isName_bracket.isPlain_ofParts (by decide) (by decide)
  exact fails.mp ⟨_, Mixed.expandFragments_inner⟩ _ Mixed.selects_inner

end PathContext

end NegativeCompile

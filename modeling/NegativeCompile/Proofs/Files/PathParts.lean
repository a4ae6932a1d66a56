import NegativeCompile.Files.Glob
import NegativeCompile.Proofs.Files.Resolving
import NegativeCompile.Proofs.Files.Walking

/-! # The parts of paths

A property of each part of a path stays with what is made of the path (`Path.Each`): with the path
that it is resolved to (`exists_of_resolve`) and with the paths that match it (`each_glob`), if the
names and the links of the tree have it, too. One such property is that no null character is held,
which lets a path be used. -/

namespace NegativeCompile.Files

open Text

variable {tree : Tree} {start : Place} {path target base : Path} {parts steps kept : List String}
variable {part step text : String} {known : KnownLinks} {fuel : Nat} {holds : String → Prop}
variable {good : Path → Prop}

namespace Path

/-- Each part of a path has a property. -/
def Each (holds : String → Prop) (path : Path) : Prop := ∀ part ∈ path.parts, holds part

/-- The root has no parts. -/
theorem each_nil (slashes : Nat) : Each holds ⟨slashes, []⟩ :=
  fun _ member => absurd member List.not_mem_nil

/-- What each part of two paths has is had by each part of one seen from the other. -/
theorem Each.join (each : base.Each holds) (more : path.Each holds) : (base.join path).Each holds := by
  unfold Path.join
  split
  · exact more
  · intro part member
    exact (List.mem_append.mp member).elim (each part) (more part)

/-- The path above has no other parts. -/
theorem Each.parent (each : path.Each holds) : path.parent.Each holds :=
  fun part member => each part (List.dropLast_subset _ member)

/-- A part that has the property may be added. -/
theorem Each.concat (each : path.Each holds) (last : holds part) :
    Path.Each holds ⟨path.slashes, path.parts ++ [part]⟩ :=
  List.forall_mem_append.mpr ⟨each, List.forall_mem_singleton.mpr last⟩

/-- One level up a path has no other parts than double dots. -/
theorem Each.goUp (each : path.Each holds) (dots : holds "..") : (goUp path).Each holds := by
  unfold Files.goUp
  split
  · exact each.concat dots
  · exact each.parent

/-- Taking double dots back adds no other part than double dots. -/
theorem each_foldParts {isAbsolute : Bool} (dots : holds "..") (before : ∀ part ∈ kept, holds part)
    (each : ∀ part ∈ parts, holds part) : ∀ part ∈ foldParts isAbsolute kept parts, holds part := by
  induction parts generalizing kept with
  | nil => exact fun part member => before part (List.mem_reverse.mp member)
  | cons next rest ih =>
    have others : ∀ part ∈ rest, holds part :=
      fun part member => each part (List.mem_cons_of_mem _ member)
    rw [foldParts.eq_def]
    dsimp only
    split
    · exact ih (List.forall_mem_cons.mpr ⟨each next List.mem_cons_self, before⟩) others
    · split
      · refine ih (fun part member => ?_) others
        split at member
        · exact absurd member List.not_mem_nil
        · exact List.mem_singleton.mp member ▸ dots
      · split
        · exact ih (List.forall_mem_cons.mpr ⟨dots, before⟩) others
        · exact ih (List.forall_mem_cons.mp before).2 others

/-- A normal path has no other parts than the path itself, and double dots. -/
theorem Each.normalize (each : path.Each holds) (dots : holds "..") : path.normalize.Each holds :=
  each_foldParts dots (fun _ member => absurd member List.not_mem_nil) each

end Path

/-! ## Following names -/

/-- A step gives parts that have a property, as a part by itself and as the text of a path. -/
structure Gives (holds : String → Prop) (step : String) : Prop where
  /-- It has the property if it counts as a part. -/
  here : isPart step = true → holds step
  /-- The parts of the path of that name have it. -/
  inside : (Path.ofString step).Each holds

/-- The links of a tree, as seen from a place, lead along steps that give parts with a property. -/
def Tree.LinksGive (tree : Tree) (start : Place) (holds : String → Prop) : Prop :=
  ∀ text target, linkStatus tree start text = .ok (.link target) →
    ∀ step ∈ slashPieces target, Gives holds step

/-- It is known of links only that they lead along good paths. -/
def KnownLinks.Good (good : Path → Prop) (known : KnownLinks) : Prop :=
  ∀ link reached, (link, some reached) ∈ known → good reached

/-- What is known of no links leads along good paths. -/
theorem KnownLinks.good_nil : KnownLinks.Good good [] := fun _ _ member => absurd member List.not_mem_nil

/-- A link that is being followed leads nowhere yet. -/
theorem KnownLinks.Good.cons_none (links : known.Good good) (link : Path) :
    KnownLinks.Good good ((link, none) :: known) := by
  intro other reached member
  rcases List.mem_cons.mp member with same | member
  · cases same
  · exact links other reached member

/-- A link that leads to a good path may be known as well. -/
theorem KnownLinks.Good.cons_some {reached : Path} (links : known.Good good) (there : good reached)
    (link : Path) : KnownLinks.Good good ((link, some reached) :: known) := by
  intro other reached member
  rcases List.mem_cons.mp member with same | member
  · cases same
    exact there
  · exact links other reached member

/-- What is known of a link leads along a good path. -/
theorem KnownLinks.Good.of_lookup {link reached : Path} (links : known.Good good)
    (seen : known.lookup link = some (some reached)) : good reached := by
  obtain ⟨first, last, rfl, -⟩ := List.lookup_eq_some_iff.mp seen
  exact links link reached (by simp)

/-- As far as it is known where links lead, each part of the path there has a property. -/
def KnownLinks.Each (holds : String → Prop) (known : KnownLinks) : Prop :=
  ∀ link reached, (link, some reached) ∈ known → reached.Each holds

/-- What is known of links then leads along paths whose parts have the property. -/
theorem KnownLinks.each_iff_good : KnownLinks.Each holds known ↔ known.Good (Path.Each holds) := Iff.rfl

/-- Following names that give parts with a property leads to such a path from such a path. -/
theorem each_resolveFrom (dots : holds "..") (targets : tree.LinksGive start holds)
    (each : path.Each holds) (links : KnownLinks.Each holds known)
    (names : ∀ step ∈ steps, Gives holds step) :
    (resolveFrom tree start fuel path known steps).path.Each holds ∧
      KnownLinks.Each holds (resolveFrom tree start fuel path known steps).known := by
  -- Induction on the fuel: the names of a link are followed with less of it, and what is known of
  -- links stays right all along.
  rw [KnownLinks.each_iff_good] at links ⊢
  induction fuel generalizing path known steps with
  | zero => exact ⟨each, links⟩
  | succ fuel ih =>
    cases steps with
    | nil => exact ⟨each, links⟩
    | cons step rest =>
      obtain ⟨gives, others⟩ := List.forall_mem_cons.mp names
      have left : Path.Each holds ⟨0, rest.filter isPart⟩ := by
        intro part member
        obtain ⟨listed, counts⟩ := List.mem_filter.mp member
        exact (others part listed).here counts
      have next : (path.append step).Each holds := each.join gives.inside
      by_cases blank : isPart step = false
      · rw [resolveFrom_of_not_isPart blank]
        exact ih each links others
      have counts : isPart step = true := by simpa using blank
      by_cases up : step = ".."
      · rw [up, resolveFrom_dots]
        exact ih (each.goUp dots) links others
      by_cases linked : ∃ target, linkStatus tree start (path.append step).toString = .ok (.link target)
      · obtain ⟨target, found⟩ := linked
        rw [resolveFrom_of_link counts up found]
        split
        next reached seen => exact ih (links.of_lookup seen) links others
        next => exact ⟨next.join left, links⟩
        next =>
          have origin : Path.Each holds (if target.startsWith "/" then ⟨1, []⟩ else path) := by
            split
            · exact Path.each_nil 1
            · exact each
          obtain ⟨there, further⟩ := ih origin (links.cons_none _) (targets _ target found)
          dsimp only
          generalize resolveFrom tree start fuel (if target.startsWith "/" then ⟨1, []⟩ else path)
            ((path.append step, none) :: known) (slashPieces target) = reached at there further ⊢
          split
          · exact ih there (further.cons_some there _) others
          · exact ⟨there.join left, further⟩
      · rw [resolveFrom_cons counts up fun target found => linked ⟨target, found⟩]
        exact ih next links others

/-- A path that is resolved has parts with a property before double dots are taken back, if its own
parts and the links give such parts. -/
theorem exists_of_resolve (dots : holds "..") (targets : tree.LinksGive start holds)
    (here : ∀ name ∈ start, holds name) (names : ∀ part ∈ path.parts, Gives holds part)
    (resolved : resolve tree start path = .ok target) :
    ∃ reached : Path, reached.slashes = 1 ∧ reached.Each holds ∧ target = reached.normalize := by
  unfold resolve at resolved
  split at resolved
  · cases resolved
  · dsimp only at resolved
    split at resolved
    · cases resolved
    · refine ⟨_, rfl, ?_, (Except.ok.inj resolved).symm⟩
      have begun : (Path.ofParts start).Each holds := here
      refine begun.join
        (each_resolveFrom dots targets ?_ (KnownLinks.each_iff_good.mpr KnownLinks.good_nil) names).1
      split <;> exact Path.each_nil _

/-! ## Matching patterns -/

/-- The names in the directories of a tree give parts with a property. -/
def Tree.NamesGive (tree : Tree) (holds : String → Prop) : Prop :=
  ∀ place, ∀ child ∈ tree.children place, (Path.ofString child.1).Each holds

/-- A name in the directory that a path leads to is one in a directory. -/
theorem exists_of_mem_namesIn {onlyDirectories : Bool} {name : String}
    (member : name ∈ namesIn tree start path onlyDirectories) :
    ∃ place, ∃ child ∈ tree.children place, child.1 = name := by
  unfold namesIn at member
  split at member
  next place _ =>
    refine ⟨place, List.mem_map.mp ?_⟩
    dsimp only at member
    split at member
    · exact List.mem_of_mem_filter member
    · exact member
  · exact absurd member List.not_mem_nil

/-- A name below a path gives a path with parts that have a property. -/
theorem Path.Each.append_name {onlyDirectories : Bool} {name : String} (each : path.Each holds)
    (names : tree.NamesGive holds) (member : name ∈ namesIn tree start base onlyDirectories) :
    (path.append name).Each holds := by
  obtain ⟨place, child, listed, rfl⟩ := exists_of_mem_namesIn member
  exact each.join (names place child listed)

/-- The paths below a directory have parts with a property. -/
theorem each_pathsBelow {onlyDirectories : Bool} (names : tree.NamesGive holds)
    (each : path.Each holds) :
    ∀ found ∈ pathsBelow tree start onlyDirectories fuel path, found.Each holds := by
  induction fuel generalizing path with
  | zero => exact fun found member => absurd member List.not_mem_nil
  | succ fuel ih =>
    intro found member
    obtain ⟨name, listed, within⟩ := List.mem_flatMap.mp member
    have next := each.append_name names (List.mem_of_mem_filter listed)
    rcases List.mem_cons.mp within with rfl | below
    · exact next
    · exact ih next found below

/-- The paths that a part of a pattern stands for have parts with a property. -/
theorem each_matchesIn {onlyDirectories : Bool} (names : tree.NamesGive holds)
    (each : path.Each holds) (inside : (Path.ofString part).Each holds) :
    ∀ found ∈ matchesIn tree start onlyDirectories part path, found.Each holds := by
  intro found member
  unfold matchesIn at member
  split at member
  · rcases List.mem_cons.mp member with rfl | below
    · exact each
    · exact each_pathsBelow names each found below
  · split at member
    · obtain ⟨name, listed, rfl⟩ := List.mem_map.mp member
      have among := List.mem_of_mem_filter listed
      split at among
      · exact each.append_name names among
      · exact each.append_name names (List.mem_of_mem_filter among)
    · dsimp only at member
      split at member
      · rw [List.mem_singleton.mp member]
        exact each.join inside
      · exact absurd member List.not_mem_nil

/-- The paths that match a pattern have parts with a property if the parts of the pattern and the
names in the tree give such parts. -/
theorem each_glob {pattern : Path} (names : tree.NamesGive holds)
    (each : ∀ part ∈ pattern.parts, holds part ∧ (Path.ofString part).Each holds) :
    ∀ found ∈ glob tree start pattern, found.Each holds := by
  have along : ∀ (onlyDirectories : Bool) (before : List String),
      (∀ part ∈ before, holds part ∧ (Path.ofString part).Each holds) →
      ∀ found ∈ matchesOf tree start pattern.slashes onlyDirectories before, found.Each holds := by
    intro onlyDirectories before
    induction before generalizing onlyDirectories with
    | nil =>
      intro _ found member
      rw [matchesOf, List.mem_singleton] at member
      exact member ▸ Path.each_nil _
    | cons part before ih =>
      intro given found member
      rw [matchesOf] at member
      dsimp only at member
      split at member
      · split at member
        · rw [List.mem_singleton.mp member]
          exact fun other listed => (given other (List.mem_reverse.mp listed)).1
        · exact absurd member List.not_mem_nil
      · obtain ⟨directory, earlier, within⟩ := List.mem_flatMap.mp member
        have others := fun other listed => given other (List.mem_cons_of_mem part listed)
        exact each_matchesIn names (ih true others directory earlier)
          (given part List.mem_cons_self).2 found within
  exact along false pattern.parts.reverse fun part listed => each part (List.mem_reverse.mp listed)

/-! ## Null characters -/

/-- A text that can stand in a path. -/
def NullFree (text : String) : Prop := '\x00' ∉ text.toList

/-- The pieces of a text between separators hold no other characters than it does. -/
theorem subset_of_mem_splitOn {separator : Char} {chars piece : List Char}
    (member : piece ∈ chars.splitOn separator) : piece ⊆ chars := by
  induction chars generalizing piece with
  | nil =>
    rw [List.splitOn_nil, List.mem_singleton] at member
    rw [member]
    exact List.nil_subset _
  | cons c rest ih =>
    obtain ⟨first, others, equal⟩ := List.exists_cons_of_ne_nil (List.splitOn_ne_nil separator rest)
    rw [List.splitOn_cons_eq_if_modifyHead] at member
    split at member
    · rcases List.mem_cons.mp member with rfl | later
      · exact List.nil_subset _
      · exact List.subset_cons_of_subset c (ih later)
    · rw [equal, List.modifyHead_cons] at member
      rcases List.mem_cons.mp member with rfl | later
      · exact List.cons_subset_cons c (ih (equal ▸ List.mem_cons_self))
      · exact List.subset_cons_of_subset c (ih (equal ▸ List.mem_cons_of_mem _ later))

/-- The pieces of a text between slashes can stand in a path if the text can. -/
theorem NullFree.of_mem_slashPieces (free : NullFree text) {piece : String}
    (member : piece ∈ slashPieces text) : NullFree piece := by
  rw [slashPieces, splitAtChar_eq] at member
  obtain ⟨chars, listed, rfl⟩ := List.mem_map.mp member
  rw [NullFree, String.toList_ofList]
  exact fun held => free (subset_of_mem_splitOn listed held)

/-- The parts of the path of a text can stand in a path if the text can. -/
theorem NullFree.ofString (free : NullFree text) : (Path.ofString text).Each NullFree :=
  fun _ member => free.of_mem_slashPieces (List.mem_of_mem_filter member)

/-- A text that can stand in a path gives parts that can. -/
theorem NullFree.gives (free : NullFree text) : Gives NullFree text := ⟨fun _ => free, free.ofString⟩

/-- Double dots can stand in a path. -/
theorem nullFree_dots : NullFree ".." := by
  rw [NullFree]
  decide

/-- Names that can stand in a path can do so together. -/
theorem nullFree_intercalate {names : List String} (free : ∀ name ∈ names, NullFree name) :
    NullFree ("/".intercalate names) := by
  rw [NullFree, String.toList_intercalate]
  induction names with
  | nil => exact List.not_mem_nil
  | cons name rest ih =>
    obtain ⟨here, others⟩ := List.forall_mem_cons.mp free
    cases rest with
    | nil => simpa [NullFree] using here
    | cons next more =>
      rw [List.map_cons, List.intercalate_cons_of_ne_nil (by simp)]
      simp only [List.mem_append, not_or]
      exact ⟨⟨here, by decide⟩, ih others⟩

/-- The text of a path holds no null character if no part of the path does. -/
theorem Path.Each.hasNull_toString (free : path.Each NullFree) : hasNull path.toString = false := by
  have slashes : '\x00' ∉ List.replicate path.slashes '/' := by
    intro member
    cases List.eq_of_mem_replicate member
  have missing : '\x00' ∉ path.toString.toList := by
    rw [Path.toString]
    split
    · decide
    · rw [String.toList_append, String.toList_ofList]
      exact fun member => (List.mem_append.mp member).elim slashes (nullFree_intercalate free)
  rw [hasNull, String.contains_char_eq]
  exact decide_eq_false missing

/-- No part of a path holds a null character just if no part is found to. -/
theorem Path.each_nullFree_iff :
    path.Each NullFree ↔ path.parts.any (·.contains '\x00') = false := by
  rw [List.any_eq_false]
  refine forall₂_congr fun part _ => ?_
  rw [String.contains_char_eq, decide_eq_true_eq, NullFree]

/-- The names in a tree and the links of it hold no null character. -/
structure Tree.NullFree (tree : Tree) : Prop where
  /-- Each name can stand in a path. -/
  names : ∀ entry ∈ tree.entries, ∀ name ∈ entry.1, Files.NullFree name
  /-- Each link leads along a text of a path. -/
  links : ∀ entry ∈ tree.entries, ∀ target, entry.2 = .link target → Files.NullFree target

namespace Tree.NullFree

/-- The links of such a tree lead along texts that can stand in a path. -/
theorem linksGive (free : tree.NullFree) (start : Place) : tree.LinksGive start Files.NullFree := by
  intro text target found step member
  obtain ⟨place, lies⟩ := exists_of_linkStatus found
  rcases eq_directory_or_mem_entries lies with directory | listed
  · cases directory
  · exact ((free.links _ listed target rfl).of_mem_slashPieces member).gives

/-- The names in such a tree can stand in a path. -/
theorem namesGive (free : tree.NullFree) : tree.NamesGive Files.NullFree := by
  intro place child member
  obtain ⟨⟨other, entry⟩, listed, found⟩ := List.mem_filterMap.mp member
  dsimp only at found
  split at found
  next name last =>
    split at found
    · obtain rfl := Option.some.inj found
      exact (free.names _ listed name (List.mem_of_getLast? last)).ofString
    · cases found
  · cases found

/-- In such a tree a path without null characters is resolved to one. -/
theorem resolve (free : tree.NullFree) (here : ∀ name ∈ start, Files.NullFree name)
    (names : path.Each Files.NullFree) (resolved : Files.resolve tree start path = .ok target) :
    target.Each Files.NullFree := by
  obtain ⟨reached, -, each, rfl⟩ := exists_of_resolve nullFree_dots (free.linksGive start) here
    (fun part member => (names part member).gives) resolved
  exact each.normalize nullFree_dots

/-- In such a tree a pattern without null characters matches paths without them. -/
theorem glob {pattern : Path} (free : tree.NullFree) (names : pattern.Each Files.NullFree) :
    ∀ found ∈ Files.glob tree start pattern, found.Each Files.NullFree :=
  each_glob free.namesGive fun part member => ⟨names part member, (names part member).ofString⟩

end Tree.NullFree

end NegativeCompile.Files

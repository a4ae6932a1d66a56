import Mathlib.Data.List.Infix
import NegativeCompile.Attribution

/-! # Paths that are resolved already

A path is plain if it is absolute and each part of it is a proper name of a file (`Path.IsPlain`). A
plain path is read back from its text (`Path.ofString_toString`), and it is resolved already if there
is no link on the way (`resolve_eq_self`). So a compiler that names a fragment by such a path names
the file of the fragment (`Surroundings.sameFile_self`). -/

namespace NegativeCompile

namespace Files

open Text

variable {tree : Tree} {start place : Place} {path : Path} {parts steps : List String}
variable {step : String}

/-! ## Pieces of texts -/

/-- The first piece is put after what stands before it. -/
theorem splitAtFrom_eq (separator : Char) (piece text : List Char) :
    splitAtFrom separator piece text =
      (text.splitOn separator).modifyHead (piece.reverse ++ ·) := by
  induction text generalizing piece with
  | nil => simp [splitAtFrom]
  | cons c rest ih =>
    rw [splitAtFrom, List.splitOn, List.splitOnP_cons_eq_if_modifyHead]
    by_cases separates : c = separator
    · rw [if_pos separates, if_pos (by simpa using separates), ih]
      have unchanged : ([].reverse ++ · : List Char → List Char) = id := rfl
      rw [unchanged, List.modifyHead_id]
      simp [List.splitOn]
    · rw [if_neg separates, if_neg (by simpa using separates), ih]
      simp [List.splitOn, Function.comp_def]

/-- Splitting a text at a character is the library's splitting. -/
theorem splitAtChar_eq (separator : Char) (text : List Char) :
    splitAtChar separator text = text.splitOn separator := by
  have unchanged : ([].reverse ++ · : List Char → List Char) = id := rfl
  rw [splitAtChar, splitAtFrom_eq, unchanged, List.modifyHead_id, id]

/-! ## Plain paths -/

/-- A name that a directory can hold something under. -/
structure IsName (name : String) : Prop where
  /-- It counts as a part of a path. -/
  counts : isPart name = true
  /-- It does not lead up. -/
  ne_dots : name ≠ ".."
  /-- It is not cut by a slash. -/
  noSlash : '/' ∉ name.toList
  /-- It does not hold the character that no path can hold. -/
  noNull : '\x00' ∉ name.toList

/-- A name is not empty. -/
theorem IsName.ne_empty (named : IsName step) : step ≠ "" := by
  rintro rfl
  cases named.counts

/-- A name has a first character, which is no slash. -/
theorem IsName.exists_toList_eq (named : IsName step) :
    ∃ c more, step.toList = c :: more ∧ c ≠ '/' := by
  cases spelled : step.toList with
  | nil => exact absurd (String.toList_eq_nil_iff.mp spelled) named.ne_empty
  | cons c more =>
    refine ⟨c, more, rfl, ?_⟩
    rintro rfl
    exact named.noSlash (spelled ▸ List.mem_cons_self)

/-- An absolute path whose parts are names. -/
structure Path.IsPlain (path : Path) : Prop where
  /-- The path is absolute. Two slashes at its start are not normal: they are resolved to one. -/
  slashes : path.slashes = 1
  /-- Its parts are names. -/
  names : ∀ part ∈ path.parts, IsName part

/-- The root is plain. -/
theorem Path.isPlain_root : (Path.ofParts []).IsPlain :=
  ⟨rfl, fun _ member => absurd member List.not_mem_nil⟩

/-- There is no link on the way to a place. -/
def Tree.Unlinked (tree : Tree) (place : Place) : Prop :=
  ∀ above, above <+: place → ∀ target, tree.entry? above ≠ some (.link target)

/-- The characters of the text of a plain path. -/
theorem Path.IsPlain.toList_toString (plain : path.IsPlain) :
    path.toString.toList = '/' :: ['/'].intercalate (path.parts.map String.toList) := by
  have slash : String.ofList (List.replicate path.slashes '/') = "/" := by rw [plain.slashes]; rfl
  have filled : ¬ ("/" ++ "/".intercalate path.parts).isEmpty = true := by
    rw [String.isEmpty_iff]
    intro empty
    have nothing := congrArg String.toList empty
    rw [String.toList_append] at nothing
    cases nothing
  rw [Path.toString, slash, if_neg filled, String.toList_append, String.toList_intercalate]
  rfl

/-- The text of a plain path starts with a slash. -/
theorem Path.IsPlain.startsWith_toString (plain : path.IsPlain) :
    path.toString.startsWith "/" = true := by
  rw [String.startsWith_string_iff, plain.toList_toString]
  exact List.prefix_append ['/'] _

/-- The pieces of the text of a plain path are nothing, which does not count, and its parts. -/
theorem Path.IsPlain.filter_slashPieces (plain : path.IsPlain) {counts : String → Bool}
    (nothing : counts "" = false) (each : ∀ part ∈ path.parts, counts part = true) :
    (slashPieces path.toString).filter counts = path.parts := by
  have uncut : ∀ piece ∈ path.parts.map String.toList, '/' ∉ piece := by
    intro piece member
    obtain ⟨part, listed, rfl⟩ := List.mem_map.mp member
    exact (plain.names part listed).noSlash
  have rejoined : (path.parts.map String.toList).map String.ofList = path.parts := by
    simp [Function.comp_def]
  rw [slashPieces, splitAtChar_eq, plain.toList_toString]
  -- The root is a slash with nothing around it; any other path is a list of pieces after nothing.
  by_cases root : path.parts = []
  · have empty : counts (String.ofList []) = false := nothing
    have pieces : List.splitOn '/' ['/'] = [[], []] := rfl
    simp [root, pieces, empty]
  · have joined : '/' :: ['/'].intercalate (path.parts.map String.toList) =
        ['/'].intercalate ([] :: path.parts.map String.toList) := by
      rw [List.intercalate_cons_of_ne_nil (by simpa using root)]
      rfl
    rw [joined, List.splitOn_intercalate '/' (by simpa using uncut) (List.cons_ne_nil _ _),
      List.map_cons, rejoined, List.filter_cons_of_neg (by simpa using nothing)]
    exact List.filter_eq_self.mpr each

/-- The text of a plain path starts with one slash. -/
theorem Path.IsPlain.leadingSlashes_toString (plain : path.IsPlain) :
    leadingSlashes path.toString.toList = 1 := by
  have single : path.toString.toList.takeWhile (· = '/') = ['/'] := by
    rw [plain.toList_toString, List.takeWhile_cons_of_pos (by simp)]
    have names := plain.names
    generalize path.parts = parts at names
    cases parts with
    | nil => rfl
    | cons part rest =>
      obtain ⟨c, more, spelled, unslashed⟩ := (names part List.mem_cons_self).exists_toList_eq
      have starts : c :: more <+: ['/'].intercalate ((part :: rest).map String.toList) := by
        rw [List.map_cons, spelled]
        cases rest with
        | nil => exact List.prefix_append (c :: more) []
        | cons next others =>
          rw [List.intercalate_cons_of_ne_nil (by simp), List.append_assoc]
          exact List.prefix_append _ _
      obtain ⟨after, split⟩ := starts
      rw [← split, List.cons_append, List.takeWhile_cons_of_neg (by simpa using unslashed)]
  rw [leadingSlashes, single]
  rfl

/-- A plain path is read back from its text. -/
theorem Path.IsPlain.ofString_toString (plain : path.IsPlain) :
    Path.ofString path.toString = path := by
  have parts : (slashPieces path.toString).filter isPart = path.parts :=
    plain.filter_slashPieces (by decide) fun part member => (plain.names part member).counts
  rw [Path.ofString, plain.leadingSlashes_toString, parts, ← plain.slashes]

/-- A name by itself is a path with one part. -/
theorem IsName.ofString_eq (named : IsName step) : Path.ofString step = ⟨0, [step]⟩ := by
  obtain ⟨c, more, spelled, unslashed⟩ := named.exists_toList_eq
  have relative : Path.leadingSlashes step.toList = 0 := by
    rw [Path.leadingSlashes, spelled, List.takeWhile_cons_of_neg (by simpa using unslashed)]
    rfl
  have whole : step.toList.splitOn '/' = [step.toList] := by
    have uncut : ∀ piece ∈ [step.toList], '/' ∉ piece := by simpa using named.noSlash
    simpa using List.splitOn_intercalate '/' uncut (List.cons_ne_nil _ _)
  rw [Path.ofString, relative, slashPieces, splitAtChar_eq, whole]
  simp [named.counts]

/-! ## Walks without links -/

/-- A walk meets no link if it does not end at one and does not go round in a circle. -/
def MeetsNoLink : Except Fault Arrival → Prop
  | .ok arrival => ∀ target, arrival.entry ≠ some (.link target)
  | .error fault => fault ≠ .linkLoop

/-- A walk that ends with a fault meets no link if the fault is another one than a circle of links. -/
theorem meetsNoLink_error {fault : Fault} (other : fault ≠ .linkLoop) :
    MeetsNoLink (.error fault) :=
  other

/-- A walk that ends where nothing lies meets no link. -/
theorem meetsNoLink_nothing : MeetsNoLink (.ok ⟨place, none⟩) :=
  fun target => (Option.some_ne_none (Entry.link target)).symm

/-- A walk along dots and nothing else meets no link if it starts at none. -/
theorem meetsNoLink_dots {follow : Bool} {links : Nat}
    (unlinked : ∀ target, tree.entry? place ≠ some (.link target))
    (dots : ∀ step ∈ steps, step = ".") :
    MeetsNoLink (walkFrom tree follow links place steps) := by
  induction steps with
  | nil =>
    rw [walkFrom]
    exact unlinked
  | cons step rest ih =>
    rw [walkFrom]
    split
    · rw [if_pos (dots step List.mem_cons_self)]
      exact ih fun other member => dots other (List.mem_cons_of_mem _ member)
    · exact meetsNoLink_error (by decide)

/-- A walk along a name that is no link fails there without a circle, or it ends where nothing lies, or
it goes on from there. -/
theorem walkFrom_name (follow : Bool) (links : Nat) (steps : List String) (named : IsName step)
    (straight : ∀ target, tree.entry? (place ++ [step]) ≠ some (.link target)) :
    (∃ fault, fault ≠ .linkLoop ∧
        walkFrom tree follow links place (step :: steps) = .error fault) ∨
      (steps = [] ∧ walkFrom tree follow links place (step :: steps) = .ok ⟨place ++ [step], none⟩) ∨
      walkFrom tree follow links place (step :: steps) =
        walkFrom tree follow links (place ++ [step]) steps := by
  have single : step ≠ "." := by
    rintro rfl
    cases named.counts
  rw [walkFrom]
  split
  · rw [if_neg single, if_neg named.ne_dots]
    split
    · exact .inl ⟨_, by decide, rfl⟩
    · cases found : tree.entry? (place ++ [step]) with
      | none =>
        simp only [found]
        split
        next last => exact .inr (.inl ⟨List.isEmpty_iff.mp last, rfl⟩)
        · exact .inl ⟨_, by decide, rfl⟩
      | some entry =>
        cases entry with
        | link target => exact absurd found (straight target)
        | directory => exact .inr (.inr (by simp only [found]))
        | file content executable => exact .inr (.inr (by simp only [found]))
  · exact .inl ⟨_, by decide, rfl⟩

/-- A walk along names, and dots after them, meets no link if there is none on the way. -/
theorem meetsNoLink_walkFrom {follow : Bool} {links : Nat} {dots : List String}
    (names : ∀ part ∈ parts, IsName part)
    (unlinked : ∀ above, above <+: parts →
      ∀ target, tree.entry? (place ++ above) ≠ some (.link target))
    (dotted : ∀ step ∈ dots, step = ".") :
    MeetsNoLink (walkFrom tree follow links place (parts ++ dots)) := by
  -- Induction on the names: whatever lies at the next place, it is no link, so the walk goes on from
  -- there or ends with another fault.
  induction parts generalizing place with
  | nil =>
    refine meetsNoLink_dots (fun target => ?_) dotted
    simpa using unlinked [] List.nil_prefix target
  | cons part rest ih =>
    have further : MeetsNoLink (walkFrom tree follow links (place ++ [part]) (rest ++ dots)) := by
      refine ih (fun other member => names other (List.mem_cons_of_mem _ member)) fun above starts => ?_
      simpa using unlinked (part :: above) (List.prefix_cons_inj part |>.mpr starts)
    rw [List.cons_append]
    rcases walkFrom_name follow links (rest ++ dots) (names part List.mem_cons_self)
        (unlinked [part] (List.prefix_append [part] rest)) with
      ⟨fault, other, walked⟩ | ⟨-, walked⟩ | walked
    · rw [walked]
      exact meetsNoLink_error other
    · rw [walked]
      exact meetsNoLink_nothing
    · rwa [walked]

/-- A walk along the text of a plain path is one along its names, and dots after them, unless the text
cannot be walked along. -/
theorem Path.IsPlain.walk_outcome {follow : Bool} (plain : path.IsPlain) :
    (∃ fault, fault ≠ .linkLoop ∧ walk tree start follow path.toString = .error fault) ∨
      ∃ dots : List String, (∀ step ∈ dots, step = ".") ∧
        walk tree start follow path.toString =
          walkFrom tree follow linkLimit [] (path.parts ++ dots) := by
  have named : ∀ part ∈ path.parts, (part != "") = true := by
    intro part member
    have counts := (plain.names part member).counts
    rw [isPart, Bool.and_eq_true] at counts
    exact counts.1
  rw [walk]
  split
  · exact .inl ⟨_, by decide, rfl⟩
  · split
    · exact .inl ⟨_, by decide, rfl⟩
    · rw [if_pos plain.startsWith_toString, stepsOf, plain.filter_slashPieces (by decide) named]
      refine .inr ⟨_, fun step member => ?_, rfl⟩
      split at member
      · exact List.mem_singleton.mp member
      · cases member

/-- A walk along the text of a plain path meets no link if there is none on the way. -/
theorem Path.IsPlain.meetsNoLink_walk {follow : Bool} (plain : path.IsPlain)
    (unlinked : tree.Unlinked path.parts) : MeetsNoLink (walk tree start follow path.toString) := by
  rcases plain.walk_outcome with ⟨fault, other, walked⟩ | ⟨dots, dotted, walked⟩
  · rw [walked]
    exact meetsNoLink_error other
  · rw [walked]
    exact meetsNoLink_walkFrom plain.names (fun above starts => by simpa using unlinked above starts)
      dotted

/-- No circle of links is met along a plain path without links. -/
theorem Path.IsPlain.status_ne_linkLoop (plain : path.IsPlain)
    (unlinked : tree.Unlinked path.parts) :
    status tree start path.toString ≠ .error .linkLoop := by
  have meets : MeetsNoLink (walk tree start true path.toString) := plain.meetsNoLink_walk unlinked
  unfold status
  cases walked : walk tree start true path.toString with
  | error fault =>
    rw [walked] at meets
    intro circular
    cases circular
    exact meets rfl
  | ok arrival =>
    obtain ⟨place, entry⟩ := arrival
    cases entry with
    | none =>
      intro circular
      cases circular
    | some entry =>
      intro circular
      cases circular

/-- What lies at a plain path without links is no link. -/
theorem Path.IsPlain.linkStatus_ne_link (plain : path.IsPlain)
    (unlinked : tree.Unlinked path.parts) (target : String) :
    linkStatus tree start path.toString ≠ .ok (.link target) := by
  have meets : MeetsNoLink (walk tree start false path.toString) := plain.meetsNoLink_walk unlinked
  unfold linkStatus
  cases walked : walk tree start false path.toString with
  | error fault =>
    intro linked
    cases linked
  | ok arrival =>
    rw [walked] at meets
    obtain ⟨place, entry⟩ := arrival
    cases entry with
    | none =>
      intro linked
      cases linked
    | some entry =>
      intro linked
      cases linked
      exact meets target rfl

/-! ## Resolving -/

section

variable {target : String} {fuel : Nat} {known : KnownLinks}

/-- Following a name that is a link: what it leads to may be known, and is found out otherwise. -/
theorem resolveFrom_of_link (counts : isPart step = true) (forward : step ≠ "..")
    (linked : linkStatus tree start (path.append step).toString = .ok (.link target)) :
    resolveFrom tree start (fuel + 1) path known (step :: steps) =
      match known.lookup (path.append step) with
      | some (some reached) => resolveFrom tree start fuel reached known steps
      | some none => ⟨(path.append step).join ⟨0, steps.filter isPart⟩, false, known⟩
      | none =>
        let reached := resolveFrom tree start fuel (if target.startsWith "/" then ⟨1, []⟩ else path)
          ((path.append step, none) :: known) (slashPieces target)
        if reached.complete then
          resolveFrom tree start fuel reached.path
            ((path.append step, some reached.path) :: reached.known) steps
        else ⟨reached.path.join ⟨0, steps.filter isPart⟩, false, reached.known⟩ := by
  rw [resolveFrom.eq_def]
  simp only
  rw [if_neg (by simp [counts]), if_neg forward]
  cases known.lookup (path.append step) with
  | none => simp only [linked]
  | some found =>
    cases found with
    | none => simp only [linked]
    | some reached => simp only [linked]

/-- Following a name that does not count leads nowhere else. -/
theorem resolveFrom_of_not_isPart (blank : isPart step = false) :
    resolveFrom tree start (fuel + 1) path known (step :: steps) =
      resolveFrom tree start fuel path known steps := by
  rw [resolveFrom.eq_def]
  simp only
  rw [if_pos (by simp [blank])]

/-- Following double dots leads up. -/
theorem resolveFrom_dots :
    resolveFrom tree start (fuel + 1) path known (".." :: steps) =
      resolveFrom tree start fuel (goUp path) known steps := by
  rw [resolveFrom.eq_def]
  simp only
  rw [if_neg (by decide), if_pos trivial]

/-- Following a name that is no link leads to what has that name. -/
theorem resolveFrom_cons (counts : isPart step = true)
    (forward : step ≠ "..")
    (unlinked : ∀ target, linkStatus tree start (path.append step).toString ≠ .ok (.link target)) :
    resolveFrom tree start (fuel + 1) path known (step :: steps) =
      resolveFrom tree start fuel (path.append step) known steps := by
  rw [resolveFrom.eq_def]
  simp only
  rw [if_neg (by simp [counts]), if_neg forward]

end

/-- Following the names of a plain path without links leads along the path itself. -/
theorem resolveFrom_names {fuel : Nat} {before : List String} (enough : steps.length < fuel)
    (names : ∀ part ∈ before ++ steps, IsName part) (unlinked : tree.Unlinked (before ++ steps)) :
    resolveFrom tree start fuel ⟨1, before⟩ [] steps = ⟨⟨1, before ++ steps⟩, true, []⟩ := by
  -- Induction on the names that are left, while the names before them have been followed.
  induction steps generalizing fuel before with
  | nil =>
    obtain ⟨more, rfl⟩ := Nat.exists_eq_succ_of_ne_zero (Nat.ne_of_gt enough)
    rw [List.append_nil]
    rfl
  | cons step rest ih =>
    obtain ⟨more, rfl⟩ := Nat.exists_eq_succ_of_ne_zero (Nat.ne_of_gt (Nat.zero_lt_of_lt enough))
    have regroup : before ++ step :: rest = before ++ [step] ++ rest := by simp
    rw [regroup] at names unlinked ⊢
    have named : IsName step := names step (by simp)
    have next : (⟨1, before⟩ : Path).append step = ⟨1, before ++ [step]⟩ := by
      rw [Path.append, named.ofString_eq]
      rfl
    have plain : Path.IsPlain ⟨1, before ++ [step]⟩ :=
      ⟨rfl, fun part member => names part (List.mem_append_left _ member)⟩
    have straight : tree.Unlinked (before ++ [step]) := fun above starts =>
      unlinked above (starts.trans (List.prefix_append _ _))
    have onward : resolveFrom tree start more ⟨1, before ++ [step]⟩ [] rest =
        ⟨⟨1, before ++ [step] ++ rest⟩, true, []⟩ :=
      ih (Nat.lt_of_succ_lt_succ enough) names unlinked
    rw [resolveFrom_cons named.counts named.ne_dots, next]
    · exact onward
    · rw [next]
      exact plain.linkStatus_ne_link straight

/-- Names are kept when double dots are taken back. -/
theorem foldParts_names {isAbsolute : Bool} {before : List String}
    (names : ∀ part ∈ parts, IsName part) :
    Path.foldParts isAbsolute before parts = before.reverse ++ parts := by
  induction parts generalizing before with
  | nil => rw [Path.foldParts, List.append_nil]
  | cons part rest ih =>
    have named := names part List.mem_cons_self
    rw [Path.foldParts.eq_def]
    simp only
    rw [if_pos (by simpa using named.ne_dots),
      ih fun other member => names other (List.mem_cons_of_mem _ member)]
    simp

/-- A plain path is normal. -/
theorem Path.IsPlain.normalize_eq (plain : path.IsPlain) : path.normalize = path := by
  rw [Path.normalize, foldParts_names plain.names]
  rfl

/-- A text of pieces with slashes between them is as long as their number, but for one. -/
theorem length_le_length_intercalate (pieces : List (List Char)) :
    pieces.length ≤ (['/'].intercalate pieces).length + 1 := by
  induction pieces with
  | nil => exact Nat.zero_le _
  | cons piece rest ih =>
    cases rest with
    | nil => simp
    | cons next others =>
      rw [List.intercalate_cons_of_ne_nil (List.cons_ne_nil _ _)]
      simp only [List.length_append, List.length_cons, List.length_nil] at ih ⊢
      omega

/-- There is enough fuel to follow the names of a plain path. -/
theorem Path.IsPlain.length_parts_lt_resolveFuel (plain : path.IsPlain) :
    path.parts.length < resolveFuel tree start path := by
  have short := length_le_length_intercalate (path.parts.map String.toList)
  have long : path.toString.length =
      (['/'].intercalate (path.parts.map String.toList)).length + 1 := by
    rw [← String.length_toList, plain.toList_toString, List.length_cons]
  rw [List.length_map, ← long] at short
  rw [resolveFuel]
  omega

/-- A plain path without links is resolved already. -/
theorem resolve_eq_self (plain : path.IsPlain) (unlinked : tree.Unlinked path.parts) :
    resolve tree start path = .ok path := by
  have possible : ¬ path.parts.any (·.contains '\x00') = true := by
    rw [List.any_eq_true]
    rintro ⟨part, member, holds⟩
    rw [String.contains_char_eq, decide_eq_true_eq] at holds
    exact (plain.names part member).noNull holds
  have rooted : path = ⟨1, path.parts⟩ := by rw [← plain.slashes]
  have absolute : path.isAbsolute = true := by rw [Path.isAbsolute, plain.slashes]; rfl
  have followed : resolveFrom tree start (resolveFuel tree start path) ⟨1, []⟩ [] path.parts =
      ⟨path, true, []⟩ := by
    rw [resolveFrom_names plain.length_parts_lt_resolveFuel plain.names unlinked, List.nil_append,
      ← rooted]
  have joined : (⟨1, ((Path.ofParts start).join path).parts⟩ : Path) = path := by
    rw [Path.join, if_pos absolute, ← rooted]
  rw [resolve, if_neg possible]
  simp only [absolute, if_true, followed, joined, plain.normalize_eq]
  split
  next circular => exact absurd circular (plain.status_ne_linkLoop unlinked)
  · rfl

end Files

namespace Surroundings

open Files

/-- What a path is resolved to is what its names lead to. -/
theorem resolve_eq_ok_iff {surroundings : Surroundings} {path target : Path} :
    surroundings.resolve path = .ok target ↔
      Files.resolve surroundings.tree surroundings.here path = .ok target := by
  unfold resolve
  cases Files.resolve surroundings.tree surroundings.here path with
  | error problem => simp
  | ok resolved => simp

/-- A plain path without links is resolved already. -/
theorem resolve_eq_self {surroundings : Surroundings} {path : Path} (plain : path.IsPlain)
    (unlinked : surroundings.tree.Unlinked path.parts) : surroundings.resolve path = .ok path :=
  resolve_eq_ok_iff.mpr (Files.resolve_eq_self plain unlinked)

/-- A file that is named by the text of a plain path is the one at that path, if the path is resolved. -/
theorem sameFile_toString {surroundings : Surroundings} {path : Path} (plain : path.IsPlain)
    (resolved : surroundings.resolve path = .ok path) (workdir : Option Path) :
    surroundings.sameFile path.toString path workdir = .ok true := by
  unfold sameFile
  simp only [plain.startsWith_toString, Bool.or_true, if_true, resolved, plain.ofString_toString]
  exact congrArg Except.ok (decide_eq_true rfl)

/-- A file that is named by a plain path without links is the one at that path. -/
theorem sameFile_self {surroundings : Surroundings} {path : Path} (plain : path.IsPlain)
    (unlinked : surroundings.tree.Unlinked path.parts) (workdir : Option Path) :
    surroundings.sameFile path.toString path workdir = .ok true :=
  sameFile_toString plain (resolve_eq_self plain unlinked) workdir

end Surroundings

end NegativeCompile

import NegativeCompile.Proofs.Files.Leading

/-! # Matching paths

The parts of a pattern stand for names, two stars for any number of them (`Fits`, `Covers`). What is found
by a pattern has names that the pattern covers (`exists_of_mem_glob`), and whatever such names lead to is
found (`mem_glob_of_status`): the search is deep enough, because no walk has more names than directories
and links allow for (`length_le_of_walkFrom`). Two stars at the very end are left out: they stand for
directories too. -/

namespace NegativeCompile.Files

open Wildcard

/-! ## Patterns -/

/-- What names a part of a pattern stands for. -/
inductive Fits (part : String) : List String → Prop
  /-- Two stars stand for any number of names that are not hidden. -/
  | stars {names : List String} (both : part = "**")
      (shown : ∀ name ∈ names, IsName name ∧ isHidden name = false) : Fits part names
  /-- A part with wildcards stands for a name that it matches; it stands for a hidden name only if it is
  hidden itself. -/
  | wild {name : String} (single : part ≠ "**") (magic : hasMagic part = true) (named : IsName name)
      (shown : isHidden name = true → isHidden part = true) (same : matchesName part name = true) :
      Fits part [name]
  /-- Any other part stands for itself. -/
  | literal (plain : hasMagic part = false) : Fits part [part]

/-- The parts of a pattern stand for names, one part after another. -/
inductive Covers : List String → List String → Prop
  /-- No parts stand for no names. -/
  | nil : Covers [] []
  /-- The first part stands for the first names. -/
  | cons {part : String} {parts first rest : List String} (fits : Fits part first)
      (covers : Covers parts rest) : Covers (part :: parts) (first ++ rest)

variable {tree : Tree} {start place last : Place} {parts before steps names more : List String}
variable {part name : String} {path directory : Path} {slashes links : Nat}

/-- Parts stand for names in two steps if they are put together from two lists. -/
theorem covers_append_iff {later : List String} :
    Covers (parts ++ later) names ↔
      ∃ first second, Covers parts first ∧ Covers later second ∧ names = first ++ second := by
  induction parts generalizing names with
  | nil =>
    refine ⟨fun covers => ⟨[], names, .nil, covers, rfl⟩, ?_⟩
    rintro ⟨first, second, none, covers, rfl⟩
    cases none
    exact covers
  | cons part parts ih =>
    constructor
    · intro covers
      rw [List.cons_append] at covers
      cases covers with
      | cons fits rest =>
        obtain ⟨first, second, one, other, rfl⟩ := ih.mp rest
        exact ⟨_, second, .cons fits one, other, (List.append_assoc ..).symm⟩
    · rintro ⟨_, second, one, other, rfl⟩
      cases one with
      | cons fits rest =>
        rw [List.cons_append, List.append_assoc]
        exact .cons fits (ih.mpr ⟨_, second, rest, other, rfl⟩)

/-- A single part stands for the names that it fits. -/
theorem covers_singleton_iff : Covers [part] names ↔ Fits part names := by
  constructor
  · intro covers
    cases covers with
    | cons fits none =>
      cases none
      rwa [List.append_nil]
  · intro fits
    rw [← List.append_nil names]
    exact .cons fits .nil

/-- The last part stands for the last names. -/
theorem covers_concat_iff :
    Covers (parts ++ [part]) names ↔
      ∃ first second, Covers parts first ∧ Fits part second ∧ names = first ++ second := by
  simp only [covers_append_iff, covers_singleton_iff]

/-- A part without wildcards stands for itself only. -/
theorem fits_iff_of_plain (plain : hasMagic part = false) : Fits part names ↔ names = [part] := by
  refine ⟨fun fits => ?_, fun same => same ▸ .literal plain⟩
  cases fits with
  | stars both => exact absurd (both ▸ plain) (by decide)
  | wild _ magic => exact absurd (magic.symm.trans plain) (by decide)
  | literal => rfl

/-- Parts without wildcards stand for themselves only. -/
theorem covers_iff_of_plain (plain : ∀ part ∈ parts, hasMagic part = false) :
    Covers parts names ↔ names = parts := by
  induction parts generalizing names with
  | nil =>
    refine ⟨fun covers => ?_, fun same => same ▸ .nil⟩
    cases covers
    rfl
  | cons part parts ih =>
    obtain ⟨first, others⟩ := List.forall_mem_cons.mp plain
    constructor
    · intro covers
      cases covers with
      | cons fits rest =>
        rw [(fits_iff_of_plain first).mp fits, (ih others).mp rest]
        rfl
    · rintro rfl
      exact .cons (.literal first) ((ih others).mpr rfl)

/-- Nor do they if the search finds that none of them, last first, has wildcards. -/
theorem covers_reverse_iff_of_plain (literal : (!parts.any hasMagic) = true) :
    Covers parts.reverse names ↔ names = parts.reverse := by
  simp only [Bool.not_eq_true', List.any_eq_false] at literal
  exact covers_iff_of_plain fun part member => by simpa using literal part (List.mem_reverse.mp member)

/-- A name is a piece of a path. -/
theorem IsName.isPiece (named : IsName name) : IsPiece name := ⟨named.counts, named.noSlash⟩

/-- Names that a piece stands for are pieces. -/
theorem Fits.isPiece (fits : Fits part names) (piece : IsPiece part) : ∀ name ∈ names, IsPiece name := by
  intro name member
  cases fits with
  | stars _ shown => exact (shown name member).1.isPiece
  | wild _ _ named => exact List.mem_singleton.mp member ▸ named.isPiece
  | literal => exact List.mem_singleton.mp member ▸ piece

/-- Names that pieces stand for are pieces. -/
theorem Covers.isPiece (covers : Covers parts names) (pieces : ∀ part ∈ parts, IsPiece part) :
    ∀ name ∈ names, IsPiece name := by
  induction covers with
  | nil => exact nofun
  | cons fits _ ih =>
    obtain ⟨first, others⟩ := List.forall_mem_cons.mp pieces
    exact List.forall_mem_append.mpr ⟨fits.isPiece first, ih others⟩

/-! ## Texts of patterns -/

/-- A character other than the separator is in a piece. -/
theorem exists_mem_splitOn {separator c : Char} {chars : List Char} (member : c ∈ chars)
    (other : c ≠ separator) : ∃ piece ∈ chars.splitOn separator, c ∈ piece := by
  induction chars with
  | nil => exact absurd member List.not_mem_nil
  | cons first rest ih =>
    rw [List.splitOn_cons_eq_if_modifyHead]
    split
    next separates =>
      rcases List.mem_cons.mp member with rfl | later
      · exact absurd (beq_iff_eq.mp separates) other
      · obtain ⟨piece, listed, holds⟩ := ih later
        exact ⟨piece, List.mem_cons_of_mem _ listed, holds⟩
    · obtain ⟨head, others, equal⟩ := List.exists_cons_of_ne_nil (List.splitOn_ne_nil separator rest)
      rw [equal, List.modifyHead_cons]
      rcases List.mem_cons.mp member with rfl | later
      · exact ⟨_, List.mem_cons_self, List.mem_cons_self⟩
      · obtain ⟨piece, listed, holds⟩ := ih later
        rw [equal] at listed
        rcases List.mem_cons.mp listed with rfl | among
        · exact ⟨_, List.mem_cons_self, List.mem_cons_of_mem _ holds⟩
        · exact ⟨piece, List.mem_cons_of_mem _ among, holds⟩

/-- A text with wildcards has parts. -/
theorem parts_ne_nil_of_hasMagic {text : String} (magic : hasMagic text = true) :
    (Path.ofString text).parts ≠ [] := by
  obtain ⟨c, member, special⟩ := List.any_eq_true.mp magic
  simp only [Bool.or_eq_true, decide_eq_true_eq] at special
  have other : c ≠ '/' := by
    rintro rfl
    simp at special
  obtain ⟨piece, listed, holds⟩ := exists_mem_splitOn member other
  have counts : isPart (String.ofList piece) = true := by
    have differs (plain : String) (free : c ∉ plain.toList) : String.ofList piece ≠ plain := by
      rintro rfl
      exact free (by rwa [String.toList_ofList])
    simp only [isPart, Bool.and_eq_true, bne_iff_ne]
    refine ⟨differs "" (by simp), differs "." ?_⟩
    rcases special with (rfl | rfl) | rfl <;> decide
  refine List.ne_nil_of_mem (a := String.ofList piece) (List.mem_filter.mpr ⟨?_, counts⟩)
  rw [slashPieces, splitAtChar_eq]
  exact List.mem_map_of_mem listed

/-! ## Walks -/

/-- A place does not lie deeper than there are entries. -/
theorem Tree.IsGrounded.length_le (grounded : tree.IsGrounded) (there : tree.entry? place ≠ none) :
    place.length ≤ tree.entries.length := by
  -- The places above lie at distinct depths.
  let above (depth : Fin place.length) : Place := place.take (depth + 1)
  have distinct : Function.Injective above := by
    intro one other same
    have lengths := congrArg List.length same
    simp only [above, List.length_take] at lengths
    omega
  have inside : List.ofFn above ⊆ tree.entries.map (·.1) := by
    intro higher member
    obtain ⟨depth, rfl⟩ := List.mem_ofFn.mp member
    have filled : above depth ≠ [] := by
      intro nothing
      have length := congrArg List.length nothing
      simp only [above, List.length_take, List.length_nil] at length
      omega
    have lies : tree.entry? (above depth) ≠ none := by
      by_cases whole : above depth = place
      · rwa [whole]
      · rw [grounded place there _ (List.take_prefix _ place) whole]
        exact Option.some_ne_none _
    obtain ⟨entry, found⟩ := Option.ne_none_iff_exists'.mp lies
    rw [Tree.entry?, if_neg (by simpa using filled)] at found
    exact List.mem_map.mpr ⟨_, List.mem_of_lookup_eq_some found, rfl⟩
  have fewer := (List.Nodup.subperm (List.nodup_ofFn.mpr distinct) inside).length_le
  rwa [List.length_ofFn, List.length_map] at fewer

/-- A walk that arrives goes along no more names than directories and links allow for. -/
theorem length_le_of_walkFrom (grounded : tree.IsGrounded) {entry : Entry}
    (walked : walkFrom tree true links place steps = .ok ⟨last, some entry⟩) :
    ∀ before names, before ++ names = steps → (∀ name ∈ names, name ≠ "." ∧ name ≠ "..") →
      names.length + (if before = [] then place.length else 0) ≤
        (links + 1) * (tree.entries.length + 1) := by
  -- Each name that is still to come leads one level down from a place; only a link leads up, and then other
  -- steps may come before the names.
  fun_induction walkFrom tree true links place steps with
  | case1 links place =>
    intro before names equal _
    obtain ⟨rfl, rfl⟩ := List.append_eq_nil_iff.mp equal
    obtain ⟨-, lies⟩ := Arrival.mk.inj (Except.ok.inj walked)
    have deep := grounded.length_le (lies ▸ Option.some_ne_none entry)
    have least : tree.entries.length + 1 ≤ (links + 1) * (tree.entries.length + 1) :=
      Nat.le_mul_of_pos_left _ (Nat.succ_pos links)
    rw [if_pos rfl, List.length_nil]
    omega
  | case2 links place rest here ih =>
    -- A dot is no name, so it is among the steps before the names.
    intro before names equal forward
    rcases List.append_eq_cons_iff.mp equal with ⟨-, rfl⟩ | ⟨others, rfl, rfl⟩
    · exact absurd rfl (forward _ List.mem_cons_self).1
    · have onward := ih walked others names rfl forward
      rw [if_neg (List.cons_ne_nil _ _)]
      omega
  | case3 links place rest here _ ih =>
    -- Nor are double dots.
    intro before names equal forward
    rcases List.append_eq_cons_iff.mp equal with ⟨-, rfl⟩ | ⟨others, rfl, rfl⟩
    · exact absurd rfl (forward _ List.mem_cons_self).2
    · have onward := ih walked others names rfl forward
      rw [if_neg (List.cons_ne_nil _ _)]
      omega
  | case5 =>
    obtain ⟨-, nothing⟩ := Arrival.mk.inj (Except.ok.inj walked)
    cases nothing
  | case7 links place step rest here single double short next target found ends => simp at ends
  | case9 place step rest here single double short next target found ends left origin ih =>
    -- A link costs one of the links that are left, which pays for as many names as there are entries.
    intro before names equal forward
    have deep := grounded.length_le (here ▸ Option.some_ne_none Entry.directory)
    have more : (left + 1 + 1) * (tree.entries.length + 1) =
        (left + 1) * (tree.entries.length + 1) + (tree.entries.length + 1) := Nat.succ_mul _ _
    rw [Nat.succ_eq_add_one]
    rcases List.append_eq_cons_iff.mp equal with ⟨rfl, rfl⟩ | ⟨others, rfl, rfl⟩
    · have onward := ih walked (stepsOf target) rest rfl (List.forall_mem_cons.mp forward).2
      rw [if_pos rfl, List.length_cons]
      omega
    · have onward := ih walked (stepsOf target ++ others) names (List.append_assoc ..) forward
      rw [if_neg (List.cons_ne_nil _ _)]
      omega
  | case10 links place step rest here single double short next other straight found ih =>
    -- A name that is no link is paid for by the place that it leads to, one level down.
    intro before names equal forward
    rcases List.append_eq_cons_iff.mp equal with ⟨rfl, rfl⟩ | ⟨others, rfl, rfl⟩
    · have onward := ih walked [] rest (List.nil_append _) (List.forall_mem_cons.mp forward).2
      rw [if_pos rfl, List.length_append, List.length_singleton] at onward
      rw [if_pos rfl, List.length_cons]
      omega
    · have onward := ih walked others names rfl forward
      rw [if_neg (List.cons_ne_nil _ _)]
      omega
  | case4 | case6 | case8 | case11 => cases walked

/-! ## Directories -/

/-- The parts of a path lead to what its text leads to. -/
theorem exists_leads_toString (fit : tree.IsFit) (pieces : path.Each IsPiece) {entry : Entry}
    (walked : walk tree start true path.toString = .ok ⟨last, some entry⟩) :
    ∃ height, Leads tree (path.base start) path.parts height last := by
  have counted : path.parts.filter isPart = path.parts :=
    List.filter_eq_self.mpr fun part member => (pieces part member).counts
  by_cases filled : path.parts = []
  · obtain ⟨slashes, parts⟩ := path
    obtain rfl : parts = [] := filled
    rw [walk_of_nil] at walked
    split at walked
    · cases walked
    · exact exists_leads_of_walkFrom fit walked
  · rw [pieces.walk_eq filled] at walked
    split at walked
    · cases walked
    · rw [← counted]
      exact exists_leads_of_walkFrom fit walked

/-- Above what a path leads to there are directories. -/
theorem status_above_append {entry : Entry} (pieces : Path.Each IsPiece ⟨slashes, parts ++ more⟩)
    (filled : more ≠ [])
    (found : status tree start (⟨slashes, parts ++ more⟩ : Path).toString = .ok entry) :
    status tree start (⟨slashes, parts⟩ : Path).toString = .ok .directory := by
  induction more using List.reverseRecOn generalizing entry with
  | nil => exact absurd rfl filled
  | append_singleton more name ih =>
    rw [← List.append_assoc] at pieces found
    have above := status_above pieces found
    by_cases onward : more = []
    · subst onward
      rwa [List.append_nil] at above
    · exact ih (fun part member => pieces part (List.mem_append_left _ member)) onward above

/-- A name is in a directory just if something lies there under it. -/
theorem mem_children_iff :
    name ∈ (tree.children place).map (·.1) ↔ tree.entry? (place ++ [name]) ≠ none := by
  rw [Tree.entry?, if_neg (by simp), Ne, List.lookup_eq_none_iff, Tree.children]
  constructor
  · intro member absent
    obtain ⟨child, listed, rfl⟩ := List.mem_map.mp member
    obtain ⟨⟨other, entry⟩, given, chosen⟩ := List.mem_filterMap.mp listed
    dsimp only at chosen
    split at chosen
    next last ends =>
      split at chosen
      next within =>
        obtain rfl := Option.some.inj chosen
        have whole : place ++ [last] = other := by
          rw [← within]
          exact List.dropLast_append_getLast? last ends
        have differs := absent _ given
        rw [whole] at differs
        simp at differs
      · cases chosen
    · cases chosen
  · intro present
    push Not at present
    obtain ⟨⟨other, entry⟩, given, same⟩ := present
    obtain rfl : place ++ [name] = other := by simpa using same
    refine List.mem_map.mpr ⟨(name, entry), List.mem_filterMap.mpr ⟨_, given, ?_⟩, rfl⟩
    simp

/-- A name in the directory that a path leads to is the name of something there. -/
theorem exists_walk_of_mem_namesIn {onlyDirectories : Bool}
    (member : name ∈ namesIn tree start path onlyDirectories) :
    ∃ place, walk tree start true path.toString = .ok ⟨place, some .directory⟩ ∧
      tree.entry? (place ++ [name]) ≠ none := by
  unfold namesIn at member
  split at member
  next place walked =>
    refine ⟨place, walked, mem_children_iff.mp ?_⟩
    dsimp only at member
    split at member
    · exact List.mem_of_mem_filter member
    · exact member
  · exact absurd member List.not_mem_nil

/-- A name in a directory is a proper one. -/
theorem isName_of_mem_namesIn {onlyDirectories : Bool} (fit : tree.IsFit)
    (member : name ∈ namesIn tree start path onlyDirectories) : IsName name := by
  obtain ⟨place, -, there⟩ := exists_walk_of_mem_namesIn member
  obtain ⟨entry, lies⟩ := Option.ne_none_iff_exists'.mp there
  exact fit.isName lies

/-- What a path leads to has its name in the directory above. -/
theorem mem_namesIn {onlyDirectories : Bool} {entry : Entry} (fit : tree.IsFit)
    (pieces : Path.Each IsPiece ⟨slashes, parts ++ [name]⟩) (forward : name ≠ "..")
    (found : status tree start (⟨slashes, parts ++ [name]⟩ : Path).toString = .ok entry)
    (directory : onlyDirectories = true → entry = .directory) :
    name ∈ namesIn tree start ⟨slashes, parts⟩ onlyDirectories := by
  have above : Path.Each IsPiece ⟨slashes, parts⟩ :=
    fun part member => pieces part (List.mem_append_left _ member)
  have piece : IsPiece name := pieces name (List.mem_append_right _ (List.mem_singleton_self name))
  obtain ⟨place, walked⟩ := status_eq_ok_iff.mp (status_above pieces found)
  obtain ⟨last, arrives⟩ := status_eq_ok_iff.mp found
  -- The steps to the last one lead where the path above leads.
  obtain ⟨height, leads⟩ := exists_leads_toString fit above walked
  obtain ⟨more, whole⟩ := exists_leads_toString fit pieces arrives
  obtain ⟨between, less, most, first, second, -⟩ := whole.split
  obtain ⟨-, rfl⟩ := leads.unique first
  have there : tree.entry? (place ++ [name]) ≠ none := by
    cases second with
    | up => exact absurd rfl forward
    | into _ _ lies => exact lies ▸ Option.some_ne_none _
    | link _ _ lies => exact lies ▸ Option.some_ne_none _
  have listed := mem_children_iff.mpr there
  rw [namesIn, walked]
  dsimp only
  split
  next only =>
    refine List.mem_filter.mpr ⟨listed, ?_⟩
    rw [piece.append_eq, leadsToDirectory, found, directory only]
    rfl
  · exact listed

/-! ## Two stars -/

/-- Names that are not hidden and lead to a directory are found below a path, if there are not too many
of them. -/
theorem mem_pathsBelow {fuel : Nat} (fit : tree.IsFit)
    (pieces : Path.Each IsPiece ⟨slashes, parts ++ names⟩) (filled : names ≠ [])
    (shown : ∀ name ∈ names, IsName name ∧ isHidden name = false) (enough : names.length ≤ fuel)
    (found : status tree start (⟨slashes, parts ++ names⟩ : Path).toString = .ok .directory) :
    ⟨slashes, parts ++ names⟩ ∈ pathsBelow tree start true fuel ⟨slashes, parts⟩ := by
  induction names generalizing parts fuel with
  | nil => exact absurd rfl filled
  | cons name rest ih =>
    cases fuel with
    | zero => exact absurd enough (Nat.not_succ_le_zero _)
    | succ fuel =>
      obtain ⟨⟨named, visible⟩, others⟩ := List.forall_mem_cons.mp shown
      rw [List.append_cons] at pieces found ⊢
      have first : Path.Each IsPiece ⟨slashes, parts ++ [name]⟩ :=
        fun part member => pieces part (List.mem_append_left rest member)
      have here : status tree start (⟨slashes, parts ++ [name]⟩ : Path).toString = .ok .directory := by
        by_cases last : rest = []
        · rwa [last, List.append_nil] at found
        · exact status_above_append pieces last found
      have listed : name ∈ namesIn tree start ⟨slashes, parts⟩ true :=
        mem_namesIn fit first named.ne_dots here fun _ => rfl
      refine List.mem_flatMap.mpr ⟨name, List.mem_filter.mpr ⟨listed, by simp [visible]⟩, ?_⟩
      rw [named.isPiece.append_eq]
      by_cases last : rest = []
      · rw [last, List.append_nil]
        exact List.mem_cons_self
      · -- The way goes on below the first name, by one step less.
        exact List.mem_cons_of_mem _ (ih pieces last others (Nat.le_of_succ_le_succ enough) found)

/-- Names that are not hidden lead below a path to what is found there. -/
theorem exists_of_mem_pathsBelow {fuel : Nat} {onlyDirectories : Bool} (fit : tree.IsFit)
    (member : path ∈ pathsBelow tree start onlyDirectories fuel ⟨slashes, parts⟩) :
    ∃ names, path = ⟨slashes, parts ++ names⟩ ∧ ∀ name ∈ names, IsName name ∧ isHidden name = false := by
  induction fuel generalizing parts with
  | zero => exact absurd member List.not_mem_nil
  | succ fuel ih =>
    obtain ⟨name, listed, within⟩ := List.mem_flatMap.mp member
    obtain ⟨among, visible⟩ := List.mem_filter.mp listed
    have named := isName_of_mem_namesIn fit among
    have own : IsName name ∧ isHidden name = false := ⟨named, by simpa using visible⟩
    rw [named.isPiece.append_eq] at within
    rcases List.mem_cons.mp within with rfl | below
    · exact ⟨[name], rfl, List.forall_mem_singleton.mpr own⟩
    · obtain ⟨names, rfl, shown⟩ := ih below
      refine ⟨name :: names, ?_, List.forall_mem_cons.mpr ⟨own, shown⟩⟩
      rw [List.append_assoc, List.singleton_append]

/-- No more names lead anywhere than the search goes deep. -/
theorem length_le_depthLimit {entry : Entry} (fit : tree.IsFit)
    (pieces : Path.Each IsPiece ⟨slashes, parts ++ names⟩)
    (forward : ∀ name ∈ names, name ≠ "." ∧ name ≠ "..")
    (found : status tree start (⟨slashes, parts ++ names⟩ : Path).toString = .ok entry) :
    names.length ≤ depthLimit tree := by
  by_cases nothing : parts ++ names = []
  · rw [(List.append_eq_nil_iff.mp nothing).2]
    exact Nat.zero_le _
  · obtain ⟨last, walked⟩ := status_eq_ok_iff.mp found
    rw [pieces.walk_eq nothing] at walked
    split at walked
    · cases walked
    · have most := length_le_of_walkFrom fit.grounded walked parts names rfl forward
      rw [depthLimit, Nat.mul_comm]
      omega

/-! ## Parts of patterns -/

/-- Names that a part stands for lead to what is found for the part, if that is a directory or only
directories are not asked for. -/
theorem mem_matchesIn {onlyDirectories : Bool} {entry : Entry} (fit : tree.IsFit)
    (pieces : Path.Each IsPiece ⟨slashes, parts ++ names⟩) (fits : Fits part names)
    (found : status tree start (⟨slashes, parts ++ names⟩ : Path).toString = .ok entry)
    (directory : onlyDirectories = true → entry = .directory)
    (ends : onlyDirectories = false → part ≠ "**") :
    ⟨slashes, parts ++ names⟩ ∈ matchesIn tree start onlyDirectories part ⟨slashes, parts⟩ := by
  cases fits with
  | stars both shown =>
    cases onlyDirectories with
    | false => exact absurd both (ends rfl)
    | true =>
      obtain rfl := directory rfl
      rw [matchesIn, if_pos both]
      by_cases none : names = []
      · rw [none, List.append_nil]
        exact List.mem_cons_self
      · have forward : ∀ name ∈ names, name ≠ "." ∧ name ≠ ".." := by
          intro name member
          refine ⟨?_, (shown name member).1.ne_dots⟩
          rintro rfl
          cases (shown _ member).1.counts
        exact List.mem_cons_of_mem _ (mem_pathsBelow fit pieces none shown
          (length_le_depthLimit fit pieces forward found) found)
  | @wild name single magic named shown same =>
    -- The name is in the directory, and it is not dropped for being hidden.
    have listed := mem_namesIn fit pieces named.ne_dots found directory
    rw [matchesIn, if_neg single, if_pos magic]
    refine List.mem_map.mpr ⟨name, List.mem_filter.mpr ⟨?_, same⟩, named.isPiece.append_eq _⟩
    split
    · exact listed
    next visible =>
      refine List.mem_filter.mpr ⟨listed, ?_⟩
      by_contra hidden
      exact visible (shown (by simpa using hidden))
  | literal plain =>
    have single : part ≠ "**" := by
      rintro rfl
      cases plain
    have piece : IsPiece part := pieces part (List.mem_append_right _ (List.mem_singleton_self part))
    obtain ⟨lies, there⟩ := exists_linkStatus found
    rw [matchesIn, if_neg single, if_neg (by simp [plain])]
    dsimp only
    rw [piece.append_eq, there]
    exact List.mem_singleton_self _

/-- What is found for a part has names that the part stands for. -/
theorem exists_of_mem_matchesIn {onlyDirectories : Bool} (fit : tree.IsFit) (piece : IsPiece part)
    (member : path ∈ matchesIn tree start onlyDirectories part ⟨slashes, parts⟩) :
    ∃ names, Fits part names ∧ path = ⟨slashes, parts ++ names⟩ := by
  unfold matchesIn at member
  split at member
  next both =>
    rcases List.mem_cons.mp member with rfl | below
    · exact ⟨[], .stars both nofun, by rw [List.append_nil]⟩
    · obtain ⟨names, rfl, shown⟩ := exists_of_mem_pathsBelow fit below
      exact ⟨names, .stars both shown, rfl⟩
  next single =>
    split at member
    next magic =>
      obtain ⟨name, listed, rfl⟩ := List.mem_map.mp member
      obtain ⟨among, same⟩ := List.mem_filter.mp listed
      have both : name ∈ namesIn tree start ⟨slashes, parts⟩ onlyDirectories ∧
          (isHidden name = true → isHidden part = true) := by
        split at among
        next hidden => exact ⟨among, fun _ => hidden⟩
        · obtain ⟨listed, visible⟩ := List.mem_filter.mp among
          exact ⟨listed, fun hidden => by simp [hidden] at visible⟩
      have named := isName_of_mem_namesIn fit both.1
      exact ⟨[name], .wild single magic named both.2 same, named.isPiece.append_eq _⟩
    next plain =>
      dsimp only at member
      split at member
      · rw [List.mem_singleton.mp member]
        exact ⟨[part], .literal (by simpa using plain), piece.append_eq _⟩
      · exact absurd member List.not_mem_nil

/-! ## Whole patterns -/

/-- Names that the parts of a pattern stand for, last first, lead to what is found for the parts, if that
is a directory or only directories are not asked for. -/
theorem mem_matchesOf {onlyDirectories : Bool} {entry : Entry} (fit : tree.IsFit)
    (pieces : ∀ part ∈ parts, IsPiece part) (covers : Covers parts.reverse names)
    (found : status tree start (⟨slashes, names⟩ : Path).toString = .ok entry)
    (directory : onlyDirectories = true → entry = .directory)
    (ends : onlyDirectories = false → parts.head? ≠ some "**") :
    ⟨slashes, names⟩ ∈ matchesOf tree start slashes onlyDirectories parts := by
  induction parts generalizing names onlyDirectories entry with
  | nil =>
    cases covers
    exact List.mem_singleton_self _
  | cons part before ih =>
    have each : Path.Each IsPiece ⟨slashes, names⟩ :=
      covers.isPiece fun part member => pieces part (List.mem_reverse.mp member)
    rw [matchesOf]
    dsimp only
    split
    next literal =>
      obtain rfl := (covers_reverse_iff_of_plain literal).mp covers
      obtain ⟨lies, there⟩ := exists_linkStatus found
      rw [there]
      cases onlyDirectories <;> exact List.mem_singleton_self _
    · rw [List.reverse_cons] at covers
      obtain ⟨first, second, earlier, fits, rfl⟩ := covers_concat_iff.mp covers
      have last : onlyDirectories = false → part ≠ "**" := fun all same => ends all (congrArg some same)
      -- The last part may stand for no names only if directories are asked for.
      have above : status tree start (⟨slashes, first⟩ : Path).toString = .ok .directory := by
        by_cases none : second = []
        · cases fits with
          | stars both =>
            cases onlyDirectories with
            | false => exact absurd both (last rfl)
            | true => rwa [none, List.append_nil, directory rfl] at found
          | wild => cases none
          | literal => cases none
        · exact status_above_append each none found
      have listed : ⟨slashes, first⟩ ∈ matchesOf tree start slashes true before :=
        ih (List.forall_mem_cons.mp pieces).2 earlier above (fun _ => rfl) (absurd · (by decide))
      exact List.mem_flatMap.mpr ⟨_, listed, mem_matchesIn fit each fits found directory last⟩

/-- What is found for the parts of a pattern, last first, has names that they stand for. -/
theorem exists_of_mem_matchesOf {onlyDirectories : Bool} (fit : tree.IsFit)
    (pieces : ∀ part ∈ parts, IsPiece part)
    (member : path ∈ matchesOf tree start slashes onlyDirectories parts) :
    ∃ names, Covers parts.reverse names ∧ path = ⟨slashes, names⟩ := by
  induction parts generalizing path onlyDirectories with
  | nil => exact ⟨[], .nil, List.mem_singleton.mp member⟩
  | cons part before ih =>
    rw [matchesOf] at member
    dsimp only at member
    split at member
    next literal =>
      split at member
      · exact ⟨_, (covers_reverse_iff_of_plain literal).mpr rfl, List.mem_singleton.mp member⟩
      · exact absurd member List.not_mem_nil
    · obtain ⟨piece, others⟩ := List.forall_mem_cons.mp pieces
      obtain ⟨directory, earlier, within⟩ := List.mem_flatMap.mp member
      obtain ⟨first, covers, rfl⟩ := ih others earlier
      obtain ⟨second, fits, rfl⟩ := exists_of_mem_matchesIn fit piece within
      rw [List.reverse_cons]
      exact ⟨_, covers_concat_iff.mpr ⟨first, second, covers, fits, rfl⟩, rfl⟩

/-- Whatever names that a pattern covers lead to is found by the pattern, unless that ends in two stars. -/
theorem mem_glob_of_status {pattern : Path} {entry : Entry} (fit : tree.IsFit)
    (pieces : pattern.Each IsPiece) (ends : pattern.parts.getLast? ≠ some "**")
    (covers : Covers pattern.parts names)
    (found : status tree start (⟨pattern.slashes, names⟩ : Path).toString = .ok entry) :
    ⟨pattern.slashes, names⟩ ∈ glob tree start pattern := by
  refine mem_matchesOf fit (fun part member => pieces part (List.mem_reverse.mp member)) ?_ found nofun
    fun _ => ?_
  · rwa [List.reverse_reverse]
  · rwa [List.head?_reverse]

/-- What is found by a pattern has names that the pattern covers. -/
theorem exists_of_mem_glob {pattern : Path} (fit : tree.IsFit) (pieces : pattern.Each IsPiece)
    (member : path ∈ glob tree start pattern) :
    ∃ names, Covers pattern.parts names ∧ path = ⟨pattern.slashes, names⟩ := by
  obtain ⟨names, covers, same⟩ := exists_of_mem_matchesOf fit
    (fun part listed => pieces part (List.mem_reverse.mp listed)) member
  rw [List.reverse_reverse] at covers
  exact ⟨names, covers, same⟩

/-- What is found by a pattern of one part is found for the part where the path starts. -/
theorem glob_singleton (magic : hasMagic part = true) :
    glob tree start ⟨slashes, [part]⟩ = matchesIn tree start false part ⟨slashes, []⟩ := by
  simp [glob, matchesOf, magic]

/-- Something is at a path: it is found there if no link at the end is followed, or the directory above
holds its name, be the path too long to look there or not. -/
def IsThere (tree : Tree) (start : Place) (path : Path) : Prop :=
  (∃ entry, linkStatus tree start path.toString = .ok entry) ∨
    path.name ∈ namesIn tree start path.parent false

/-- Something is where a part is found that does not stand for directories. -/
theorem isThere_of_mem_matchesIn (fit : tree.IsFit) (single : part ≠ "**")
    (member : path ∈ matchesIn tree start false part directory) : IsThere tree start path := by
  rw [matchesIn, if_neg single] at member
  split at member
  · obtain ⟨name, listed, rfl⟩ := List.mem_map.mp member
    have shown := List.mem_of_mem_filter listed
    have among : name ∈ namesIn tree start directory false := by
      split at shown
      · exact shown
      · exact List.mem_of_mem_filter shown
    have named := isName_of_mem_namesIn fit among
    refine .inr ?_
    rw [named.isPiece.append_eq]
    have own : (⟨directory.slashes, directory.parts ++ [name]⟩ : Path).name = name := by
      simp [Path.name]
    have above : (⟨directory.slashes, directory.parts ++ [name]⟩ : Path).parent = directory := by
      simp [Path.parent]
    rwa [own, above]
  · dsimp only at member
    split at member
    next there =>
      rw [List.mem_singleton.mp member]
      obtain ⟨entry, found⟩ := Option.isSome_iff_exists.mp there
      exact .inl ⟨entry, Except.eq_ok_of_toOption found⟩
    · exact absurd member List.not_mem_nil

/-- Something is where a pattern that does not end in two stars finds it. -/
theorem isThere_of_mem_glob {pattern : Path} (fit : tree.IsFit) (filled : pattern.parts ≠ [])
    (ends : pattern.parts.getLast? ≠ some "**") (member : path ∈ glob tree start pattern) :
    IsThere tree start path := by
  obtain ⟨before, part, equal⟩ := (List.eq_nil_or_concat' pattern.parts).resolve_left filled
  rw [glob, equal, List.reverse_concat, matchesOf] at member
  dsimp only at member
  split at member
  · split at member
    next there =>
      rw [List.mem_singleton.mp member]
      rw [Bool.false_or] at there
      obtain ⟨entry, found⟩ := Option.isSome_iff_exists.mp there
      exact .inl ⟨entry, Except.eq_ok_of_toOption found⟩
    · exact absurd member List.not_mem_nil
  · obtain ⟨directory, -, within⟩ := List.mem_flatMap.mp member
    refine isThere_of_mem_matchesIn fit ?_ within
    rintro rfl
    rw [equal, List.getLast?_concat] at ends
    exact ends rfl

/-- Something lies below the root where something is. -/
theorem entry?_ne_none_of_isThere (fit : tree.IsFit) (named : IsName name)
    (there : IsThere tree start (.ofParts [name])) : tree.entry? [name] ≠ none := by
  rcases there with ⟨entry, found⟩ | listed
  · obtain ⟨last, walked⟩ := linkStatus_eq_ok_iff.mp found
    have pieces : (Path.ofParts [name]).Each IsPiece :=
      fun part member => List.mem_singleton.mp member ▸ named.isPiece
    rw [pieces.walk_eq (List.cons_ne_nil _ _)] at walked
    split at walked
    · cases walked
    · -- A walk to a name under which nothing lies fails, be the name too long or not.
      change walkFrom tree false linkLimit [] [name] = _ at walked
      intro nothing
      have single : name ≠ "." := by
        rintro rfl
        cases named.counts
      by_cases long : nameLimit < name.utf8ByteSize
      · rw [walkFrom] at walked
        have root : tree.entry? [] = some .directory := rfl
        simp only [root, if_neg single, if_neg named.ne_dots, if_pos long] at walked
        cases walked
      · rw [walkFrom_of_nothing rfl ⟨single, named.ne_dots, long⟩ nothing] at walked
        cases walked
  · obtain ⟨place, walked, lies⟩ := exists_walk_of_mem_namesIn listed
    have pieces : (Path.ofParts [name]).parent.Each IsPiece := nofun
    obtain ⟨height, leads⟩ := exists_leads_toString fit pieces walked
    cases leads
    exact lies

end NegativeCompile.Files

import NegativeCompile.Job
import NegativeCompile.Proofs.Files.PathParts

/-! # Keys as names

What a resolved path consists of: its parts count as parts, and none of them leads up
(`resolve_isPlainPart`). So the key of a path is the name of a file, or it is empty
(`isName_or_eq_empty`): it is a name just if some part that it is made of stands for more than a root
(`isName_keyOfParts_iff`). -/

namespace NegativeCompile

open Text

namespace Files

variable {tree : Tree} {start : Place} {path target : Path} {parts before : List String}
variable {part name ending : String}

/-! ## Names -/

/-- The texts that are no names: nothing, and the dots that stand for directories. -/
def dotTexts : List (List Char) := [[], ['.'], ['.', '.']]

/-- A part counts and does not lead up. -/
def IsPlainPart (part : String) : Prop := isPart part = true ∧ part ≠ ".."

/-- A part counts and does not lead up just if it is more than dots. -/
theorem isPlainPart_iff : IsPlainPart part ↔ part.toList ∉ dotTexts := by
  have spelled (text : List Char) : part.toList = text ↔ part = String.ofList text := by
    rw [← String.toList_inj, String.toList_ofList]
  simp only [IsPlainPart, isPart, Bool.and_eq_true, bne_iff_ne, ne_eq, dotTexts, List.mem_cons,
    spelled, List.not_mem_nil, or_false, not_or, and_assoc]

/-- A text is a name just if it is more than dots and holds neither a slash nor a null character. -/
theorem isName_iff : IsName name ↔ name.toList ∉ dotTexts ∧ '/' ∉ name.toList ∧
    '\x00' ∉ name.toList := by
  rw [← isPlainPart_iff, IsPlainPart]
  exact ⟨fun named => ⟨⟨named.counts, named.ne_dots⟩, named.noSlash, named.noNull⟩,
    fun ⟨⟨counts, forward⟩, noSlash, noNull⟩ => ⟨counts, forward, noSlash, noNull⟩⟩

/-- A name with more after it is a name. -/
theorem IsName.append (named : IsName name) (noSlash : '/' ∉ ending.toList)
    (noNull : '\x00' ∉ ending.toList) : IsName (name ++ ending) := by
  -- What starts a text of dots is a text of dots itself.
  have closed : ∀ dots ∈ dotTexts, ∀ text ∈ dots.inits, text ∈ dotTexts := by decide
  obtain ⟨undotted, unslashed, nonNull⟩ := isName_iff.mp named
  rw [isName_iff, String.toList_append]
  refine ⟨fun dotted => undotted ?_, ?_, ?_⟩
  · exact closed _ dotted _ ((List.mem_inits _ _).mpr (List.prefix_append _ _))
  · exact fun member => (List.mem_append.mp member).elim unslashed noSlash
  · exact fun member => (List.mem_append.mp member).elim nonNull noNull

/-- A word is a name. -/
theorem isName_of_isWordChar {word : List Char} (filled : word ≠ [])
    (worded : ∀ c ∈ word, isWordChar c = true) : IsName (String.ofList word) := by
  have missing : ∀ c, isWordChar c = false → c ∉ word := by
    intro c other member
    rw [worded c member] at other
    cases other
  have dots : ∀ text ∈ dotTexts, text = [] ∨ '.' ∈ text := by decide
  rw [isName_iff, String.toList_ofList]
  refine ⟨fun dotted => ?_, missing '/' (by decide +kernel), missing '\x00' (by decide +kernel)⟩
  exact (dots word dotted).elim filled (missing '.' (by decide +kernel))

/-! ## The parts of resolved paths -/

/-- The parts of any text of a path count, and a step of a path is followed only if it does. -/
theorem gives_isPart (step : String) : Gives (isPart · = true) step :=
  ⟨id, fun _ member => List.of_mem_filter member⟩

/-- Taking double dots back below a root leaves none of them. -/
theorem isPlainPart_of_mem_foldParts (plain : ∀ part ∈ before, IsPlainPart part)
    (counts : ∀ part ∈ parts, isPart part = true) :
    ∀ part ∈ Path.foldParts true before parts, IsPlainPart part := by
  induction parts generalizing before with
  | nil => exact fun part member => plain part (List.mem_reverse.mp member)
  | cons next rest ih =>
    have others : ∀ part ∈ rest, isPart part = true :=
      fun part member => counts part (List.mem_cons_of_mem _ member)
    rw [Path.foldParts.eq_def]
    dsimp only
    split
    next forward =>
      refine ih (fun part member => ?_) others
      rcases List.mem_cons.mp member with rfl | member
      · exact ⟨counts part List.mem_cons_self, by simpa using forward⟩
      · exact plain part member
    · split
      · exact ih (fun part member => absurd member (by simp)) others
      next last earlier =>
        have forward := (plain last List.mem_cons_self).2
        rw [if_neg (by simpa using forward)]
        exact ih (fun part member => plain part (List.mem_cons_of_mem _ member)) others

/-- A resolved path is absolute, and its parts count and do not lead up. -/
theorem resolve_isPlainPart (here : ∀ name ∈ start, isPart name = true)
    (resolved : resolve tree start path = .ok target) :
    target.slashes = 1 ∧ ∀ part ∈ target.parts, IsPlainPart part := by
  have targets : tree.LinksGive start (isPart · = true) := fun _ _ _ step _ => gives_isPart step
  obtain ⟨reached, absolute, counts, rfl⟩ :=
    exists_of_resolve (by decide) targets here (fun part _ => gives_isPart part) resolved
  have rooted : reached.isAbsolute = true := by
    rw [Path.isAbsolute, absolute]
    rfl
  refine ⟨absolute, ?_⟩
  rw [Path.normalize, rooted]
  exact isPlainPart_of_mem_foldParts (fun part member => absurd member List.not_mem_nil) counts

end Files

/-! ## The characters of keys -/

open Files

variable {place : Surroundings} {base path target : Path} {parts : List String} {key : String}
variable {c : Char} {text : List Char}

/-- A character of a key is a letter, a digit or one of a few marks. -/
theorem keyChar_kept (c : Char) :
    isAlphanumeric (keyChar c) || keyChar c = '.' || keyChar c = '_' || keyChar c = '-' := by
  unfold keyChar
  split
  next kept => exact kept
  · decide +kernel

/-- A character of a key is another one than those that are replaced. -/
theorem keyChar_ne {other : Char}
    (replaced : (isAlphanumeric other || other = '.' || other = '_' || other = '-') = false) :
    keyChar c ≠ other := by
  rintro rfl
  rw [keyChar_kept] at replaced
  cases replaced

/-- A dot of a key was one before. -/
theorem keyChar_eq_dot_iff : keyChar c = '.' ↔ c = '.' := by
  constructor
  · intro dotted
    unfold keyChar at dotted
    split at dotted
    · exact dotted
    · cases dotted
  · rintro rfl
    decide +kernel

/-- The characters of a key are dots only if the text was dots. -/
theorem map_keyChar_mem_dotTexts_iff : text.map keyChar ∈ dotTexts ↔ text ∈ dotTexts := by
  simp [dotTexts, List.map_eq_cons_iff, keyChar_eq_dot_iff]

/-! ## Keys -/

/-- Texts with underscores between them are dots only if they are one text of dots or none. -/
theorem intercalate_mem_dotTexts {first : String} {rest : List String}
    (dotted : ("__".intercalate (first :: rest)).toList ∈ dotTexts) :
    rest = [] ∧ first.toList ∈ dotTexts := by
  rw [String.toList_intercalate, List.map_cons] at dotted
  cases rest with
  | nil => exact ⟨rfl, by simpa using dotted⟩
  | cons next more =>
    rw [List.intercalate_cons_of_ne_nil (by simp)] at dotted
    have marked : ∀ text ∈ dotTexts, '_' ∉ text := by decide
    refine absurd ?_ (marked _ dotted)
    simp

/-- A path's parts make up a name just if one of them stands for more than a root. -/
theorem isName_keyOfParts_iff (plain : ∀ part ∈ parts, isRootPart part = false → IsPlainPart part) :
    IsName (keyOfParts parts) ↔ ∃ part ∈ parts, isRootPart part = false := by
  have slash : (isAlphanumeric '/' || '/' = '.' || '/' = '_' || '/' = '-') = false := by
    decide +kernel
  have null : (isAlphanumeric '\x00' || '\x00' = '.' || '\x00' = '_' || '\x00' = '-') = false := by
    decide +kernel
  have absent {other : Char} {text : List Char}
      (replaced : (isAlphanumeric other || other = '.' || other = '_' || other = '-') = false) :
      other ∉ text.map keyChar := by
    intro member
    obtain ⟨c, -, same⟩ := List.mem_map.mp member
    exact keyChar_ne replaced same
  have kept : (∃ part ∈ parts, isRootPart part = false) ↔ parts.filter (!isRootPart ·) ≠ [] := by
    rw [ne_eq, List.filter_eq_nil_iff]
    simp
  rw [kept, isName_iff, keyOfParts, String.toList_ofList, map_keyChar_mem_dotTexts_iff]
  constructor
  · rintro ⟨undotted, -, -⟩ none
    rw [none] at undotted
    exact undotted (by decide)
  · intro some
    refine ⟨fun dotted => ?_, absent slash, absent null⟩
    obtain ⟨first, rest, split⟩ := List.exists_cons_of_ne_nil some
    rw [split] at dotted
    obtain ⟨-, dots⟩ := intercalate_mem_dotTexts dotted
    have member : first ∈ parts.filter (!isRootPart ·) := split ▸ List.mem_cons_self
    obtain ⟨listed, standing⟩ := List.mem_filter.mp member
    exact isPlainPart_iff.mp (plain first listed (by simpa using standing)) dots

/-- Parts that stand for roots only make up nothing. -/
theorem keyOfParts_of_roots (roots : ∀ part ∈ parts, isRootPart part = true) :
    keyOfParts parts = "" := by
  have none : parts.filter (!isRootPart ·) = [] := by
    rw [List.filter_eq_nil_iff]
    simpa using roots
  rw [keyOfParts, none]
  rfl

/-- Among the characters of one byte, the letters and digits are those of the smallest alphabet. -/
theorem isAlphanumeric_eq_isAlphanum (small : c.toNat < 128) :
    isAlphanumeric c = c.isAlphanum := by
  have each : ∀ code < 128, isAlphanumeric (Char.ofNat code) = (Char.ofNat code).isAlphanum := by
    decide +kernel
  rw [← Char.ofNat_toNat c]
  exact each _ small

/-- A name that is made of plain letters and digits and of the marks that are kept is its own key. -/
theorem keyOfParts_singleton {name : String}
    (plain : ∀ c ∈ name.toList,
      c.toNat < 128 ∧ (c.isAlphanum || c = '.' || c = '_' || c = '-')) :
    keyOfParts [name] = name := by
  have missing (c : Char) (other : (c.isAlphanum || c = '.' || c = '_' || c = '-') = false) :
      c ∉ name.toList := by
    intro member
    rw [(plain c member).2] at other
    cases other
  have standing : isRootPart name = false := by
    have slash : name ≠ "/" := by
      rintro rfl
      exact missing '/' (by decide) (by decide)
    have bar : name ≠ "\\" := by
      rintro rfl
      exact missing '\\' (by decide) (by decide)
    have drive : ¬ name.endsWith ":\\" = true := by
      rw [String.endsWith, String.Slice.endsWith_string_iff, String.copy_toSlice]
      exact fun ends => missing '\\' (by decide) (ends.subset (by decide))
    simp [isRootPart, slash, bar, drive]
  have same : name.toList.map keyChar = name.toList := by
    refine (List.map_congr_left fun c member => ?_).trans (List.map_id _)
    obtain ⟨small, kept⟩ := plain c member
    rw [← isAlphanumeric_eq_isAlphanum small] at kept
    rw [keyChar, if_pos kept, id]
  rw [keyOfParts, List.filter_cons_of_pos (by simp [standing]), List.filter_nil]
  simp [same]

namespace Surroundings

/-- The parts that the key of a path is made of: those below a base directory, if the path lies
there. -/
def keyParts (place : Surroundings) (path base : Path) : Except Failure (List String) := do
  let resolved ← place.resolve path
  let root ← place.resolve base
  match resolved.below? root with
  | some below => return below.parts
  | none => return resolved.allParts

/-- The key of a path is made of its parts. -/
theorem fragmentKey_eq_map (place : Surroundings) (path base : Path) :
    place.fragmentKey path (some base) = keyOfParts <$> place.keyParts path base := by
  unfold fragmentKey keyParts
  dsimp only
  cases place.resolve path with
  | error failure => rfl
  | ok resolved =>
    cases place.resolve base with
    | error failure => rfl
    | ok root =>
      simp only [Except.ok_bind]
      cases resolved.below? root <;> rfl

/-- The parts that a key is made of count and do not lead up, roots apart. -/
theorem isPlainPart_of_keyParts (here : ∀ name ∈ place.here, isPart name = true)
    (made : place.keyParts path base = .ok parts) :
    ∀ part ∈ parts, isRootPart part = false → IsPlainPart part := by
  obtain ⟨target, resolved, afterTarget⟩ := Except.bind_eq_ok_iff.mp made
  obtain ⟨root, -, found⟩ := Except.bind_eq_ok_iff.mp afterTarget
  obtain ⟨absolute, plain⟩ := resolve_isPlainPart here (resolve_eq_ok_iff.mp resolved)
  intro part member standing
  split at found
  next below lies =>
    obtain rfl := Except.ok.inj found
    unfold Path.below? at lies
    split at lies
    · obtain rfl := Option.some.inj lies
      exact plain part (List.mem_of_mem_drop member)
    · cases lies
  · obtain rfl := Except.ok.inj found
    rw [Path.allParts, absolute] at member
    rcases List.mem_cons.mp member with rfl | listed
    · have rooted : isRootPart (String.ofList (List.replicate 1 '/')) = true := by decide
      rw [rooted] at standing
      cases standing
    · exact plain part listed

/-- The key of a path is made of a part that stands for more than a root. -/
def HasNamedKey (place : Surroundings) (base path : Path) : Prop :=
  ∃ parts, place.keyParts path base = .ok parts ∧ ∃ part ∈ parts, isRootPart part = false

/-- The key of a path is a name just if it is made of a part that stands for more than a root. -/
theorem isName_key_iff (here : ∀ name ∈ place.here, isPart name = true)
    (keyed : place.fragmentKey path (some base) = .ok key) :
    IsName key ↔ place.HasNamedKey base path := by
  rw [fragmentKey_eq_map, Except.map_eq_ok_iff] at keyed
  obtain ⟨parts, made, rfl⟩ := keyed
  rw [isName_keyOfParts_iff (isPlainPart_of_keyParts here made), HasNamedKey]
  refine ⟨fun named => ⟨parts, made, named⟩, ?_⟩
  rintro ⟨others, again, named⟩
  rwa [Except.ok.inj (made.symm.trans again)]

/-- The key of a path is a name, or it is empty. -/
theorem isName_or_eq_empty (here : ∀ name ∈ place.here, isPart name = true)
    (keyed : place.fragmentKey path (some base) = .ok key) : IsName key ∨ key = "" := by
  rw [fragmentKey_eq_map, Except.map_eq_ok_iff] at keyed
  obtain ⟨parts, made, rfl⟩ := keyed
  by_cases named : ∃ part ∈ parts, isRootPart part = false
  · exact .inl ((isName_keyOfParts_iff (isPlainPart_of_keyParts here made)).mpr named)
  · refine .inr (keyOfParts_of_roots fun part member => ?_)
    by_contra standing
    exact named ⟨part, member, by simpa using standing⟩

end Surroundings

end NegativeCompile

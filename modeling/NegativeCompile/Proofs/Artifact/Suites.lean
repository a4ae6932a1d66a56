import NegativeCompile.Proofs.Job.JobFiles
import NegativeCompile.Proofs.Files.PathTexts
import NegativeCompile.Proofs.Artifact.Shaping

/-! # Suites that differ

The suite of a fragment is made from the letters and digits of its key, so that distinct keys may make
one suite (`Artifact.suites_clash`). What a key spells is what the parts of the path spell one after
another (`Artifact.spelled_stemOf_keyOfParts`): fragments of one file name have distinct suites just if
their directories spell different texts, apart from spellings that are no names by themselves
(`Artifact.suites_differ_iff`). -/

namespace NegativeCompile

open Files Text

namespace Artifact

variable {text before after word first second front ending : List Char} {c : Char}
variable {starts : Bool} {parts dirs others : List String} {name stem extension key : String}

/-! ## What a text spells -/

/-- The letters and digits of a text, a letter being in upper case where a word starts: `starts` tells
whether one may start here. -/
def spelledFrom (starts : Bool) : List Char → List Char
  | [] => []
  | c :: rest =>
    if isPlain c then (if starts then c.toUpper else c) :: spelledFrom false rest
    else spelledFrom true rest

/-- What a text spells. -/
def spelled (text : List Char) : List Char := spelledFrom true text

/-- More letters after a word leave its first letter as it is. -/
theorem capitalize_append (filled : word ≠ []) (more : List Char) :
    capitalize (word ++ more) = capitalize word ++ more := by
  obtain ⟨c, rest, rfl⟩ := List.exists_cons_of_ne_nil filled
  rfl

/-- The words of a text from a place on, `word` being the start of the first one, spell what has been
read of this word and what is left of the text. -/
theorem flatten_capitalize_plainWordsFrom (word text : List Char) :
    ((plainWordsFrom word text).map capitalize).flatten =
      capitalize word.reverse ++ spelledFrom word.isEmpty text := by
  induction word, text using plainWordsFrom.induct with
  | case1 word empty =>
    rw [plainWordsFrom, if_pos empty, List.isEmpty_iff.mp empty]
    rfl
  | case2 word full =>
    rw [plainWordsFrom, if_neg full]
    simp [spelledFrom]
  | case3 word c rest plain ih =>
    -- A letter or digit goes on the word, and is the one that is capitalized if it starts it.
    rw [plainWordsFrom, if_pos plain, ih, spelledFrom, if_pos plain, List.reverse_cons]
    by_cases empty : word = []
    · rw [empty]
      rfl
    · have full : word.isEmpty = false := by simpa using empty
      rw [capitalize_append (by simpa using empty), full]
      simp
  | case4 word c rest ends empty ih =>
    -- Any other character ends the word if there is one.
    rw [plainWordsFrom, if_neg ends, if_pos empty, ih, spelledFrom, if_neg ends,
      List.isEmpty_iff.mp empty]
    rfl
  | case5 word c rest ends full ih =>
    rw [plainWordsFrom, if_neg ends, if_neg full, List.map_cons, List.flatten_cons, ih, spelledFrom,
      if_neg ends]
    rfl

/-- What is neither a letter nor a digit lets a word start after it. -/
theorem spelledFrom_append_cons (ends : isPlain c = false) (starts : Bool)
    (before after : List Char) :
    spelledFrom starts (before ++ c :: after) = spelledFrom starts before ++ spelled after := by
  induction before generalizing starts with
  | nil =>
    show spelledFrom starts (c :: after) = spelled after
    rw [spelledFrom, if_neg (by simp [ends])]
    rfl
  | cons first rest ih =>
    rw [List.cons_append, spelledFrom, spelledFrom]
    split
    · rw [ih, List.cons_append]
    · rw [ih]

/-! ## Suites -/

/-- What a suite is named by its spelling: there is a name in place of nothing, and something before a
digit. -/
def legalName (spelling : List Char) : List Char :=
  if spelling.isEmpty then "Fragment".toList
  else if spelling.head?.any isAsciiDigit then "Nc".toList ++ spelling
  else spelling

/-- The suite of a key is named by what the key spells without the suffix. -/
theorem toList_ofKey (key : String) : (suiteName.ofKey key).toList =
    legalName (spelled (stemOf key).toList) ++ "NoCompileTest".toList := by
  have joined (text : List Char) : ((plainWords text).map capitalize).flatten = spelled text :=
    flatten_capitalize_plainWordsFrom [] text
  unfold suiteName.ofKey legalName
  rw [joined, String.toList_ofList]
  by_cases empty : (spelled (stemOf key).toList).isEmpty = true
  · rw [if_pos empty, if_pos empty]
    rfl
  · rw [if_neg empty, if_neg empty]
    by_cases digit : (spelled (stemOf key).toList).head?.any isAsciiDigit = true
    · rw [if_pos digit, if_pos digit]
    · rw [if_neg digit, if_neg digit, List.nil_append]

/-- A spelling that is no name is made into another one. -/
inductive MadeInto : List Char → List Char → Prop
  /-- There is a name in place of nothing. -/
  | nothing : MadeInto [] "Fragment".toList
  /-- Something stands before a digit. -/
  | digit {spelling : List Char} (starts : spelling.head?.any isAsciiDigit = true) :
      MadeInto spelling ("Nc".toList ++ spelling)

/-- A spelling is a name, or it is made into one. -/
theorem legalName_outcome (spelling : List Char) :
    legalName spelling = spelling ∨ MadeInto spelling (legalName spelling) := by
  unfold legalName
  split
  next empty =>
    rw [List.isEmpty_iff.mp empty]
    exact .inr .nothing
  · split
    next starts => exact .inr (.digit starts)
    · exact .inl rfl

/-- What a spelling is made into is its name, and a name by itself. -/
theorem MadeInto.legalName_eq (made : MadeInto first second) :
    legalName first = second ∧ legalName second = second := by
  cases made with
  | nothing => decide
  | digit starts =>
    have full : ¬ first.isEmpty = true := by
      rw [List.isEmpty_iff]
      rintro rfl
      cases starts
    refine ⟨by rw [legalName, if_neg full, if_pos starts], ?_⟩
    rw [legalName, if_neg (by simp), if_neg (by simp [isAsciiDigit])]

/-- Only one spelling is made into another one. -/
theorem MadeInto.unique (made : MadeInto first text) (also : MadeInto second text) :
    first = second := by
  generalize whole : text = other at also
  cases made with
  | nothing =>
    cases also with
    | nothing => rfl
    | digit _ => cases whole
  | digit _ =>
    cases also with
    | nothing => cases whole
    | digit _ => exact List.append_cancel_left whole

/-- Two spellings name one suite. -/
def Alike (first second : List Char) : Prop :=
  first = second ∨ MadeInto first second ∨ MadeInto second first

/-- Two spellings have one name just if they are the same or one is made into the other. -/
theorem legalName_eq_iff : legalName first = legalName second ↔ Alike first second := by
  constructor
  · intro same
    rcases legalName_outcome first with named | made
    · rcases legalName_outcome second with also | other
      · exact .inl (named.symm.trans (same.trans also))
      · rw [← same, named] at other
        exact .inr (.inr other)
    · rcases legalName_outcome second with also | other
      · rw [same, also] at made
        exact .inr (.inl made)
      · rw [same] at made
        exact .inl (made.unique other)
  · rintro (rfl | made | made)
    · rfl
    · rw [made.legalName_eq.1, made.legalName_eq.2]
    · rw [made.legalName_eq.1, made.legalName_eq.2]

/-- Two keys make one suite just if what they spell without their suffixes names one. -/
theorem suiteName_eq_iff (first second : String) : suiteName first none = suiteName second none ↔
    Alike (spelled (stemOf first).toList) (spelled (stemOf second).toList) := by
  have made (key : String) : suiteName key none = suiteName.ofKey key := rfl
  rw [made, made, ← String.toList_inj, toList_ofKey, toList_ofKey, List.append_cancel_right_eq,
    legalName_eq_iff]

/-! ## Keys -/

/-- Letters and digits are kept in keys. -/
theorem keyChar_of_isPlain (plain : isPlain c = true) : keyChar c = c := by
  have small : c.toNat < 128 := by
    simp only [isPlain, isAsciiLetter, isAsciiDigit, Bool.or_eq_true, Bool.and_eq_true,
      decide_eq_true_eq] at plain
    omega
  rw [isPlain_eq, ← isAlphanumeric_eq_isAlphanum small] at plain
  rw [keyChar, if_pos (by simp [plain])]

/-- Keys hold no other ASCII letters and digits. -/
theorem isPlain_keyChar (c : Char) : isPlain (keyChar c) = isPlain c := by
  cases plain : isPlain c with
  | true => rw [keyChar_of_isPlain plain, plain]
  | false =>
    unfold keyChar
    split
    · exact plain
    · decide

/-- A text spells the same as the key that is made of it. -/
theorem spelledFrom_map_keyChar (starts : Bool) (text : List Char) :
    spelledFrom starts (text.map keyChar) = spelledFrom starts text := by
  induction text generalizing starts with
  | nil => rfl
  | cons c rest ih =>
    rw [List.map_cons, spelledFrom, spelledFrom, isPlain_keyChar]
    split
    next plain => rw [keyChar_of_isPlain plain, ih]
    · exact ih true

/-- The text of parts with underscores between them and before a last one. -/
theorem toList_intercalate_append (parts : List String) (last : String) :
    ("__".intercalate (parts ++ [last])).toList =
      (parts.flatMap fun part => part.toList ++ ['_', '_']) ++ last.toList := by
  induction parts with
  | nil => simp
  | cons part rest ih =>
    rw [String.toList_intercalate] at ih ⊢
    rw [List.cons_append, List.map_cons, List.intercalate_cons_of_ne_nil (by simp), ih]
    simp

/-- Parts with underscores after them spell what they spell one after another. -/
theorem spelled_flatMap_append (parts : List String) (last : List Char) :
    spelled ((parts.flatMap fun part => part.toList ++ ['_', '_']) ++ last) =
      (parts.flatMap fun part => spelled part.toList) ++ spelled last := by
  have underscore : isPlain '_' = false := by decide
  induction parts with
  | nil => rfl
  | cons part rest ih =>
    rw [List.flatMap_cons, List.flatMap_cons, List.append_assoc, List.append_assoc, List.append_assoc,
      ← ih]
    show spelledFrom true (part.toList ++ '_' :: ([] ++ '_' :: _)) = _
    rw [spelledFrom_append_cons underscore, spelled, spelledFrom_append_cons underscore]
    rfl

/-- A text with something on both sides of a dot is a piece of a path if there is no slash in it. -/
theorem isPiece_of_split (split : key.toList = front ++ '.' :: ending) (ended : ending ≠ [])
    (noSlash : '/' ∉ key.toList) : IsPiece key := by
  have more : 1 ≤ ending.length := List.length_pos_of_ne_nil ended
  have length : key.length = front.length + (ending.length + 1) := by
    rw [← String.length_toList, split, List.length_append, List.length_cons]
  have long (text : String) (short : text.length ≤ 1) : key ≠ text := by
    rintro rfl
    omega
  refine ⟨?_, noSlash⟩
  simp [isPart, long "" (by decide), long "." (by decide)]

/-- The suffix of a file starts at the last dot of its name, if something stands on both sides of it. -/
theorem suffix_of_split (split : key.toList = front ++ '.' :: ending) (filled : front ≠ [])
    (ended : ending ≠ []) (undotted : '.' ∉ ending) (noSlash : '/' ∉ key.toList) :
    (Path.ofString key).suffix = String.ofList ('.' :: ending) := by
  have some : 1 ≤ front.length := List.length_pos_of_ne_nil filled
  have length : key.length = front.length + (ending.length + 1) := by
    rw [← String.length_toList, split, List.length_append, List.length_cons]
  have named : (Path.ofString key).name = key := by
    rw [(isPiece_of_split split ended noSlash).ofString_eq]
    rfl
  have dotless : ∀ c ∈ ending.reverse, decide (c ≠ '.') = true := by
    intro c member
    exact decide_eq_true fun dot => undotted (dot ▸ List.mem_reverse.mp member)
  have last : key.toList.reverse.takeWhile (· ≠ '.') = ending.reverse := by
    rw [split, List.reverse_append, List.reverse_cons, List.append_assoc,
      List.takeWhile_append_of_pos dotless, List.singleton_append,
      List.takeWhile_cons_of_neg (by decide), List.append_nil]
  have enough : (decide (2 ≤ key.length - ending.reverse.length) && !ending.reverse.isEmpty) = true := by
    rw [List.length_reverse, Bool.and_eq_true, decide_eq_true_eq]
    exact ⟨by omega, by simpa using ended⟩
  rw [Path.suffix, named, Path.suffixOf]
  simp only [last]
  rw [if_pos enough, List.reverse_reverse]

/-- What stands before the last dot of a key is left without the suffix, if there is anything before it
and after it. -/
theorem toList_stemOf (split : key.toList = front ++ '.' :: ending) (filled : front ≠ [])
    (ended : ending ≠ []) (undotted : '.' ∉ ending) (noSlash : '/' ∉ key.toList) :
    (stemOf key).toList = front := by
  have suffix := suffix_of_split split filled ended undotted noSlash
  have cut : key.length - (String.ofList ('.' :: ending)).length = front.length := by
    rw [← String.length_toList, split, List.length_append, List.length_cons, String.length_ofList,
      List.length_cons]
    omega
  have kept : ¬ (String.ofList ('.' :: ending)).isEmpty = true := by
    rw [String.isEmpty_iff, ← String.toList_inj, String.toList_ofList]
    exact List.cons_ne_nil _ _
  simp only [stemOf, suffix]
  rw [if_neg kept, cut, String.toList_ofList, split, List.take_left']
  rfl

/-! ## Paths -/

/-- A file name has an extension: there is something before and after its last dot. -/
structure HasExtension (name stem extension : String) : Prop where
  /-- The name is split at a dot. -/
  split : name = stem ++ "." ++ extension
  /-- Something stands before it. -/
  named : stem ≠ ""
  /-- Something stands after it. -/
  ended : extension ≠ ""
  /-- It is the last dot. -/
  undotted : '.' ∉ extension.toList
  /-- The name is not taken for a root. -/
  standing : isRootPart name = false

/-- What directories spell, but for those that are taken for roots. -/
def spelledIn (dirs : List String) : List Char :=
  (dirs.filter (!isRootPart ·)).flatMap fun part => spelled part.toList

/-- The key of a file in some directories spells what the directories and the name without its
extension spell. -/
theorem spelled_stemOf_keyOfParts (extended : HasExtension name stem extension) :
    spelled (stemOf (keyOfParts (dirs ++ [name]))).toList =
      spelledIn dirs ++ spelled stem.toList := by
  have kept : (dirs ++ [name]).filter (!isRootPart ·) = dirs.filter (!isRootPart ·) ++ [name] := by
    simp [extended.standing]
  have split : (keyOfParts (dirs ++ [name])).toList =
      ("__".intercalate (dirs.filter (!isRootPart ·) ++ [stem])).toList.map keyChar ++
        '.' :: extension.toList.map keyChar := by
    have dot : keyChar '.' = '.' := keyChar_eq_dot_iff.mpr rfl
    rw [keyOfParts, kept, String.toList_ofList, toList_intercalate_append, toList_intercalate_append,
      extended.split]
    simp [dot]
  have noSlash : '/' ∉ (keyOfParts (dirs ++ [name])).toList := by
    rw [keyOfParts, String.toList_ofList]
    intro member
    obtain ⟨c, -, same⟩ := List.mem_map.mp member
    exact keyChar_ne (by decide +kernel) same
  rw [toList_stemOf split ?_ ?_ ?_ noSlash]
  · rw [spelled, spelledFrom_map_keyChar, ← spelled, toList_intercalate_append, spelled_flatMap_append]
    rfl
  · rw [ne_eq, List.map_eq_nil_iff, toList_intercalate_append, List.append_eq_nil_iff]
    exact fun empty => extended.named (String.toList_eq_nil_iff.mp empty.2)
  · rw [ne_eq, List.map_eq_nil_iff, String.toList_eq_nil_iff]
    exact extended.ended
  · intro dotted
    obtain ⟨c, member, same⟩ := List.mem_map.mp dotted
    exact extended.undotted (keyChar_eq_dot_iff.mp same ▸ member)

variable {place : Surroundings} {base path other : Path} {otherKey : String}

/-- The suites of two paths differ just if what their keys spell without their suffixes does not name
one suite. For paths to files of one name with an extension, what the directories below the base
directory spell must be different, and neither path may spell what the other is made into. -/
theorem suites_differ_iff (keyed : place.fragmentKey path (some base) = .ok key)
    (also : place.fragmentKey other (some base) = .ok otherKey) :
    (suiteName key none ≠ suiteName otherKey none ↔
        ¬ Alike (spelled (stemOf key).toList) (spelled (stemOf otherKey).toList)) ∧
      ∀ dirs others name stem extension, HasExtension name stem extension →
        place.keyParts path base = .ok (dirs ++ [name]) →
        place.keyParts other base = .ok (others ++ [name]) →
          (suiteName key none ≠ suiteName otherKey none ↔ spelledIn dirs ≠ spelledIn others ∧
            ¬ MadeInto (spelledIn dirs ++ spelled stem.toList)
              (spelledIn others ++ spelled stem.toList) ∧
            ¬ MadeInto (spelledIn others ++ spelled stem.toList)
              (spelledIn dirs ++ spelled stem.toList)) := by
  have differ := (suiteName_eq_iff key otherKey).not
  refine ⟨differ, fun dirs others name stem extension extended made again => ?_⟩
  rw [Surroundings.fragmentKey_eq_map, made] at keyed
  rw [Surroundings.fragmentKey_eq_map, again] at also
  obtain rfl := Except.ok.inj keyed
  obtain rfl := Except.ok.inj also
  rw [spelled_stemOf_keyOfParts extended, spelled_stemOf_keyOfParts extended, Alike,
    List.append_cancel_right_eq, not_or, not_or] at differ
  exact differ

end Artifact

/-! ## Samples -/

namespace Sample

/-- A place for the sample in a directory. -/
def inDirectory (directory : String) : Path := .ofParts [directory, "x.nc"]

/-- Directories: the names of the first two differ in a mark only. -/
def directories : List String := ["a-b", "a_b", "c"]

/-- There are three of them. -/
theorem eq_of_mem_directories {directory : String} (listed : directory ∈ directories) :
    directory = "a-b" ∨ directory = "a_b" ∨ directory = "c" := by
  simpa [directories] using listed

/-- A tree with the sample in each of the directories. -/
def directedTree : Tree :=
  ⟨directories.flatMap fun directory =>
    [([directory], .directory), ([directory, "x.nc"], .file (Text.encodeUtf8 text) false)]⟩

/-- A world with that tree. -/
def directedWorld : World := { world with tree := directedTree }

/-- There is no link in the tree. -/
theorem unlinked_directedTree (place : Place) : directedTree.Unlinked place := by
  refine Tree.unlinked_of_linkless (fun entry member target => ?_) place
  obtain ⟨directory, -, listed⟩ := List.mem_flatMap.mp member
  rcases List.mem_pair.mp listed with rfl | rfl
  · intro link
    cases link
  · intro link
    cases link

/-- The places are named without dots and links. -/
theorem isPlain_inDirectory {directory : String} (listed : directory ∈ directories) :
    (inDirectory directory).IsPlain := by
  refine ⟨rfl, fun part member => ?_⟩
  have named : ∀ directory ∈ directories, IsName directory := by
    intro directory listed
    rcases eq_of_mem_directories listed with rfl | rfl | rfl <;> exact isName_iff.mpr (by decide)
  rcases List.mem_pair.mp member with rfl | rfl
  · exact named part listed
  · exact isName_iff.mpr (by decide)

/-- The key of the sample in a directory is made of the directory and the name. -/
theorem keyParts_inDirectory {directory : String} (listed : directory ∈ directories) :
    Surroundings.keyParts ⟨directedTree, []⟩ (inDirectory directory) (.ofParts []) =
      .ok [directory, "x.nc"] := by
  have resolved : Surroundings.resolve ⟨directedTree, []⟩ (inDirectory directory) =
      .ok (inDirectory directory) :=
    Surroundings.resolve_eq_self (isPlain_inDirectory listed) (unlinked_directedTree _)
  have rooted : Surroundings.resolve ⟨directedTree, []⟩ (.ofParts []) = .ok (.ofParts []) :=
    Surroundings.resolve_eq_self Path.isPlain_root (unlinked_directedTree _)
  have below : (inDirectory directory).below? (.ofParts []) = some ⟨0, [directory, "x.nc"]⟩ := rfl
  rw [Surroundings.keyParts, resolved, Except.ok_bind, rooted, Except.ok_bind, below]
  rfl

/-- The sample is read in each directory. -/
theorem load_inDirectory {directory : String} (listed : directory ∈ directories) :
    Fragment.load .standard directedTree [] (inDirectory directory) =
      .ok (fragmentAt (inDirectory directory)) := by
  have lies : directedTree.entry? [directory] = some .directory ∧
      directedTree.entry? [directory, "x.nc"] = some (.file (Text.encodeUtf8 text) false) := by
    unfold directedTree
    generalize Text.encodeUtf8 text = bytes
    rcases eq_of_mem_directories listed with rfl | rfl | rfl <;> exact ⟨rfl, rfl⟩
  have above : directedTree.HasAbove (inDirectory directory).parts := by
    intro above starts proper
    rcases List.prefix_cons_iff.mp starts with rfl | ⟨rest, rfl, more⟩
    · rfl
    · rcases List.prefix_cons_iff.mp more with rfl | ⟨last, rfl, ends⟩
      · exact lies.1
      · exact absurd (by rw [List.prefix_nil.mp ends]; rfl) proper
  have short : (inDirectory directory).IsShort ∧
      Inline.parse (inDirectory directory) text = .ok fragment.cases := by
    rcases eq_of_mem_directories listed with rfl | rfl | rfl <;>
      exact ⟨⟨by decide, by decide⟩, Except.eq_ok_of_toOption (by decide +kernel)⟩
  refine load_text ?_ short.2
  exact Fragment.readText_of_file (isPlain_inDirectory listed) (List.cons_ne_nil _ _) short.1 above
    lies.2 bare_text

/-- The keys of the sample in the directories. -/
theorem fragmentKey_inDirectory {directory : String} (listed : directory ∈ directories) :
    Surroundings.fragmentKey ⟨directedTree, []⟩ (inDirectory directory) (some (.ofParts [])) =
      .ok (directory ++ "__x.nc") := by
  have key : keyOfParts [directory, "x.nc"] = directory ++ "__x.nc" := by
    rcases eq_of_mem_directories listed with rfl | rfl | rfl <;> decide +kernel
  rw [Surroundings.fragmentKey_eq_map, keyParts_inDirectory listed, ← key]
  rfl

end Sample

namespace Artifact

/-- In directories that spell different words the sample has different suites. -/
theorem suites_differ_sample :
    Surroundings.fragmentKey ⟨Sample.directedTree, []⟩ (Sample.inDirectory "a-b")
        (some (.ofParts [])) = .ok "a-b__x.nc" ∧
      Surroundings.fragmentKey ⟨Sample.directedTree, []⟩ (Sample.inDirectory "c")
        (some (.ofParts [])) = .ok "c__x.nc" ∧
      suiteName "a-b__x.nc" none ≠ suiteName "c__x.nc" none := by
  have keyed := Sample.fragmentKey_inDirectory (show "a-b" ∈ Sample.directories by decide)
  have also := Sample.fragmentKey_inDirectory (show "c" ∈ Sample.directories by decide)
  have extended : HasExtension "x.nc" "x" "nc" :=
    ⟨by decide, by decide, by decide, by decide, by decide +kernel⟩
  have differ := (suites_differ_iff keyed also).2 ["a-b"] ["c"] "x.nc" "x" "nc" extended
    (Sample.keyParts_inDirectory (show "a-b" ∈ Sample.directories by decide))
    (Sample.keyParts_inDirectory (show "c" ∈ Sample.directories by decide))
  refine ⟨keyed, also, differ.mpr ⟨by decide +kernel, fun made => ?_, fun made => ?_⟩⟩
  · exact absurd made.legalName_eq.1 (by decide +kernel)
  · exact absurd made.legalName_eq.1 (by decide +kernel)

/-- Two files of one name are read together, being in directories whose names differ in a mark only.
Their keys are different, and their suites are the same. -/
theorem suites_clash :
    ∃ item other,
      ((loadFragments (.ofParts []) [Sample.inDirectory "a-b", Sample.inDirectory "a_b"]).perform
          Sample.machine Sample.directedWorld).1 = .ok [item, other] ∧
        item.path.name = other.path.name ∧ item.path.parts.dropLast ≠ other.path.parts.dropLast ∧
          item.key ≠ other.key ∧ suiteName item.key none = suiteName other.key none := by
  refine ⟨.ofFragment (Sample.inDirectory "a-b") "a-b__x.nc"
      (Sample.fragmentAt (Sample.inDirectory "a-b")),
    .ofFragment (Sample.inDirectory "a_b") "a_b__x.nc"
      (Sample.fragmentAt (Sample.inDirectory "a_b")), ?_, by decide, by decide, by decide,
    by decide +kernel⟩
  obtain ⟨errors, performed⟩ := loadFrom_perform Sample.machine Sample.directedWorld (.ofParts []) []
    [Sample.inDirectory "a-b", Sample.inDirectory "a_b"]
  have key : Surroundings.fragmentKey ⟨Sample.directedTree, []⟩ (Sample.inDirectory "a-b")
      (some (.ofParts [])) = .ok "a-b__x.nc" :=
    Sample.fragmentKey_inDirectory (show "a-b" ∈ Sample.directories by decide)
  have otherKey : Surroundings.fragmentKey ⟨Sample.directedTree, []⟩ (Sample.inDirectory "a_b")
      (some (.ofParts [])) = .ok "a_b__x.nc" :=
    Sample.fragmentKey_inDirectory (show "a_b" ∈ Sample.directories by decide)
  have loaded := Sample.load_inDirectory (show "a-b" ∈ Sample.directories by decide)
  have otherLoaded := Sample.load_inDirectory (show "a_b" ∈ Sample.directories by decide)
  rw [loadFragments, performed]
  simp only [loadedFrom, Sample.directedWorld, Sample.world, Sample.machine, key, otherKey, loaded,
    otherLoaded, Except.ok_bind]
  rfl

end Artifact

end NegativeCompile

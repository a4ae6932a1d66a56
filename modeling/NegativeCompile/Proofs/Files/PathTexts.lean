import NegativeCompile.Proofs.Files.Reading

/-! # Texts of paths with parts

A path that a text names has parts that count and are not cut by slashes (`IsPiece`). A walk along the
text of such a path is a walk along its parts, unless the text is too long (`Path.Each.walk_eq`). -/

namespace NegativeCompile.Files

variable {path : Path} {part : String}

/-- A part of a path that a text names: it counts and is not cut by a slash. -/
structure IsPiece (part : String) : Prop where
  /-- It counts as a part. -/
  counts : isPart part = true
  /-- It is not cut by a slash. -/
  noSlash : '/' ∉ part.toList

/-- The pieces of a text between separators hold none. -/
theorem notMem_of_mem_splitOn {separator : Char} {chars piece : List Char}
    (member : piece ∈ chars.splitOn separator) : separator ∉ piece := by
  induction chars generalizing piece with
  | nil =>
    rw [List.splitOn_nil, List.mem_singleton] at member
    rw [member]
    exact List.not_mem_nil
  | cons c rest ih =>
    obtain ⟨first, others, equal⟩ := List.exists_cons_of_ne_nil (List.splitOn_ne_nil separator rest)
    rw [List.splitOn_cons_eq_if_modifyHead, equal] at member
    have free : separator ∉ first := ih (equal ▸ List.mem_cons_self)
    split at member
    · rcases List.mem_cons.mp member with rfl | later
      · exact List.not_mem_nil
      · exact ih (equal ▸ later)
    next differs =>
      rw [List.modifyHead_cons] at member
      rcases List.mem_cons.mp member with rfl | later
      · refine List.not_mem_cons_of_ne_of_not_mem (fun same => differs ?_) free
        rw [same, BEq.rfl]
      · exact ih (equal ▸ List.mem_cons_of_mem _ later)

/-- What stands between slashes is not cut by one. -/
theorem slash_notMem_of_mem_slashPieces {text piece : String} (member : piece ∈ slashPieces text) :
    '/' ∉ piece.toList := by
  rw [slashPieces, splitAtChar_eq] at member
  obtain ⟨chars, listed, rfl⟩ := List.mem_map.mp member
  rw [String.toList_ofList]
  exact notMem_of_mem_splitOn listed

/-- The parts of the path that a text names are pieces. -/
theorem each_isPiece_ofString (text : String) : (Path.ofString text).Each IsPiece := by
  intro part member
  obtain ⟨listed, counts⟩ := List.mem_filter.mp member
  exact ⟨counts, slash_notMem_of_mem_slashPieces listed⟩

/-- A part by itself is a path with one part. -/
theorem IsPiece.ofString_eq (piece : IsPiece part) : Path.ofString part = ⟨0, [part]⟩ := by
  have uncut : ∀ chars ∈ [part.toList], '/' ∉ chars := by simpa using piece.noSlash
  have whole : part.toList.splitOn '/' = [part.toList] := by
    simpa using List.splitOn_intercalate '/' uncut (List.cons_ne_nil _ _)
  have relative : part.toList.takeWhile (· = '/') = [] := by
    cases spelled : part.toList with
    | nil => rfl
    | cons c more =>
      rw [List.takeWhile_cons_of_neg]
      rw [decide_eq_true_eq]
      rintro rfl
      exact piece.noSlash (spelled ▸ List.mem_cons_self)
  rw [Path.ofString, Path.leadingSlashes, relative, slashPieces, splitAtChar_eq, whole]
  simp [piece.counts]

/-- A path with a part added has one more part. -/
theorem IsPiece.append_eq (piece : IsPiece part) (path : Path) :
    path.append part = ⟨path.slashes, path.parts ++ [part]⟩ := by
  rw [Path.append, piece.ofString_eq]
  rfl

namespace Path.Each

/-- A part that counts has a character. -/
theorem toList_ne_nil (pieces : path.Each IsPiece) :
    ∀ chars ∈ path.parts.map String.toList, chars ≠ [] := by
  intro chars member nothing
  obtain ⟨part, listed, rfl⟩ := List.mem_map.mp member
  have counts := (pieces part listed).counts
  rw [String.toList_eq_nil_iff.mp nothing] at counts
  cases counts

/-- No part is cut by a slash. -/
theorem slash_notMem (pieces : path.Each IsPiece) :
    ∀ chars ∈ path.parts.map String.toList, '/' ∉ chars := by
  intro chars member
  obtain ⟨part, listed, rfl⟩ := List.mem_map.mp member
  exact (pieces part listed).noSlash

/-- What stands between the slashes of a path with parts ends with another character. -/
theorem exists_getLast? (pieces : path.Each IsPiece) (filled : path.parts ≠ []) :
    ∃ c, (['/'].intercalate (path.parts.map String.toList)).getLast? = some c ∧ c ≠ '/' :=
  getLast?_intercalate_ne_slash (by simpa using filled) pieces.toList_ne_nil pieces.slash_notMem

/-- What stands between the slashes of a path with parts starts with another character. -/
theorem exists_head? (pieces : path.Each IsPiece) (filled : path.parts ≠ []) :
    ∃ c, (['/'].intercalate (path.parts.map String.toList)).head? = some c ∧ c ≠ '/' := by
  have unempty := pieces.toList_ne_nil
  have uncut := pieces.slash_notMem
  obtain ⟨first, rest, equal⟩ := List.exists_cons_of_ne_nil filled
  rw [equal, List.map_cons] at unempty uncut ⊢
  obtain ⟨c, more, spelled⟩ := List.exists_cons_of_ne_nil (unempty _ List.mem_cons_self)
  refine ⟨c, ?_, ?_⟩
  · cases rest with
    | nil => simp [spelled]
    | cons next others =>
      rw [List.intercalate_cons_of_ne_nil (by simp), spelled]
      rfl
  · rintro rfl
    exact uncut first.toList List.mem_cons_self (spelled ▸ List.mem_cons_self)

/-- The text of a path with parts: its slashes, and its parts with slashes between them. -/
theorem toString_eq (pieces : path.Each IsPiece) (filled : path.parts ≠ []) :
    path.toString = String.ofList (List.replicate path.slashes '/') ++ "/".intercalate path.parts := by
  rw [Path.toString]
  split
  next empty =>
    obtain ⟨c, begins, -⟩ := pieces.exists_head? filled
    have spelled := congrArg String.toList (String.isEmpty_iff.mp empty)
    rw [String.toList_append, String.toList_intercalate] at spelled
    have nothing : ['/'].intercalate (path.parts.map String.toList) = [] :=
      (List.append_eq_nil_iff.mp spelled).2
    rw [nothing] at begins
    cases begins
  · rfl

/-- The characters of the text of a path with parts. -/
theorem toList_toString (pieces : path.Each IsPiece) (filled : path.parts ≠ []) :
    path.toString.toList = List.replicate path.slashes '/' ++
      ['/'].intercalate (path.parts.map String.toList) := by
  rw [pieces.toString_eq filled, String.toList_append, String.toList_ofList, String.toList_intercalate]
  rfl

/-- The text of a path with parts asks for no directory at its end. -/
theorem not_endsWith_toString (pieces : path.Each IsPiece) (filled : path.parts ≠ []) :
    ¬ path.toString.endsWith "/" = true := by
  obtain ⟨c, ends, other⟩ := pieces.exists_getLast? filled
  rw [String.endsWith, String.Slice.endsWith_string_iff, String.copy_toSlice,
    pieces.toList_toString filled]
  rintro ⟨before, equal⟩
  have last := congrArg List.getLast? equal
  rw [show "/".toList = ['/'] from rfl, List.getLast?_concat, List.getLast?_append, ends] at last
  exact other (Option.some.inj last).symm

/-- Slashes before pieces are slashes between empty pieces. -/
theorem replicate_append_intercalate {pieces : List (List Char)} (filled : pieces ≠ []) (count : Nat) :
    List.replicate count '/' ++ ['/'].intercalate pieces =
      ['/'].intercalate (List.replicate count [] ++ pieces) := by
  induction count with
  | zero => rfl
  | succ count ih =>
    rw [List.replicate_succ, List.cons_append, ih, List.replicate_succ, List.cons_append,
      List.intercalate_cons_of_ne_nil (by simp [filled])]
    rfl

/-- The steps along the text of a path with parts are its parts. -/
theorem stepsOf_toString (pieces : path.Each IsPiece) (filled : path.parts ≠ []) :
    stepsOf path.toString = path.parts := by
  have uncut : ∀ piece ∈ List.replicate path.slashes [] ++ path.parts.map String.toList,
      '/' ∉ piece := by
    intro piece member
    rcases List.mem_append.mp member with empty | listed
    · rw [List.eq_of_mem_replicate empty]
      exact List.not_mem_nil
    · exact pieces.slash_notMem piece listed
  have rejoined : (path.parts.map String.toList).map String.ofList = path.parts := by
    simp [Function.comp_def]
  have named : path.parts.filter (· != "") = path.parts := by
    rw [List.filter_eq_self]
    intro part member
    have counts := (pieces part member).counts
    rw [isPart, Bool.and_eq_true] at counts
    exact counts.1
  have empty : (String.ofList [] != "") = false := rfl
  rw [stepsOf, if_neg (pieces.not_endsWith_toString filled), List.append_nil, slashPieces,
    splitAtChar_eq, pieces.toList_toString filled,
    replicate_append_intercalate (by simpa using filled),
    List.splitOn_intercalate '/' uncut (by simp [filled]), List.map_append, List.filter_append, rejoined,
    named]
  simp

/-- The text of a path with parts starts with a slash just if the path is absolute. -/
theorem startsWith_toString (pieces : path.Each IsPiece) (filled : path.parts ≠ []) :
    path.toString.startsWith "/" = path.isAbsolute := by
  rw [Bool.eq_iff_iff, String.startsWith_string_iff, pieces.toList_toString filled, Path.isAbsolute,
    decide_eq_true_eq]
  constructor
  · intro starts relative
    obtain ⟨c, begins, other⟩ := pieces.exists_head? filled
    rw [relative, List.replicate_zero, List.nil_append] at starts
    obtain ⟨rest, equal⟩ := starts
    rw [← equal] at begins
    exact other (Option.some.inj begins).symm
  · intro absolute
    obtain ⟨count, equal⟩ := Nat.exists_eq_succ_of_ne_zero absolute
    rw [equal, List.replicate_succ]
    exact List.prefix_append ['/'] _

/-- A walk along the text of a path with parts is one along its parts, unless the text is too long. -/
theorem walk_eq (pieces : path.Each IsPiece) (filled : path.parts ≠ []) (tree : Tree) (start : Place)
    (follow : Bool) :
    walk tree start follow path.toString =
      if pathLimit < path.toString.utf8ByteSize then .error .longName
      else walkFrom tree follow linkLimit (if path.isAbsolute then [] else start) path.parts := by
  have named : ¬ path.toString.isEmpty = true := by
    intro empty
    obtain ⟨c, begins, -⟩ := pieces.exists_head? filled
    have spelled := pieces.toList_toString filled
    rw [String.isEmpty_iff.mp empty] at spelled
    rw [(List.append_eq_nil_iff.mp spelled.symm).2] at begins
    cases begins
  rw [walk, if_neg named, pieces.startsWith_toString filled, pieces.stepsOf_toString filled]

/-- A path above another one has no longer text. -/
theorem utf8ByteSize_le {slashes : Nat} {above rest : List String}
    (pieces : Path.Each IsPiece ⟨slashes, above ++ rest⟩) (filled : above ≠ []) :
    (⟨slashes, above⟩ : Path).toString.utf8ByteSize ≤
      (⟨slashes, above ++ rest⟩ : Path).toString.utf8ByteSize := by
  have first : Path.Each IsPiece ⟨slashes, above⟩ :=
    fun part member => pieces part (List.mem_append_left _ member)
  rw [first.toString_eq filled, pieces.toString_eq (List.append_ne_nil_of_left_ne_nil filled rest)]
  by_cases last : rest = []
  · rw [last, List.append_nil]
  · rw [String.intercalate_append_of_ne_nil filled last]
    simp only [String.utf8ByteSize_append]
    omega

end Path.Each

end NegativeCompile.Files
